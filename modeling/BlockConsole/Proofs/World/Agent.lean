import BlockConsole.Proofs.World.Obliging

/-!
# The agent in a world

An action that is neither a command nor takes anything in hand only tends the world: it may change
blocks, snapshots and the account of actions, and nothing else (`tended_respond`).

A world keeps where the player stands, which commands were sent and how many teleports succeeded.
Only a command changes any of it, or what the world is made to refuse: every other action leaves
the `SameAgent` behind (`sameAgent_respond`).

The `surplus` of a world is how many more commands were sent than teleports succeeded. Over a
world that refuses nothing a teleport keeps it, and every other command makes it larger by one.
-/

namespace BlockConsole.World

variable {w w' : World}

/-! ### Actions other than commands -/

/-- A world is **tended** if nothing has changed but its blocks, its snapshots and the account of
the actions that are no commands. -/
def Tended (w w' : World) : Prop :=
  ∃ blocks snapshots nextSnapshot calls lastSupport,
    w' = { w with blocks, snapshots, nextSnapshot, calls, lastSupport }

namespace Tended

theorem player (h : Tended w w') : w'.player = w.player := by
  obtain ⟨_, _, _, _, _, rfl⟩ := h
  rfl

theorem held (h : Tended w w') : w'.held = w.held := by
  obtain ⟨_, _, _, _, _, rfl⟩ := h
  rfl

theorem gameMode (h : Tended w w') : w'.gameMode = w.gameMode := by
  obtain ⟨_, _, _, _, _, rfl⟩ := h
  rfl

end Tended

theorem Reworked.tended (h : Reworked w w') : Tended w w' := by
  obtain ⟨blocks, calls, lastSupport, rfl⟩ := h
  exact ⟨blocks, _, _, calls, lastSupport, rfl⟩

theorem tended_count (w : World) (k : Action.Kind) : Tended w (w.count k) :=
  ⟨_, _, _, _, _, rfl⟩

/-- An action that is neither a command nor takes anything in hand does nothing but tend the world,
whatever comes of it. -/
theorem tended_respond {a : Action} (hsend : a.kind ≠ .send) (hhold : a.kind ≠ .holdSlot)
    (w : World) : Tended w (respond a w).world := by
  cases a with
  | placeBlock | setHelper | openContainer | restore => exact (reworked_respond rfl w).tended
  | holdSlot slot => exact absurd rfl hhold
  | send c timeout => exact absurd rfl hsend
  | backup start stop =>
    rw [respond]
    split <;> exact ⟨_, _, _, _, _, rfl⟩
  | discard id =>
    rw [respond]
    split
    · exact ⟨_, _, _, _, _, rfl⟩
    · show Tended w ((w.count .discard).respondDiscard id).world
      rw [respondDiscard]
      split <;> exact ⟨_, _, _, _, _, rfl⟩

/-- Two worlds have the **same agent** if they do not differ in the player, the commands and
teleports so far, and what is refused. -/
structure SameAgent (w w' : World) : Prop where
  player : w'.player = w.player
  failing : w'.failing = w.failing
  teleportsLost : w'.teleportsLost = w.teleportsLost
  commandLog : w'.commandLog = w.commandLog
  teleports : w'.teleports = w.teleports

theorem SameAgent.obliging (h : SameAgent w w') (hw : w.Obliging) : w'.Obliging :=
  ⟨h.failing.trans hw.failing, h.teleportsLost.trans hw.teleports⟩

theorem Tended.sameAgent (h : Tended w w') : SameAgent w w' := by
  obtain ⟨_, _, _, _, _, rfl⟩ := h
  exact ⟨rfl, rfl, rfl, rfl, rfl⟩

/-- What is taken in hand is not counted as part of the agent here. -/
theorem sameAgent_holdSlot (slot : Nat) (w : World) :
    SameAgent w (respond (.holdSlot slot) w).world := by
  cases hfail : w.failing.contains Action.Kind.holdSlot with
  | true =>
    rw [respond_of_failing hfail]
    exact (tended_count w .holdSlot).sameAgent
  | false =>
    rw [respond_of_not_failing hfail]
    show SameAgent w ((w.count .holdSlot).respondHold slot).world
    rw [respondHold]
    split <;> exact ⟨rfl, rfl, rfl, rfl, rfl⟩

/-- An action that is not a command leaves the agent alone, whatever comes of it. -/
theorem sameAgent_respond {a : Action} (h : a.kind ≠ .send) (w : World) :
    SameAgent w (respond a w).world := by
  by_cases hhold : a.kind = .holdSlot
  · cases a with
    | holdSlot slot => exact sameAgent_holdSlot slot w
    | _ => exact absurd hhold (by simp [Action.kind])
  · exact (tended_respond h hhold w).sameAgent

/-! ### Commands and teleports -/

/-- How many more commands were sent than teleports succeeded. -/
def surplus (w : World) : Int :=
  w.commandLog.size - w.teleports

theorem SameAgent.surplus (h : SameAgent w w') : w'.surplus = w.surplus := by
  rw [World.surplus, World.surplus, h.commandLog, h.teleports]

theorem surplus_logged (w : World) (c : Command) : (w.logged c).surplus = w.surplus + 1 := by
  simp only [surplus, logged, count, Array.size_push, Nat.cast_add, Nat.cast_one]
  omega

/-- A teleport is a command and a teleport. -/
theorem surplus_teleport (h : w.Obliging) (target : Position) (timeout : Nat) :
    (respond (.send (.teleport target) timeout) w).world.surplus = w.surplus := by
  have hlogged := surplus_logged w (.teleport target)
  have hlost : (w.logged (.teleport target)).teleportsLost = false := h.teleports
  rw [respond_send (c := .teleport target) trivial timeout (h.contains_failing .send)]
  simp only [apply, hlost, Bool.false_eq_true, if_false, surplus, Nat.cast_add,
    Nat.cast_one] at hlogged ⊢
  omega

/-- Every other command is a command only. -/
theorem surplus_send (h : w.Obliging) {c : Command} (hc : c.Readable)
    (hother : ∀ target, c ≠ .teleport target) (timeout : Nat) :
    (respond (.send c timeout) w).world.surplus = w.surplus + 1 := by
  rw [respond_send hc timeout (h.contains_failing .send), ← surplus_logged w c]
  have happly : SameAgent (w.logged c) ((w.logged c).apply c.text timeout c).2 := by
    cases c with
    | teleport target => exact absurd rfl (hother target)
    | gameMode mode => exact ⟨rfl, rfl, rfl, rfl, rfl⟩
    | fill start stop block states =>
      simp only [apply]
      split
      · exact ⟨rfl, rfl, rfl, rfl, rfl⟩
      · exact (rebuilt_putAll _ _ block states).reworked.tended.sameAgent
    | setBlock pos block states => exact (rebuilt_put _ pos block states).reworked.tended.sameAgent
    | clearInventory => exact ⟨rfl, rfl, rfl, rfl, rfl⟩
  exact happly.surplus

end BlockConsole.World
