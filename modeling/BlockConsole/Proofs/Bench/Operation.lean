import BlockConsole.Proofs.Bench.Move

/-!
# Operations as moves

Over a `World` each operation of the console is made up of moves, whatever comes of it: an approach
and a refused action write nothing, and an action that is acknowledged is followed at once by the
change of memory that goes with it.
-/

namespace BlockConsole

open Work Console

variable {P : Container → Prop} {s : Site World}

/-! ### Approaching and acting -/

theorem moves_approach (target : Position) (s : Site World) :
    Within (moves P) (approach target) s := by
  rw [Within]
  cases h : s.console.initialized with
  | false =>
    rw [run_approach_of_not h]
    exact .refl
  | true =>
    have hc := approach_cases h target
    generalize (approach target).run s = o at hc
    cases hc with
    | near => exact .refl
    | refused hout =>
      exact .single (.of_alike (World.alike_of_outcome_error (c := .teleport target) hout))
    | moved hout =>
      have halike := World.after_of_outcome_ok (c := .teleport target) trivial hout
      exact .single (.still ⟨rfl, rfl, rfl, halike.snapshots, halike.nextSnapshot,
        fun _ => halike.player.symm⟩ (fun _ => rfl) halike.blockAt)

/-- Of an action only what follows an acknowledgment can write anything. -/
theorem within_act {α : Type} {a : Action} {f : a.Reply → Work World Failure α}
    (done : ∀ x, (World.respond a s.world).reply = .ok x →
      Relation.ReflTransGen (Move P) s ((f x).run (siteAfter a s)).site) :
    Within (moves P) (do let x ← Work.act a; f x) s := by
  have hact := run_act a s
  rw [Within]
  cases hr : (Environment.respond a s.world).reply with
  | error e =>
    rw [hr] at hact
    rw [run_bind_of_error hact]
    exact .single (.of_alike (World.alike_of_error hr))
  | ok x =>
    rw [hr] at hact
    rw [run_bind_of_ok hact]
    exact done x hr

/-- The same after an approach. -/
theorem within_approach_act {α : Type} {target : Position} {a : Action}
    {f : a.Reply → Work World Failure α}
    (done : ∀ x p w, (World.respond a w).reply = .ok x →
      Relation.ReflTransGen (Move P) ⟨s.console.movedTo p, w⟩
        ((f x).run ⟨s.console.movedTo p, (World.respond a w).world⟩).site) :
    Within (moves P) (do approach target; let x ← Work.act a; f x) s := by
  refine .bind (moves_approach target s) fun _ _ => ?_
  obtain ⟨p, hp⟩ := exists_movedTo_of_approach target s
  generalize ((approach target).run s).site = s₁ at hp
  obtain ⟨c₁, w⟩ := s₁
  obtain rfl : c₁ = s.console.movedTo p := hp
  exact within_act fun x hr => done x p w hr

/-- A block was placed at a cell and the belief about the cell was written. -/
theorem move_of_placeBlock (cell : Cell) {b : Belief} {name : String} {states : BlockStates}
    (quotable : states.Quotable) (ready : ∀ i, cell = .slot i → s.console.initialized = true)
    (describes : b.Describes (Block.named? name states)) (container : ∀ c, b = .container c → P c)
    {x : Unit}
    (h : (World.respond (.placeBlock (cell.position s.console.center) name states.text)
      s.world).reply = .ok x) :
    Move P s ⟨s.console.apply (cell.change b),
      (World.respond (.placeBlock (cell.position s.console.center) name states.text)
        s.world).world⟩ := by
  have halike := World.put_of_placeBlock (BlockStates.parse_text quotable.faithful) h
  rw [← Block.named?_canonical] at describes
  exact .put cell b ready describes container halike

theorem describes_air : Belief.air.Describes (Block.named? BlockName.air .empty) :=
  Block.named?_air .empty

/-! ### The operations -/

theorem moves_clearSlot (requester : String) (index : Nat) :
    Within (moves P) (clearSlot requester index) s := by
  refine within_ready fun hready => within_slot fun i _ => within_read ?_
  refine within_approach_act fun x p w hr => .single ?_
  exact move_of_placeBlock (.slot i) BlockStates.quotable_empty (fun _ _ => hready)
    describes_air (by simp) hr

/-- A belief is **placeable** if what is placed for it can be told from its name and states: a
container or a block with known states has a canonical name and states that can be quoted. -/
def Belief.Placeable (P : Container → Prop) : Belief → Prop
  | .container c => BlockName.canonical c.name = c.name ∧ c.states.Quotable ∧ P c
  | .other true name states => BlockName.canonical name = name ∧ states.Quotable
  | _ => True

theorem moves_placeBlock (requester : String) (i : Slot) {b : Belief}
    (hready : s.console.initialized = true) (quotable : b.states.Quotable)
    (describes : b.Describes (Block.named? b.name b.states))
    (container : ∀ c, b = .container c → P c) :
    Within (moves P) (placeBlock requester i b) s := by
  refine within_read (within_approach_act fun x p w hr => .single ?_)
  exact move_of_placeBlock (.slot i) quotable (fun _ _ => hready) describes container hr

/-- A helper that was placed is described by the belief in it. -/
theorem describes_helper (kind : Helper) :
    (kind.belief (World.helperStates kind)).Describes
      (Block.named? kind.blockName (World.helperStates kind)) := by
  have hanvil : BlockName.canonical BlockName.anvil = BlockName.anvil := by decide +kernel
  have hloom : BlockName.canonical BlockName.loom = BlockName.loom := by decide +kernel
  cases kind with
  | anvil =>
    show Block.named? BlockName.anvil _ = some ⟨BlockName.anvil, _⟩
    rw [Block.named?, hanvil, if_neg (by decide)]
  | loom =>
    show Block.named? BlockName.loom _ = some ⟨BlockName.loom, _⟩
    rw [Block.named?, hloom, if_neg (by decide)]

/-- A block is described by the marker of its name. -/
theorem describes_marker (name : String) (states : BlockStates) :
    (Belief.markerOf name).Describes (Block.named? name states) := by
  show (Block.named? name states).map Block.name =
    if BlockName.canonical name = BlockName.air then none else some (BlockName.canonical name)
  rw [Block.named?]
  split <;> rfl

theorem helper_belief_ne_container (kind : Helper) (states : BlockStates) (c : Container) :
    kind.belief states ≠ .container c := by
  cases kind <;> simp [Helper.belief]

theorem moves_placeHelper (requester : String) (index : Nat) (kind : Helper) (floor : Bool) :
    Within (moves P) (placeHelper requester index kind floor) s := by
  refine within_ready fun hready => within_slot fun i _ => within_read ?_
  refine within_approach_act fun states p w hr => ?_
  obtain ⟨rfl, halike⟩ := World.put_of_setHelper hr
  have container : ∀ c, kind.belief (World.helperStates kind) = .container c → P c :=
    fun c hc => absurd hc (helper_belief_ne_container kind _ c)
  cases floor with
  | false =>
    exact .single (.put (.slot i) _ (fun _ _ => hready) (describes_helper kind) container halike)
  | true =>
    -- The support block comes first, in the world as in memory.
    let w₁ := w.put (s.console.slotPosition i + Facing.down.offset) s.console.settings.supportBlock
      .empty
    let b := Belief.markerOf s.console.settings.supportBlock
    have hsupport : Move P ⟨s.console.movedTo p, w⟩
        ⟨(s.console.movedTo p).apply (.neighbor i .down b), w₁⟩ :=
      .put (.neighbor i .down) b (by simp) (describes_marker _ .empty)
        (by simp [b, Belief.markerOf]) (World.Alike.refl _)
    refine .tail (.single hsupport) ?_
    exact .put (.slot i) _ (fun _ _ => hready) (describes_helper kind) container halike

theorem moves_putInSlot (requester : String) (index : Nat) {b : Belief} (h : b.Placeable P) :
    Within (moves P) (putInSlot requester index b) s := by
  refine within_ready fun hready => within_slot fun i _ => within_read ?_
  match b, h with
  | .air, _ => exact moves_clearSlot requester index
  | .anvil _, _ => exact moves_placeHelper requester index .anvil _
  | .loom, _ => exact moves_placeHelper requester index .loom _
  | .marker _, _ => exact within_refuse
  | .other false _ _, _ => exact within_refuse
  | .other true name states, ⟨hname, hstates⟩ =>
    refine moves_placeBlock requester i hready hstates ?_ (by simp)
    show Block.named? name states = _
    rw [Block.named?, hname]
  | .container c, ⟨hname, hstates, hc⟩ =>
    refine moves_placeBlock requester i hready hstates ?_ ?_
    · show Block.named? c.name c.states = _
      rw [Block.named?, hname]
    · intro d hd
      obtain rfl : c = d := Belief.container.inj hd
      exact hc

theorem moves_obtainHelper (kind : Helper) : Within (moves P) (obtainHelper kind) s := by
  refine within_ready fun hready => within_read ?_
  cases s.console.search? kind.test false with
  | some i => exact within_pure
  | none =>
    dsimp only
    cases s.console.claimable? false with
    | none => exact within_fail
    | some i => exact .bind (moves_placeHelper _ _ _ _) fun _ _ => within_pure

theorem moves_clearNeighbor (i : Slot) (f : Facing) : Within (moves P) (clearNeighbor i f) s := by
  refine within_read ?_
  split
  · exact within_pure
  · refine within_approach_act fun x p w hr => .single ?_
    exact move_of_placeBlock (.neighbor i f) BlockStates.quotable_empty (by simp)
      describes_air (by simp) hr

theorem moves_openAt (i : Slot) (pos : Position) (name : String) (states : BlockStates) :
    Within (moves P) (openAt i pos name states) s := by
  refine within_approach_act fun opened p w hr => .single ?_
  have halike := World.alike_openContainer w pos name states
  cases opened <;> exact .of_alike halike

theorem moves_openSlot (index : Nat) : Within (moves P) (openSlot index) s := by
  refine within_ready fun hready => within_slot fun i _ => within_read ?_
  dsimp only
  cases (s.console.slot i).openable? with
  | none => exact within_refuse
  | some what =>
    obtain ⟨name, states, side⟩ := what
    cases side with
    | none => exact moves_openAt i _ name states
    | some f => exact .bind (moves_clearNeighbor i f) fun _ _ => moves_openAt i _ name states

theorem moves_selectHotbar (index : Nat) : Within (moves P) (selectHotbar index) s := by
  refine within_selectHotbar fun _ => within_act fun x hr => .single ?_
  have halike := World.held_of_holdSlot hr
  exact .still ⟨rfl, rfl, rfl, halike.snapshots, halike.nextSnapshot,
    fun hpose => hpose.trans halike.player.symm⟩ (fun c => by cases c <;> rfl) halike.blockAt

/-! ### Records that no cell depends on -/

theorem moves_recordInventory (requester : String) (index : Nat) (occupied : Bool) :
    Within (moves P) (recordInventory requester index occupied) s := by
  unfold recordInventory
  split
  · exact .single (.of_console rfl rfl rfl rfl fun c => by cases c <;> rfl)
  · exact within_refuse

theorem moves_addObserver : Within (moves P) addObserver s :=
  .single (.of_console rfl rfl rfl rfl fun c => by cases c <;> rfl)

theorem moves_removeObserver (id : ObserverId) : Within (moves P) (removeObserver id) s :=
  .single (.of_console rfl rfl rfl rfl fun c => by cases c <;> rfl)

end BlockConsole
