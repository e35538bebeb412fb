import BlockConsole.Console.Operation
import BlockConsole.Proofs.Console.Work

/-!
# What it takes to act on a slot

`approach_cases` lists what an approach can come to: the agent is near enough already, or a teleport
is refused, or it is acknowledged. All operations on slots begin with an approach and then take one
action, and they write to the memory of the console only after that.

A frame is `Tidy` if it allows an approach and an action that fails. Whatever the environment does,
the operations on slots fail within every tidy frame.
-/

namespace BlockConsole

/-- The only blocks that need a side to be clear are containers. -/
theorem Belief.container_of_openable {b : Belief} {name : String} {states : BlockStates}
    {f : Facing} (h : b.openable? = some (name, states, some f)) :
    ∃ c, b = .container c ∧ c.clearSide? = some f := by
  cases b with
  | container c => exact ⟨c, rfl, by simp_all [openable?]⟩
  | _ => simp [openable?] at h

theorem Belief.eq_container_of_container? {b : Belief} {c : Container} (h : b.container? = some c) :
    b = .container c := by
  cases b with
  | container c' => simp_all [container?]
  | _ => simp [container?] at h

namespace Console

open Work

variable {W : Type} {s : Site W}

/-! ### Readiness -/

theorem run_requireReady (h : s.console.initialized = true) :
    requireReady.run s = ⟨.ok (), s, []⟩ := by
  rw [requireReady, run_bind_of_ok (run_console s), h]
  rfl

theorem run_requireReady_of_not (h : s.console.initialized = false) :
    requireReady.run s = ⟨.error (.error .uninitialized), s, []⟩ := by
  rw [requireReady, run_bind_of_ok (run_console s), h]
  rfl

/-- Asking whether the work area is laid out does nothing to a site. -/
theorem requireReady_site (s : Site W) :
    (requireReady.run s).site = s ∧ (requireReady.run s).events = [] := by
  cases h : s.console.initialized
  · simp [run_requireReady_of_not h]
  · simp [run_requireReady h]

theorem run_slotOf (i : Slot) (s : Site W) : (slotOf i.val).run s = ⟨.ok i, s, []⟩ := by
  rw [slotOf, dif_pos i.isLt]
  rfl

theorem run_slotOf_of_le {index : Nat} (h : 9 ≤ index) (s : Site W) :
    (slotOf index).run s = ⟨.error (.error (.invalidSlot index)), s, []⟩ := by
  rw [slotOf, dif_neg (Nat.not_lt.mpr h)]
  rfl

theorem slotOf_site (index : Nat) (s : Site W) :
    ((slotOf index).run s).site = s ∧ ((slotOf index).run s).events = [] := by
  rcases Nat.lt_or_ge index 9 with h | h
  · simp [run_slotOf ⟨index, h⟩]
  · simp [run_slotOf_of_le h]

section

variable {F : Frame W}

theorem within_requireReady : Within F requireReady s := by
  rw [Within, (requireReady_site s).1, (requireReady_site s).2]
  exact F.refl s

theorem within_slotOf (index : Nat) : Within F (slotOf index) s := by
  rw [Within, (slotOf_site index s).1, (slotOf_site index s).2]
  exact F.refl s

/-- Work that is done only if the console is ready. -/
theorem within_ready {α : Type} {f : Unit → Work W Failure α}
    (h : s.console.initialized = true → Within F (f ()) s) : Within F (requireReady >>= f) s := by
  cases hready : s.console.initialized with
  | false =>
    rw [Within, run_bind_of_error (run_requireReady_of_not hready)]
    exact F.refl s
  | true =>
    rw [Within, run_bind_of_ok (run_requireReady hready)]
    exact h hready

/-- Work on a slot that is done only if there is such a slot. -/
theorem within_slot {α : Type} {index : Nat} {f : Slot → Work W Failure α}
    (h : ∀ i : Slot, i.val = index → Within F (f i) s) : Within F (slotOf index >>= f) s := by
  rcases Nat.lt_or_ge index 9 with hlt | hge
  · rw [Within, run_bind_of_ok (run_slotOf ⟨index, hlt⟩ s)]
    exact h ⟨index, hlt⟩ rfl
  · rw [Within, run_bind_of_error (run_slotOf_of_le hge s)]
    exact F.refl s

/-- Work that depends on the console as it is. -/
theorem within_read {ε α : Type} {f : Console → Work W ε α} (h : Within F (f s.console) s) :
    Within F (Work.console >>= f) s := by
  rw [Within, run_bind_of_ok (run_console s)]
  exact h

end

/-! ### Keeping records

Records take no action, so they fail within every frame.
-/

section

variable {F : Frame W}

theorem failsWithin_recordInventory (requester : String) (index : Nat) (occupied : Bool) :
    FailsWithin F (recordInventory requester index occupied) s := by
  unfold recordInventory
  split
  · exact total_announce.failsWithin s
  · exact within_refuse.failsWithin

theorem failsWithin_recordSlot (requester : String) (index : Nat) (belief : Belief) :
    FailsWithin F (recordSlot requester index belief) s :=
  .bind (within_slotOf index) fun _ _ => total_announce.failsWithin _

theorem failsWithin_recordNeighbor (requester : String) (index : Nat) (f : Facing)
    (belief : Belief) : FailsWithin F (recordNeighbor requester index f belief) s :=
  .bind (within_slotOf index) fun _ _ => total_announce.failsWithin _

theorem within_requireSpareSlots (includeCenter : Bool) :
    Within F (requireSpareSlots includeCenter) s := by
  refine within_read ?_
  split
  · exact within_fail
  · exact within_pure

theorem within_requireInventoryPlace (excluding : List Nat) :
    Within F (requireInventoryPlace excluding) s := by
  refine within_read ?_
  split
  · exact within_pure
  · exact within_fail

theorem total_addObserver : Total (addObserver : Work W Failure ObserverId) :=
  total_console.bind fun _ => total_update.bind fun _ => total_pure

theorem total_removeObserver (id : ObserverId) :
    Total (removeObserver id : Work W Failure Bool) :=
  total_console.bind fun _ => total_update.bind fun _ => total_pure

end

/-! ### Moving -/

/-- The console with its agent at another position. -/
def movedTo (c : Console) (p : Position) : Console := { c with position := p }

section

variable (c : Console) (p : Position)

@[simp] theorem movedTo_position : (c.movedTo p).position = p := rfl

@[simp] theorem movedTo_initialized : (c.movedTo p).initialized = c.initialized := rfl

@[simp] theorem movedTo_settings : (c.movedTo p).settings = c.settings := rfl

@[simp] theorem movedTo_center : (c.movedTo p).center = c.center := rfl

@[simp] theorem movedTo_slot (i : Slot) : (c.movedTo p).slot i = c.slot i := rfl

@[simp] theorem movedTo_neighbor (i : Slot) (f : Facing) :
    (c.movedTo p).neighbor i f = c.neighbor i f := rfl

@[simp] theorem movedTo_slotPosition (index : Nat) :
    (c.movedTo p).slotPosition index = c.slotPosition index := rfl

end

/-! ### Approaching -/

variable [Environment W]

/-- Whether a target is near enough to act on it without a teleport. -/
def Reaches (c : Console) (target : Position) : Prop :=
  (c.position.distanceSq target : Int) ≤ c.settings.reachDistanceSq

/-- The teleport that an agent at a site would ask for. -/
def teleportAction (s : Site W) (target : Position) : Action :=
  .send (.teleport target) s.console.settings.teleportTimeout

/-- What the environment makes of a teleport, where an acknowledgment without success is an
error. -/
def teleportOutcome (s : Site W) (target : Position) : Except ActionError Acknowledgment :=
  (Command.teleport target).outcome
    (Environment.respond (teleportAction s target) s.world).reply

/-- The site after a teleport that was acknowledged. -/
def siteAt (s : Site W) (target : Position) : Site W where
  console := s.console.movedTo target
  world := (siteAfter (teleportAction s target) s).world

private theorem run_sendTeleport (s : Site W) (target : Position) :
    (sendChecked (.teleport target) s.console.settings.teleportTimeout).run s =
      ⟨(teleportOutcome s target).mapError fun e => .error (.action e),
        siteAfter (teleportAction s target) s, actEvents (teleportAction s target) s.world⟩ :=
  run_sendChecked ..

theorem run_teleport_of_ok {target : Position} {a : Acknowledgment}
    (h : teleportOutcome s target = .ok a) :
    (teleport target).run s =
      ⟨.ok (), siteAt s target, actEvents (teleportAction s target) s.world⟩ := by
  have hsend := run_sendTeleport s target
  rw [h] at hsend
  rw [teleport, run_bind_of_ok (run_console s), run_bind_of_ok hsend, run_update]
  simp [Outcome.after, siteAt, movedTo]

theorem run_teleport_of_error {target : Position} {e : ActionError}
    (h : teleportOutcome s target = .error e) :
    (teleport target).run s =
      ⟨.error (.error (.action e)), siteAfter (teleportAction s target) s,
        actEvents (teleportAction s target) s.world⟩ := by
  have hsend := run_sendTeleport s target
  rw [h] at hsend
  rw [teleport, run_bind_of_ok (run_console s), run_bind_of_error hsend]
  rfl

/-- What an **approach** from an initialized console can come to. -/
inductive Approached (s : Site W) (target : Position) : Outcome W Failure Unit → Prop
  /-- The target is near enough. -/
  | near (h : Reaches s.console target) : Approached s target ⟨.ok (), s, []⟩
  /-- The teleport was refused, or acknowledged without success. -/
  | refused {e : ActionError} {events : List Event} (h : teleportOutcome s target = .error e) :
      Approached s target
        ⟨.error (.error (.action e)), siteAfter (teleportAction s target) s, events⟩
  /-- The agent was teleported. -/
  | moved {a : Acknowledgment} {events : List Event} (h : teleportOutcome s target = .ok a)
      (he : ∀ e ∈ actEvents (teleportAction s target) s.world, e ∈ events) :
      Approached s target ⟨.ok (), siteAt s target, events⟩

/-- Where the target is near enough an approach does nothing. -/
theorem run_approach_of_reaches (h : s.console.initialized = true) {target : Position}
    (hnear : Reaches s.console target) : (approach target).run s = ⟨.ok (), s, []⟩ := by
  rw [Reaches] at hnear
  rw [approach, run_bind_of_ok (run_requireReady h), run_bind_of_ok (run_console s)]
  simp only [Outcome.after_nil]
  rw [if_pos hnear]
  rfl

/-- Where it is not, an approach says so and is a teleport. -/
theorem run_approach_of_not_reaches (h : s.console.initialized = true) {target : Position}
    (hfar : ¬ Reaches s.console target) :
    ∃ entry, (approach target).run s = ((teleport target).run s).after [.logged entry] := by
  rw [Reaches] at hfar
  rw [approach, run_bind_of_ok (run_requireReady h), run_bind_of_ok (run_console s)]
  simp only [Outcome.after_nil]
  rw [if_neg hfar, run_bind_of_ok (run_log ..)]
  exact ⟨_, rfl⟩

theorem approach_cases (h : s.console.initialized = true) (target : Position) :
    Approached s target ((approach target).run s) := by
  by_cases hnear : Reaches s.console target
  · rw [run_approach_of_reaches h hnear]
    exact .near hnear
  · obtain ⟨entry, hrun⟩ := run_approach_of_not_reaches h hnear
    rw [hrun]
    cases ht : teleportOutcome s target with
    | error e =>
      rw [run_teleport_of_error ht]
      exact .refused ht
    | ok a =>
      rw [run_teleport_of_ok ht]
      exact .moved ht fun e he => List.mem_append_right _ he

theorem run_approach_of_not (h : s.console.initialized = false) (target : Position) :
    (approach target).run s = ⟨.error (.error .uninitialized), s, []⟩ := by
  rw [approach, run_bind_of_error (run_requireReady_of_not h)]

/-- An approach is within every frame that has the teleport in it. -/
theorem within_approach {F : Frame W} {target : Position}
    (h : ∀ s : Site W, Within F (teleport target) s) (s : Site W) :
    Within F (approach target) s := by
  refine within_ready fun _ => within_read ?_
  dsimp only
  split
  · exact within_pure
  · exact .bind within_log fun _ _ => h _

/-- The choice of a hotbar slot is within every frame that allows to take it in hand and note it. -/
theorem within_selectHotbar {F : Frame W} {index : Nat}
    (h : index < hotbarSize → Within F (do
      Work.act (.holdSlot index)
      Work.update fun c => { c with hotbarSlot := index } : Work W Failure Unit) s) :
    Within F (selectHotbar index) s := by
  unfold selectHotbar
  split
  · exact within_refuse
  · next hindex =>
    refine within_read ?_
    split
    · exact within_pure
    · exact h (Nat.lt_of_not_le hindex)

/-- An approach changes nothing in the console but its position. -/
theorem exists_movedTo_of_approach (target : Position) (s : Site W) :
    ∃ p, ((approach target).run s).site.console = s.console.movedTo p := by
  cases h : s.console.initialized with
  | false =>
    rw [run_approach_of_not h]
    exact ⟨s.console.position, rfl⟩
  | true =>
    have hc := approach_cases h target
    generalize (approach target).run s = o at hc
    cases hc with
    | near => exact ⟨s.console.position, rfl⟩
    | refused => exact ⟨s.console.position, rfl⟩
    | moved => exact ⟨target, rfl⟩

/-- An approach and an action end in one of three ways: the approach fails, the action is refused
once the agent is there, or the work goes on from there with the reply. -/
theorem approach_act_cases {α : Type} {target : Position} {a : Action}
    {f : a.Reply → Work W Failure α} (motive : Outcome W Failure α → Prop)
    (stuck : ∀ e s₁ es, (approach target).run s = ⟨.error e, s₁, es⟩ → motive ⟨.error e, s₁, es⟩)
    (refused : ∀ e s₁ es, (approach target).run s = ⟨.ok (), s₁, es⟩ →
      (Environment.respond a s₁.world).reply = .error e →
      motive ⟨.error (.error (.action e)), siteAfter a s₁, es ++ actEvents a s₁.world⟩)
    (done : ∀ x s₁ es, (approach target).run s = ⟨.ok (), s₁, es⟩ →
      (Environment.respond a s₁.world).reply = .ok x →
      motive (((f x).run (siteAfter a s₁)).after (es ++ actEvents a s₁.world))) :
    motive ((do approach target; let x ← Work.act a; f x).run s) := by
  rcases happ : (approach target).run s with ⟨e | ⟨⟩, s₁, es⟩
  · rw [run_bind_of_error happ]
    exact stuck e s₁ es happ
  · rw [run_bind_of_ok happ]
    have hact := run_act a s₁
    cases hr : (Environment.respond a s₁.world).reply with
    | error e =>
      rw [hr] at hact
      rw [run_bind_of_error hact]
      exact refused e s₁ es happ hr
    | ok x =>
      rw [hr] at hact
      rw [run_bind_of_ok hact]
      have := done x s₁ es happ hr
      simpa only [Outcome.after, List.append_assoc] using this

/-! ### Operations of a console that is ready -/

/-- Clears the side that a block needs, if it needs one. -/
def clearSide (i : Slot) : Option Facing → Work W Failure Unit
  | some f => clearNeighbor i f
  | none => pure ()

/-- Opens what should be at the position of a slot. -/
def openAt (i : Slot) (pos : Position) (name : String) (states : BlockStates) :
    Work W Failure Bool := do
  approach pos
  let opened ← Work.act (.openContainer pos name states)
  if opened then pure true
  else
    Work.log .warn .console
      (name ++ " in slot " ++ Text.natText i ++ " at " ++ pos.text ++ " did not open")
    pure false

theorem run_openSlot (h : s.console.initialized = true) {i : Slot} {name : String}
    {states : BlockStates} {side : Option Facing}
    (hopen : (s.console.slot i).openable? = some (name, states, side)) :
    (openSlot i).run s =
      (do clearSide i side; openAt i (s.console.slotPosition i) name states).run s := by
  rw [openSlot, run_bind_of_ok (run_requireReady h), run_bind_of_ok (run_slotOf i s),
    run_bind_of_ok (run_console s)]
  simp only [hopen, Outcome.after_nil]
  cases side <;> rfl

theorem run_openSlot_of_none (h : s.console.initialized = true) {i : Slot}
    (hopen : (s.console.slot i).openable? = none) :
    (openSlot i).run s =
      ⟨.error (.error (.notOpenable i (s.console.slot i).name)), s, []⟩ := by
  rw [openSlot, run_bind_of_ok (run_requireReady h), run_bind_of_ok (run_slotOf i s),
    run_bind_of_ok (run_console s)]
  simp only [hopen, Outcome.after_nil, run_refuse]

end Console

open Work Console

/-! ### Operations on slots fail tidily -/

variable {W : Type} [Environment W]

/-- A frame is **tidy** if it allows an approach, and an action that fails. -/
structure Frame.Tidy (F : Frame W) : Prop where
  approach : ∀ target s, Within F (Console.approach target) s
  act : ∀ a s, FailsWithin F (Work.act a) s

namespace Frame.Tidy

variable {F : Frame W} (hF : F.Tidy)

include hF

/-- An approach, an action, and then work that never fails. -/
theorem approach_act {α : Type} {target : Position} {a : Action} {f : a.Reply → Work W Failure α}
    (hf : ∀ x, Total (f x)) (s : Site W) :
    FailsWithin F (do Console.approach target; let x ← Work.act a; f x) s :=
  .bind (hF.approach target s) fun _ _ => .bind_total (hF.act a _) hf

theorem placeHelper (requester : String) (index : Nat) (kind : Helper) (floor : Bool)
    (s : Site W) : FailsWithin F (placeHelper requester index kind floor) s := by
  refine .bind within_requireReady fun _ _ => .bind (within_slotOf index) fun i _ =>
    .bind within_console fun c _ => hF.approach_act (fun states => ?_) _
  refine total_log.bind fun _ => ?_
  cases floor
  · exact total_announce
  · exact total_announce.bind fun _ => total_announce

theorem clearSlot (requester : String) (index : Nat) (s : Site W) :
    FailsWithin F (clearSlot requester index) s :=
  .bind within_requireReady fun _ _ => .bind (within_slotOf index) fun _ _ =>
    .bind within_console fun _ _ => hF.approach_act (fun _ => total_announce) _

theorem placeBlock (requester : String) (i : Slot) (belief : Belief) (s : Site W) :
    FailsWithin F (placeBlock requester i belief) s :=
  .bind within_console fun _ _ => hF.approach_act
    (fun _ => total_log.bind fun _ => total_announce) _

theorem putInSlot (requester : String) (index : Nat) (belief : Belief) (s : Site W) :
    FailsWithin F (putInSlot requester index belief) s := by
  refine .bind within_requireReady fun _ _ => .bind (within_slotOf index) fun i _ =>
    .bind within_console fun c _ => ?_
  match belief with
  | .air => exact hF.clearSlot requester index _
  | .anvil _ => exact hF.placeHelper requester index .anvil _ _
  | .loom => exact hF.placeHelper requester index .loom _ _
  | .marker _ => exact within_refuse.failsWithin
  | .other false _ _ => exact within_refuse.failsWithin
  | .other true _ _ => exact hF.placeBlock requester i _ _
  | .container _ => exact hF.placeBlock requester i _ _

theorem obtainHelper (kind : Helper) (s : Site W) : FailsWithin F (obtainHelper kind) s := by
  refine .bind within_requireReady fun _ _ => .bind within_console fun c _ => ?_
  cases c.search? kind.test false with
  | some i => exact total_pure.failsWithin _
  | none =>
    simp only
    cases c.claimable? false with
    | none => exact within_fail.failsWithin
    | some i => exact .bind_total (hF.placeHelper _ _ _ _ _) fun _ => total_pure

theorem openAt (i : Slot) (pos : Position) (name : String) (states : BlockStates) (s : Site W) :
    FailsWithin F (openAt i pos name states) s :=
  hF.approach_act (fun opened => by
    cases opened
    · exact total_log.bind fun _ => total_pure
    · exact total_pure) s

/-- If a frame also allows clearing the side that the slot's block needs, then opening the slot
fails within it. -/
theorem openSlot {index : Nat} {s : Site W}
    (hclear : ∀ (i : Slot) (c : Container) (f : Facing), i.val = index →
      s.console.slot i = .container c → c.clearSide? = some f → Within F (clearNeighbor i f) s) :
    FailsWithin F (openSlot index) s := by
  cases h : s.console.initialized with
  | false =>
    intro e _
    rw [Console.openSlot, run_bind_of_error (run_requireReady_of_not h)]
    exact F.refl s
  | true =>
    rcases Nat.lt_or_ge index 9 with hlt | hge
    · cases hopen : (s.console.slot ⟨index, hlt⟩).openable? with
      | none =>
        intro e _
        rw [run_openSlot_of_none (i := ⟨index, hlt⟩) h hopen]
        exact F.refl s
      | some what =>
        obtain ⟨name, states, side⟩ := what
        have hside : Within F (clearSide ⟨index, hlt⟩ side) s := by
          cases side with
          | none => exact within_pure
          | some f =>
            -- Only a container has a side to clear.
            obtain ⟨c, hc, hf⟩ := Belief.container_of_openable hopen
            exact hclear ⟨index, hlt⟩ c f rfl hc hf
        rw [FailsWithin, run_openSlot (i := ⟨index, hlt⟩) h hopen]
        exact FailsWithin.bind hside fun _ _ => hF.openAt _ _ _ _ _
    · intro e _
      rw [Console.openSlot, run_bind_of_ok (run_requireReady h),
        run_bind_of_error (run_slotOf_of_le hge s)]
      exact F.refl s

theorem selectHotbar (index : Nat) (s : Site W) : FailsWithin F (selectHotbar index) s := by
  unfold Console.selectHotbar
  split
  · exact within_refuse.failsWithin
  · refine .bind within_console fun c _ => ?_
    split
    · exact total_pure.failsWithin _
    · exact .bind_total (hF.act _ _) fun _ => total_update

end Frame.Tidy

end BlockConsole
