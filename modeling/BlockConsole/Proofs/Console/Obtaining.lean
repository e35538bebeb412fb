import BlockConsole.Proofs.Bench.Move
import BlockConsole.Proofs.Console.Gate
import BlockConsole.Proofs.Console.Population
import Mathlib.Order.Bounds.Basic

/-!
# Obtaining a helper

A helper is obtained by three searches of the ring, which differ in their tests: for a helper of
the kind, for a slot that is believed to be empty, and for a spare one. A search goes through the
slots in the order of their numbers, so what it finds is the least slot that passes the test
(`Console.search?_eq_some_iff`), and the last two together find the slot that `Console.Claims`
describes.

Only where there is no helper of the kind yet, one is placed (`Supplied`): by one action, after at
most one teleport, in the slot that is claimed. No anvil and no loom is overwritten. The helper is
then the only one of its kind on the ring, and therefore the one that is found the next time
(`helper_obtained_in_least_slot`).
-/

namespace BlockConsole

open Work Console

/-! ### Searches find the least slot -/

/-- In a list that ascends, what is found first is the least one that passes the test. -/
theorem isLeast_of_find? {α : Type} [LinearOrder α] {l : List α} {test : α → Bool} {a : α}
    (hl : l.Pairwise (· < ·)) (h : l.find? test = some a) :
    IsLeast {b | b ∈ l ∧ test b = true} a := by
  obtain ⟨htest, before, after, rfl, hbefore⟩ := List.find?_eq_some_iff_append.mp h
  obtain ⟨-, htail, -⟩ := List.pairwise_append.mp hl
  have hafter := (List.pairwise_cons.mp htail).1
  refine ⟨⟨by simp, htest⟩, ?_⟩
  rintro b ⟨hb, hpass⟩
  rcases List.mem_append.mp hb with hb | hb
  · exact absurd (hbefore b hb) (by simp [hpass])
  · rcases List.mem_cons.mp hb with rfl | hb
    · exact le_rfl
    · exact (hafter b hb).le

theorem find?_eq_some_iff_isLeast {α : Type} [LinearOrder α] {l : List α} {test : α → Bool} {a : α}
    (hl : l.Pairwise (· < ·)) :
    l.find? test = some a ↔ IsLeast {b | b ∈ l ∧ test b = true} a := by
  refine ⟨isLeast_of_find? hl, fun hleast => ?_⟩
  obtain ⟨hmem, htest⟩ := hleast.1
  cases hfound : l.find? test with
  | none => exact absurd htest (List.find?_eq_none.mp hfound a hmem)
  | some b => exact congrArg some ((isLeast_of_find? hl hfound).unique hleast)

theorem mem_ring_iff {i : Slot} : i ∈ ring ↔ 1 ≤ i.val ∧ i.val ≤ 8 := by
  revert i
  decide

theorem Layout.mem_slotsFrom_false {i : Slot} : i ∈ slotsFrom false ↔ i ∈ ring := by
  revert i
  decide

theorem Layout.pairwise_slotsFrom (includeCenter : Bool) :
    (slotsFrom includeCenter).Pairwise (· < ·) := by
  revert includeCenter
  decide

namespace Console

variable {c : Console} {test : Belief → Bool} {i j : Slot}

/-- A search of the ring finds the least slot whose belief passes the test. -/
theorem search?_eq_some_iff :
    c.search? test false = some i ↔ IsLeast {j | j ∈ ring ∧ test (c.slot j) = true} i := by
  simp only [search?, find?_eq_some_iff_isLeast (Layout.pairwise_slotsFrom false),
    Layout.mem_slotsFrom_false]

theorem search?_eq_none_iff :
    c.search? test false = none ↔ ∀ j ∈ ring, test (c.slot j) = false := by
  simp only [search?, List.find?_eq_none, Layout.mem_slotsFrom_false, Bool.not_eq_true]

/-- The slot of the ring that is **claimed** for a new block: the least one that is believed to be
empty, and where none is, the least one with neither an anvil nor a loom. -/
def Claims (c : Console) (i : Slot) : Prop :=
  IsLeast {j | j ∈ ring ∧ (c.slot j).isAir = true} i ∨
    (∀ j ∈ ring, (c.slot j).isAir = false) ∧ IsLeast {j | j ∈ ring ∧ (c.slot j).isSpare = true} i

theorem claimable?_eq_some_iff : c.claimable? false = some i ↔ c.Claims i := by
  rw [claimable?, Option.or_eq_some_iff, search?_eq_some_iff, search?_eq_none_iff,
    search?_eq_some_iff, Claims]

theorem Claims.mem_ring (h : c.Claims i) : i ∈ ring := by
  rcases h with h | ⟨-, h⟩
  · exact h.1.1
  · exact h.1.1

/-- A claimed slot has neither an anvil nor a loom. -/
theorem Claims.isSpare (h : c.Claims i) : (c.slot i).isSpare = true := by
  rcases h with h | ⟨-, h⟩
  · have hair : (c.slot i).isAir = true := h.1.2
    revert hair
    cases c.slot i <;> simp [Belief.isAir, Belief.isSpare, Belief.isAnvil, Belief.isLoom]
  · exact h.1.2

/-- A support block is needed over air and over what is not known. -/
theorem needsSupport_iff : c.needsSupport i = true ↔
    c.neighbor i .down = .air ∨ ∃ name states, c.neighbor i .down = .other false name states := by
  rw [needsSupport]
  cases h : c.neighbor i .down with
  | other known => cases known <;> simp [Belief.bearsHelper]
  | _ => simp [Belief.bearsHelper]

/-! ### What is remembered of a helper -/

/-- The console after a helper was placed: if it needed a floor, the place under it is marked with
the support block. -/
def withHelper (c : Console) (i : Slot) (floor : Bool) (b : Belief) : Console :=
  (if floor then c.apply (.neighbor i .down (.markerOf c.settings.supportBlock)) else c).apply
    (.slot i b)

section

variable (c : Console) (floor : Bool) (b : Belief)

theorem believed_withHelper (cell : Cell) : (c.withHelper i floor b).believed cell =
    if cell = .slot i then b
    else if floor = true ∧ cell = .neighbor i .down then .markerOf c.settings.supportBlock
    else c.believed cell := by
  have hslot (c : Console) := believed_apply c (.slot i) cell b
  have hfloor := believed_apply c (.neighbor i .down) cell (.markerOf c.settings.supportBlock)
  simp only [Cell.change] at hslot hfloor
  rw [withHelper, hslot]
  cases floor with
  | false => simp
  | true => simp [hfloor]

theorem slot_withHelper : (c.withHelper i floor b).slot i = b := by
  have h := c.believed_withHelper (i := i) floor b (.slot i)
  rwa [if_pos rfl] at h

theorem initialized_withHelper : (c.withHelper i floor b).initialized = c.initialized := by
  cases floor <;> rfl

end

end Console

/-! ### Placing a helper -/

variable {W : Type} {s s' : Site W} {kind : Helper} {i : Slot} {floor : Bool} {events : List Event}

/-- The action that places a helper in a slot, with or without a support block under it. -/
def helperAction (c : Console) (i : Slot) (kind : Helper) (floor : Bool) : Action :=
  .setHelper (c.slotPosition i) kind (if floor then some c.settings.supportBlock else none)

/-- A helper was **supplied**: the only actions were the one that places it and at most a teleport
before that, and afterwards it is remembered in its slot. -/
structure Supplied (s : Site W) (i : Slot) (kind : Helper) (floor : Bool) (s' : Site W)
    (events : List Event) : Prop where
  actions : ∃ way, (way = [] ∨ way = [teleportAction s (s.console.slotPosition i)]) ∧
    actionsIn events = way ++ [helperAction s.console i kind floor]
  memory : ∃ p states, s'.console = (s.console.movedTo p).withHelper i floor (kind.belief states)

namespace Supplied

/-- Of no other cell anything else is believed afterwards, unless a floor was put there. -/
theorem believed_of_ne (h : Supplied s i kind floor s' events) {cell : Cell}
    (hslot : cell ≠ .slot i) (hfloor : ¬ (floor = true ∧ cell = .neighbor i .down)) :
    s'.console.believed cell = s.console.believed cell := by
  obtain ⟨p, states, hmemory⟩ := h.memory
  rw [hmemory, believed_withHelper, if_neg hslot, if_neg hfloor]
  cases cell <;> rfl

theorem test_slot (h : Supplied s i kind floor s' events) :
    kind.test (s'.console.slot i) = true := by
  obtain ⟨p, states, hmemory⟩ := h.memory
  rw [hmemory, slot_withHelper]
  exact Belief.helper?_eq_some_iff.mp (kind.belief_helper? states)

theorem slot_of_ne (h : Supplied s i kind floor s' events) {j : Slot} (hne : j ≠ i) :
    s'.console.slot j = s.console.slot j :=
  have hcell : Cell.slot j ≠ .slot i := fun heq => hne (Cell.slot.inj heq)
  h.believed_of_ne hcell (by simp)

theorem initialized (h : Supplied s i kind floor s' events) :
    s'.console.initialized = s.console.initialized := by
  obtain ⟨p, states, hmemory⟩ := h.memory
  rw [hmemory, initialized_withHelper, movedTo_initialized]

/-- In a slot that is claimed, a helper takes the place of no anvil and no loom, and neither does
the floor under it. -/
theorem believed_of_helper (h : Supplied s i kind (s.console.needsSupport i) s' events)
    (hclaims : s.console.Claims i) {cell : Cell}
    (hhelper : (s.console.believed cell).isSpare = false) :
    s'.console.believed cell = s.console.believed cell := by
  refine h.believed_of_ne ?_ ?_
  · rintro rfl
    exact absurd (hclaims.isSpare.symm.trans hhelper) (by simp)
  · rintro ⟨hneeds, rfl⟩
    have hspare : (s.console.neighbor i .down).isSpare = true := by
      rcases needsSupport_iff.mp hneeds with hair | ⟨name, states, hother⟩
      · rw [hair]
        rfl
      · rw [hother]
        rfl
    exact absurd (hspare.symm.trans hhelper) (by simp)

/-- Where there was no helper of the kind before, the one that was supplied is found first. -/
theorem isLeast (h : Supplied s i kind floor s' events) (hring : i ∈ ring)
    (hnone : ∀ j ∈ ring, kind.test (s.console.slot j) = false) :
    IsLeast {j | j ∈ ring ∧ kind.test (s'.console.slot j) = true} i := by
  refine ⟨⟨hring, h.test_slot⟩, ?_⟩
  rintro j ⟨hj, hpass⟩
  by_cases hij : j = i
  · exact hij.symm.le
  · rw [h.slot_of_ne hij, hnone j hj] at hpass
    exact absurd hpass (by simp)

end Supplied

variable [Environment W]

theorem supplied_of_placeHelper {requester : String} {x : Unit}
    (hready : s.console.initialized = true)
    (h : ((placeHelper requester i kind floor).run s).result = .ok x) :
    Supplied s i kind floor ((placeHelper requester i kind floor).run s).site
      ((placeHelper requester i kind floor).run s).events := by
  revert h
  rw [placeHelper, run_bind_of_ok (run_requireReady hready), run_bind_of_ok (run_slotOf i s),
    run_bind_of_ok (run_console s)]
  simp only [Outcome.after_nil]
  refine approach_act_cases (fun o => o.result = .ok x → Supplied s i kind floor o.site o.events)
    ?_ ?_ ?_
  · exact fun e s₁ es _ h => absurd h (by simp)
  · exact fun e s₁ es _ _ h => absurd h (by simp)
  · intro states s₁ es happ _ _
    have hway := actionsIn_approach hready (s.console.slotPosition i)
    obtain ⟨p, hp⟩ := exists_movedTo_of_approach (s.console.slotPosition i) s
    rw [happ] at hway hp
    obtain ⟨c₁, w₁⟩ := s₁
    obtain rfl : c₁ = s.console.movedTo p := hp
    constructor
    · refine ⟨actionsIn es, hway.imp And.left And.left, ?_⟩
      rw [Outcome.after_events, actionsIn_append, actionsIn_append, actionsIn_actEvents]
      -- What follows the action only says so and writes to memory.
      cases floor <;> exact List.append_nil _
    · refine ⟨p, states, ?_⟩
      cases floor <;> rfl

/-! ### Obtaining a helper -/

/-- Where there is a helper on the ring, obtaining one only looks for it. -/
theorem run_obtainHelper_of_least (hready : s.console.initialized = true)
    (hleast : IsLeast {j | j ∈ ring ∧ kind.test (s.console.slot j) = true} i) :
    (obtainHelper kind).run s = ⟨.ok i, s, []⟩ := by
  rw [obtainHelper, run_bind_of_ok (run_requireReady hready), run_bind_of_ok (run_console s)]
  simp only [search?_eq_some_iff.mpr hleast, Outcome.after_nil, run_pure]

/-- Where there is none, it is supplied in the slot that is claimed. -/
theorem supplied_of_obtainHelper (hready : s.console.initialized = true)
    (hnone : ∀ j ∈ ring, kind.test (s.console.slot j) = false)
    (h : ((obtainHelper kind).run s).result = .ok i) :
    s.console.Claims i ∧ Supplied s i kind (s.console.needsSupport i)
      ((obtainHelper kind).run s).site ((obtainHelper kind).run s).events := by
  revert h
  rw [obtainHelper, run_bind_of_ok (run_requireReady hready), run_bind_of_ok (run_console s)]
  simp only [search?_eq_none_iff.mpr hnone, Outcome.after_nil]
  cases hclaims : s.console.claimable? false with
  | none => exact fun h => absurd h (by simp)
  | some j =>
    intro h
    obtain rfl : j = i := eq_of_bind_pure h
    refine ⟨claimable?_eq_some_iff.mp hclaims, ?_⟩
    rcases hrun : (placeHelper requester j kind (s.console.needsSupport j)).run s with
      ⟨e | ⟨⟩, s₁, es⟩
    · rw [run_bind_of_error hrun] at h
      exact absurd h (by simp)
    · have hplaced := supplied_of_placeHelper hready (congrArg Outcome.result hrun)
      rw [hrun] at hplaced
      rw [run_bind_of_ok hrun]
      simpa using hplaced

/-- **Obtaining a helper takes the right slot and overwrites no helper.** Whatever the environment
does, if a ready console obtains a helper, then it is remembered in that slot, which is one of the
ring. If there was a helper of the kind on the ring, this is the least slot with one, and nothing
was done. Otherwise the slot is the one to claim; at most a teleport was sent before the action that
placed the helper, with a support block just where the place under the slot was air or unknown;
nothing but this slot and that place is remembered differently, so that all anvils and looms are
still there. Obtaining a helper of the kind once more yields the same slot and does nothing. -/
theorem helper_obtained_in_least_slot (hready : s.console.initialized = true)
    (h : ((obtainHelper kind).run s).result = .ok i) :
    let o := (obtainHelper kind).run s
    (1 ≤ i.val ∧ i.val ≤ 8 ∧ kind.test (o.site.console.slot i) = true) ∧
    ((∃ j ∈ ring, kind.test (s.console.slot j) = true) →
      IsLeast {j | j ∈ ring ∧ kind.test (s.console.slot j) = true} i ∧ o = ⟨.ok i, s, []⟩) ∧
    ((∀ j ∈ ring, kind.test (s.console.slot j) = false) →
      s.console.Claims i ∧ ∃ floor,
        (floor = true ↔ s.console.neighbor i .down = .air ∨
          ∃ name states, s.console.neighbor i .down = .other false name states) ∧
        Supplied s i kind floor o.site o.events ∧
        (∀ cell, cell ≠ .slot i → ¬ (floor = true ∧ cell = .neighbor i .down) →
          o.site.console.believed cell = s.console.believed cell) ∧
        (∀ cell, (s.console.believed cell).isSpare = false →
          o.site.console.believed cell = s.console.believed cell)) ∧
    (obtainHelper kind).run o.site = ⟨.ok i, o.site, []⟩ := by
  intro o
  by_cases hnone : ∀ j ∈ ring, kind.test (s.console.slot j) = false
  · obtain ⟨hclaims, hsupplied⟩ := supplied_of_obtainHelper hready hnone h
    obtain ⟨hlow, hhigh⟩ := mem_ring_iff.mp hclaims.mem_ring
    refine ⟨⟨hlow, hhigh, hsupplied.test_slot⟩, ?_, fun _ => ?_,
      run_obtainHelper_of_least (hsupplied.initialized.trans hready)
        (hsupplied.isLeast hclaims.mem_ring hnone)⟩
    · rintro ⟨j, hj, hpass⟩
      exact absurd (hnone j hj) (by simp [hpass])
    · exact ⟨hclaims, _, needsSupport_iff, hsupplied, fun cell => hsupplied.believed_of_ne,
        fun cell => hsupplied.believed_of_helper hclaims⟩
  · cases hsearch : s.console.search? kind.test false with
    | none => exact absurd (search?_eq_none_iff.mp hsearch) hnone
    | some j =>
      have hleast := search?_eq_some_iff.mp hsearch
      have hrun : o = ⟨.ok j, s, []⟩ := run_obtainHelper_of_least hready hleast
      obtain rfl : j = i := by
        have hresult : o.result = .ok i := h
        rw [hrun] at hresult
        exact Except.ok.inj hresult
      obtain ⟨hlow, hhigh⟩ := mem_ring_iff.mp hleast.1.1
      rw [hrun]
      exact ⟨⟨hlow, hhigh, hleast.1.2⟩, fun _ => ⟨hleast, rfl⟩, fun hall => absurd hall hnone,
        run_obtainHelper_of_least hready hleast⟩

/-- A ring of looms with a single chest among them, far from the agent. The center is empty. -/
def crowded : Site Jammed where
  console :=
    { settings := {}
      initialized := true
      position := ⟨100, 0, 0⟩
      slots := #v[.air, .loom, .containerOf "chest" .empty, .loom, .loom, .loom, .loom, .loom,
        .loom] }
  world := .jammed

/-- The anvil takes the place of the chest, since the center is not on the ring, and gets a floor,
since nothing is known of the place under the chest. -/
theorem helper_obtained_in_least_slot_crowded :
    crowded.console.initialized = true ∧
      ((obtainHelper .anvil).run crowded).result = .ok 2 ∧
      crowded.console.Claims 2 ∧ Supplied crowded 2 .anvil true
        ((obtainHelper .anvil).run crowded).site ((obtainHelper .anvil).run crowded).events ∧
      (obtainHelper .anvil).run ((obtainHelper .anvil).run crowded).site =
        ⟨.ok 2, ((obtainHelper .anvil).run crowded).site, []⟩ := by
  have hok : ((obtainHelper .anvil).run crowded).result = .ok 2 := by decide +kernel
  have hnone : ∀ j ∈ ring, Helper.anvil.test (crowded.console.slot j) = false := by decide +kernel
  obtain ⟨-, -, hsupplied, hagain⟩ := helper_obtained_in_least_slot (s := crowded) rfl hok
  obtain ⟨hclaims, floor, hfloor, hsupplied, -⟩ := hsupplied hnone
  obtain rfl : floor = true := hfloor.mpr (.inr ⟨_, _, rfl⟩)
  exact ⟨rfl, hok, hclaims, hsupplied, hagain⟩

end BlockConsole
