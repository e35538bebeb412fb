import BlockConsole.Proofs.Bench.Course
import BlockConsole.Proofs.Console.Atomicity
import BlockConsole.Proofs.Console.Steadiness
import Mathlib.Data.Fintype.Card

/-!
# How many helpers there are on the ring

The console obtains a helper only where a search of the ring finds none, so by itself it never has
more than one of a kind there. A user may place more of them directly (`Request.placed?`).
`Bench.placements` counts the helpers that were placed directly since the work area was last laid
out, and on the ring there is never more than one above that count (`card_onRing_serve`).

The ring has eight slots. As long as at most five helpers were placed directly, one of the eight is
left for a helper, and the operations that rely on it do not give up (`helpers_bounded`).
-/

namespace BlockConsole

open Work Console

/-! ### Helpers and beliefs -/

theorem Belief.helper?_eq_some_iff {b : Belief} {kind : Helper} :
    b.helper? = some kind ↔ kind.test b = true := by
  cases b <;> cases kind <;> simp [helper?, Helper.test, isAnvil, isLoom]

theorem Belief.isSpare_eq_false_iff {b : Belief} :
    b.isSpare = false ↔ Helper.anvil.test b = true ∨ Helper.loom.test b = true := by
  cases b <;> simp [isSpare, Helper.test, isAnvil, isLoom]

theorem Helper.belief_helper? (kind : Helper) (states : BlockStates) :
    (kind.belief states).helper? = some kind := by
  cases kind <;> rfl

/-- The **ring**: all slots but the center. -/
def ring : Finset Slot := Finset.univ.erase Layout.centerSlot

theorem card_ring : ring.card = 8 := by decide

theorem mem_slotsFrom_of_mem_ring {i : Slot} (hi : i ∈ ring) (includeCenter : Bool) :
    i ∈ Layout.slotsFrom includeCenter := by
  revert i includeCenter
  decide

namespace Console

/-- The slots of the ring that are believed to hold a helper of a kind. -/
def onRing (c : Console) (kind : Helper) : Finset Slot :=
  ring.filter fun i => kind.test (c.slot i)

variable {c c' : Console} {kind : Helper}

theorem mem_onRing {i : Slot} : i ∈ c.onRing kind ↔ i ∈ ring ∧ kind.test (c.slot i) = true :=
  Finset.mem_filter

theorem onRing_congr (h : c'.slots = c.slots) : c'.onRing kind = c.onRing kind := by
  have hslot : c'.slot = c.slot := funext fun i => by rw [slot, slot, h]
  rw [onRing, onRing, hslot]

/-- Where nothing is believed to be a helper, there is none on the ring. -/
theorem onRing_eq_empty (h : ∀ i, kind.test (c.slot i) = false) : c.onRing kind = ∅ :=
  Finset.filter_eq_empty_iff.mpr fun {i} _ => Bool.not_eq_true _ ▸ h i

/-- A search that finds no helper finds the ring without one. -/
theorem onRing_of_search? (h : c.search? kind.test false = none) : c.onRing kind = ∅ := by
  refine Finset.filter_eq_empty_iff.mpr fun {i} hi => ?_
  exact List.find?_eq_none.mp h i (mem_slotsFrom_of_mem_ring hi false)

/-- Unless helpers take all eight slots of the ring, one slot is spare. -/
theorem exists_spare (h : (c.onRing .anvil).card + (c.onRing .loom).card < 8) :
    ∃ i ∈ ring, (c.slot i).isSpare = true := by
  by_contra hnone
  -- Without a spare slot the helpers of both kinds cover the ring.
  have hsub : ring ⊆ c.onRing .anvil ∪ c.onRing .loom := by
    intro i hi
    have hspare : (c.slot i).isSpare = false := by
      rw [← Bool.not_eq_true]
      exact fun hspare => hnone ⟨i, hi, hspare⟩
    rw [Finset.mem_union, mem_onRing, mem_onRing, ← and_or_left]
    exact ⟨hi, Belief.isSpare_eq_false_iff.mp hspare⟩
  have hcard : 8 ≤ (c.onRing .anvil).card + (c.onRing .loom).card := by
    calc 8 = ring.card := card_ring.symm
      _ ≤ (c.onRing .anvil ∪ c.onRing .loom).card := Finset.card_le_card hsub
      _ ≤ (c.onRing .anvil).card + (c.onRing .loom).card := Finset.card_union_le _ _
  omega

/-- A spare slot on the ring is found by every search for one. -/
theorem spareSlots_ne_nil {i : Slot} (hi : i ∈ ring) (hspare : (c.slot i).isSpare = true)
    (includeCenter : Bool) : c.spareSlots includeCenter ≠ [] := by
  have hmem : i ∈ c.spareSlots includeCenter :=
    List.mem_filter.mpr ⟨mem_slotsFrom_of_mem_ring hi includeCenter, hspare⟩
  exact List.ne_nil_of_mem hmem

theorem claimable?_ne_none {i : Slot} (hi : i ∈ ring) (hspare : (c.slot i).isSpare = true) :
    c.claimable? false ≠ none := by
  intro hnone
  have hsearch : c.search? Belief.isSpare false = none := (Option.or_eq_none_iff.mp hnone).2
  exact List.find?_eq_none.mp hsearch i (mem_slotsFrom_of_mem_ring hi false) hspare

end Console

/-! ### Gaining helpers -/

variable {W : Type}

/-- Gaining helpers of a kind in no other slots of the ring than some, as a frame. -/
def gaining (W : Type) (kind : Helper) (extra : Finset Slot) : Frame W where
  Allows s s' _ := s'.console.onRing kind ⊆ extra ∪ s.console.onRing kind
  quiet _ _ := Finset.subset_union_right
  trans h₁ h₂ := h₂.trans (Finset.union_subset Finset.subset_union_left h₁)

/-- What is written into one slot is gained nowhere else. -/
theorem onRing_apply_subset {c : Console} {kind : Helper} {extra : Finset Slot} {change : Change}
    (h : change.Fills fun i b => kind.test b = true → i ∈ extra) :
    (c.apply change).onRing kind ⊆ extra ∪ c.onRing kind := by
  cases change with
  | inventory | neighbor => exact Finset.subset_union_right
  | slot i b =>
    intro j hj
    obtain ⟨hring, htest⟩ := mem_onRing.mp hj
    rw [Finset.mem_union, mem_onRing]
    by_cases hij : i = j
    · subst hij
      exact .inl (h (by simpa [Console.apply, slot] using htest))
    · have hne : i.val ≠ j.val := fun hval => hij (Fin.ext hval)
      exact .inr ⟨hring, by simpa [Console.apply, slot, Vector.getElem_set, hne] using htest⟩

variable [Environment W]

theorem gaining_covers (kind : Helper) (extra : Finset Slot) :
    (gaining W kind extra).Covers fun i b => kind.test b = true → i ∈ extra where
  act _ _ _ := Finset.subset_union_right
  change _ _ _ h := onRing_apply_subset h
  update g s hg := by
    show (g s.console).onRing kind ⊆ extra ∪ s.console.onRing kind
    rw [onRing_congr (hg s.console).slots]
    exact Finset.subset_union_right

/-- Whatever comes of laying out, there are no helpers afterwards. -/
theorem onRing_layOut (kind : Helper) (s : Site W) (dimension : Word) (center : Position) :
    ((layOut dimension center).run s).site.console.onRing kind = ∅ := by
  have hunknown : kind.test .unknown = false := by cases kind <;> rfl
  have hair : kind.test .air = false := by cases kind <;> rfl
  have hrelocated : (s.console.relocated dimension center).onRing kind = ∅ :=
    onRing_eq_empty fun i => by rw [(blank_relocated _ dimension center).slot i, hunknown]
  cases hsafe : isUnsafeCenter s.console.settings center with
  | true =>
    rw [run_layOut_refused hsafe]
    exact hrelocated
  | false =>
    have hlaidOut (s : Site W) :
        Within (gaining W kind ∅) (Work.update laidOut : Work W Failure Unit) s := by
      have hempty : (laidOut s.console).onRing kind = ∅ :=
        onRing_eq_empty fun i => by simp [laidOut, slot, hair]
      show (laidOut s.console).onRing kind ⊆ _
      rw [hempty]
      exact Finset.empty_subset _
    -- Building starts without helpers and gains none.
    have hbuild := (gaining_covers kind ∅).admits.buildArea s.console.settings dimension center
      (relocatedSite s dimension center) hlaidOut
    rw [run_layOut_of_safe hsafe, ← Finset.subset_empty, ← hrelocated]
    exact hbuild.trans (Finset.empty_union _).subset

/-! ### Requests -/

/-- The helper that a request **places directly** into a slot. -/
def Request.placed? : Request → Option Helper
  | placeHelper _ _ kind _ => some kind
  | putInSlot _ _ belief => belief.helper?
  | recordSlot _ _ belief => belief.helper?
  | _ => none

namespace Request

variable {r : Request} {c : Console} {i j : Slot} {b b' : Belief}

/-- A request fills one slot at most. -/
theorem eq_of_mayFill (h : r.MayFill c i b) (h' : r.MayFill c j b') : i = j := by
  cases r with
  | placeHelper | putInSlot | clearSlot | recordSlot => exact Fin.ext (h.1.trans h'.1.symm)
  | obtainHelper kind => exact Option.some.inj (h.2.1.symm.trans h'.2.1)
  | cacheLoad => exact h.1.trans h'.1.symm
  | _ => exact absurd h id

/-- A helper that a request may fill a slot with is placed there directly, or is obtained because
there is none on the ring. -/
theorem placed?_of_mayFill {kind : Helper} (h : r.MayFill c i b) (hkind : kind.test b = true) :
    r.placed? = some kind ∨ c.onRing kind = ∅ := by
  rw [← Belief.helper?_eq_some_iff] at hkind
  cases r with
  | placeHelper requester index kind' floor =>
    obtain ⟨rfl, states, rfl⟩ := h
    obtain rfl := Option.some.inj ((kind'.belief_helper? states).symm.trans hkind)
    exact .inl rfl
  | putInSlot requester index belief =>
    obtain ⟨rfl, hb⟩ := h
    cases hbelief : belief.helper? with
    | none =>
      rw [hbelief] at hb
      obtain rfl : b = belief := hb
      exact absurd (hbelief.symm.trans hkind) (by simp)
    | some kind' =>
      rw [hbelief] at hb
      obtain ⟨states, rfl⟩ := hb
      obtain rfl := Option.some.inj ((kind'.belief_helper? states).symm.trans hkind)
      exact .inl hbelief
  | recordSlot requester index belief =>
    obtain ⟨rfl, rfl⟩ := h
    exact .inl hkind
  | clearSlot =>
    obtain ⟨-, rfl⟩ := h
    exact absurd hkind (by simp [Belief.helper?])
  | obtainHelper kind' =>
    obtain ⟨hsearch, -, states, rfl⟩ := h
    obtain rfl := Option.some.inj ((kind'.belief_helper? states).symm.trans hkind)
    exact .inr (onRing_of_search? hsearch)
  | cacheLoad =>
    obtain ⟨-, container, rfl⟩ := h
    exact absurd hkind (by simp [Belief.helper?])
  | _ => exact absurd h id

/-- A request that fills a slot opens none. -/
theorem opened?_of_placed? {kind : Helper} (h : r.placed? = some kind) : r.opened? = none := by
  cases r <;> first | rfl | exact absurd h (by simp [placed?])

end Request

namespace Bench

/-- How many helpers of a kind were placed directly since the work area was last laid out, after one
more request; before, there were `count`. -/
def tally (b : Bench W) (kind : Helper) (count : Nat) (r : Request) : Nat :=
  if r.isLayOut then 0
  else if r.placed? = some kind ∧ (r.perform b).result.isOk then count + 1
  else count

/-- How many helpers of a kind are placed directly in the course of some requests since the work
area is last laid out; before, there were `count`. -/
def placements (b : Bench W) (kind : Helper) (count : Nat) : List Request → Nat
  | [] => count
  | r :: rest => (r.perform b).bench.placements kind (b.tally kind count r) rest

theorem le_tally (b : Bench W) (kind : Helper) (count : Nat) {r : Request}
    (h : r.isLayOut = false) : count ≤ b.tally kind count r := by
  rw [tally, if_neg (by simp [h])]
  split <;> omega

/-- A request other than laying out gains at most one helper, and that only by placing it directly
or where there was none. -/
theorem card_onRing_le {b : Bench W} {kind : Helper} {count : Nat} {r : Request}
    (hlay : r.isLayOut = false) (h : (b.site.console.onRing kind).card ≤ count + 1) :
    ((r.perform b).bench.site.console.onRing kind).card ≤ b.tally kind count r + 1 := by
  have hcount := b.le_tally kind count hlay
  by_cases hfill : ∃ i belief, r.MayFill b.site.console i belief ∧ kind.test belief = true
  · obtain ⟨i, belief, hmay, htest⟩ := hfill
    -- The request fills no other slot, so this is where the helper is gained.
    have hsub : (r.perform b).bench.site.console.onRing kind ⊆ {i} ∪ b.site.console.onRing kind :=
      (gaining_covers kind {i}).request b hlay
        (fun j belief' hmay' _ => Finset.mem_singleton.mpr (Request.eq_of_mayFill hmay' hmay))
        fun _ _ _ => Finset.subset_union_right
    have hcard : ((r.perform b).bench.site.console.onRing kind).card ≤
        1 + (b.site.console.onRing kind).card := by
      calc ((r.perform b).bench.site.console.onRing kind).card
          ≤ ({i} ∪ b.site.console.onRing kind).card := Finset.card_le_card hsub
        _ ≤ ({i} : Finset Slot).card + (b.site.console.onRing kind).card :=
          Finset.card_union_le _ _
        _ = 1 + (b.site.console.onRing kind).card := by rw [Finset.card_singleton]
    rcases Request.placed?_of_mayFill hmay htest with hplaced | hempty
    · cases hresult : (r.perform b).result with
      | ok a =>
        have htally : b.tally kind count r = count + 1 := by
          simp [tally, hlay, hplaced, hresult, Except.isOk, Except.toBool]
        omega
      | error e =>
        -- A helper that could not be placed is not believed in.
        obtain ⟨p, -, hp⟩ := (Request.kept_of_error hlay (Request.opened?_of_placed? hplaced)
          hresult).2
        have hsame : (b.site.console.movedTo p).onRing kind = b.site.console.onRing kind :=
          onRing_congr rfl
        rw [hp, hsame]
        omega
    · -- The first helper of its kind needs no direct placement.
      rw [hempty, Finset.card_empty] at hcard
      omega
  · have hsub : (r.perform b).bench.site.console.onRing kind ⊆ ∅ ∪ b.site.console.onRing kind :=
      (gaining_covers kind ∅).request b hlay
        (fun j belief' hmay' htest' => absurd ⟨j, belief', hmay', htest'⟩ hfill)
        fun _ _ _ => Finset.subset_union_right
    rw [Finset.empty_union] at hsub
    have hcard := Finset.card_le_card hsub
    omega

/-- There is at most one helper more than were placed directly. -/
theorem card_onRing_perform {b : Bench W} {kind : Helper} {count : Nat}
    (h : (b.site.console.onRing kind).card ≤ count + 1) (r : Request) :
    ((r.perform b).bench.site.console.onRing kind).card ≤ b.tally kind count r + 1 := by
  cases hlay : r.isLayOut with
  | false => exact card_onRing_le hlay h
  | true =>
    obtain ⟨dimension, center, rfl⟩ := Request.exists_layOut hlay
    have hempty : ((Request.layOut dimension center).perform b).bench.site.console.onRing kind =
        ∅ := onRing_layOut kind b.site dimension center
    rw [hempty, Finset.card_empty]
    exact Nat.zero_le _

/-- So it is after any run of requests. -/
theorem card_onRing_serve {b : Bench W} {kind : Helper} {count : Nat}
    (h : (b.site.console.onRing kind).card ≤ count + 1) (requests : List Request) :
    ((b.serve requests).site.console.onRing kind).card ≤ b.placements kind count requests + 1 := by
  induction requests generalizing b count with
  | nil => exact h
  | cons r rest ih => exact ih (card_onRing_perform h r)

end Bench

/-! ### Room for a helper -/

/-- **Helpers are bounded.** After any run of requests of a new bench over any environment, on the
ring there is at most one helper of a kind more than were placed there directly since the work area
was last laid out. As long as at most five anvils and looms were placed, neither the search for
spare slots nor obtaining a helper gives up. -/
theorem helpers_bounded (settings : Settings) (world : W) (requests : List Request) :
    let first := Bench.new settings world
    let b := first.serve requests
    (∀ kind, (b.site.console.onRing kind).card ≤ first.placements kind 0 requests + 1) ∧
      (first.placements .anvil 0 requests + first.placements .loom 0 requests ≤ 5 →
        (∀ includeCenter invariant, ((Request.spareSlots includeCenter).perform b).result ≠
          .error (.broken invariant)) ∧
        (∀ kind invariant, ((Request.obtainHelper kind).perform b).result ≠
          .error (.broken invariant))) := by
  intro first b
  have hbound (kind : Helper) :
      (b.site.console.onRing kind).card ≤ first.placements kind 0 requests + 1 := by
    have hunknown : kind.test .unknown = false := by cases kind <;> rfl
    have hempty : first.site.console.onRing kind = ∅ :=
      onRing_eq_empty fun i => by simp [first, Bench.new, slot, hunknown]
    refine Bench.card_onRing_serve ?_ requests
    rw [hempty, Finset.card_empty]
    exact Nat.zero_le _
  refine ⟨hbound, fun hplaced => ?_⟩
  have hroom : (b.site.console.onRing .anvil).card + (b.site.console.onRing .loom).card < 8 := by
    have hanvil := hbound .anvil
    have hloom := hbound .loom
    omega
  obtain ⟨i, hi, hspare⟩ := exists_spare hroom
  exact ⟨fun includeCenter => steady_requireSpareSlots (spareSlots_ne_nil hi hspare includeCenter),
    fun kind => steady_obtainHelper kind (claimable?_ne_none hi hspare)⟩

/-- A run in which an anvil is obtained, and then a second one and a loom are placed directly. -/
def threeHelpers : List Request :=
  [.layOut 0 ⟨1000, 64, 1000⟩, .obtainHelper .anvil, .placeHelper "user" 3 .anvil true,
    .recordSlot "user" 4 .loom]

theorem helpers_bounded_threeHelpers :
    ∃ first b : Bench Jammed, first = .new {} .jammed ∧ b = first.serve threeHelpers ∧
      first.placements .anvil 0 threeHelpers = 1 ∧ first.placements .loom 0 threeHelpers = 1 ∧
      (b.site.console.onRing .anvil).card = 2 ∧
      (∀ includeCenter invariant, ((Request.spareSlots includeCenter).perform b).result ≠
        .error (.broken invariant)) ∧
      (∀ kind invariant, ((Request.obtainHelper kind).perform b).result ≠
        .error (.broken invariant)) := by
  have hanvil : (Bench.new {} Jammed.jammed).placements .anvil 0 threeHelpers = 1 := by
    decide +kernel
  have hloom : (Bench.new {} Jammed.jammed).placements .loom 0 threeHelpers = 1 := by
    decide +kernel
  have hcard : (((Bench.new {} Jammed.jammed).serve threeHelpers).site.console.onRing
      .anvil).card = 2 := by
    decide +kernel
  have hfew : (Bench.new {} Jammed.jammed).placements .anvil 0 threeHelpers +
      (Bench.new {} Jammed.jammed).placements .loom 0 threeHelpers ≤ 5 := by
    rw [hanvil, hloom]
    decide
  obtain ⟨hspare, hobtain⟩ := (helpers_bounded {} Jammed.jammed threeHelpers).2 hfew
  exact ⟨_, _, rfl, rfl, hanvil, hloom, hcard, hspare, hobtain⟩

end BlockConsole
