import BlockConsole.Proofs.Bench.Plan

/-!
# The footprints of the operations on slots

Each operation on a slot has a plan, which can be told beforehand from what is believed of the slot
and its neighbors and from what is found there: `clearPlan`, `helperPlan`, `blockPlan`, `putPlan`
and `openPlan`. The plan of obtaining a helper is that of placing one in the slot that is claimed.

The operations follow their plans (`follows_putInSlot` and its siblings), so nothing else is written
in memory or in the world, whatever the world refuses.
-/

namespace BlockConsole

open Work Console

variable {s : Site World}

/-! ### Replies of a world that refuses nothing -/

/-- Whether the block that should be at a position opens for an agent that is near: it has the
expected name, and the side that it needs is clear. -/
def opensAt (blocks : Position → Option Block) (pos : Position) (name : String)
    (states : BlockStates) : Bool :=
  let expected := BlockName.canonical name
  decide ((blocks pos).map Block.name = some expected) &&
    match (Container.ofName expected states).clearSide? with
    | none => true
    | some f => (blocks (pos + f.offset)).isNone

namespace World

variable {w : World}

/-- For an agent that is near nothing but the blocks is in the way. -/
theorem isNone_obstacle? {pos : Position} (hnear : w.player.distanceSq pos ≤ interactionDistanceSq)
    (name : String) (states : BlockStates) :
    (w.obstacle? pos name states).isNone = opensAt w.blockAt pos name states := by
  have hfar : ¬interactionDistanceSq < w.player.distanceSq pos := Nat.not_lt.mpr hnear
  simp only [obstacle?, opensAt, hfar, if_false]
  by_cases hname : (w.blockAt pos).map Block.name = some (BlockName.canonical name)
  · simp only [hname, ne_eq, not_true, if_false, decide_true, Bool.true_and]
    cases (Container.ofName (BlockName.canonical name) states).clearSide? with
    | none => rfl
    | some f => cases h : w.blockAt (pos + f.offset) <;> simp [h]
  · simp [hname]

/-- Placing a block with states that cannot be read. -/
theorem respond_placeBlock_of_unread {text : String} {e : StatesError}
    (hstates : BlockStates.parse text = .error e) (pos : Position) (name : String)
    (h : w.failing.contains Action.Kind.placeBlock = false) :
    (respond (.placeBlock pos name text) w).reply =
      .error (.rejected Action.Kind.placeBlock.name e.message) := by
  have hresp : respond (.placeBlock pos name text) w =
      (w.count .placeBlock).respondPlaceBlock pos name text := respond_of_not_failing h
  simp only [hresp, respondPlaceBlock, hstates]

/-- Placing a helper. -/
theorem respond_setHelper (pos : Position) (kind : Helper) (support : Option String)
    (h : w.failing.contains Action.Kind.setHelper = false) :
    (respond (.setHelper pos kind support) w).reply = .ok (helperStates kind) := by
  have hresp : respond (.setHelper pos kind support) w =
      (w.count .setHelper).respondSetHelper pos kind support := respond_of_not_failing h
  rw [hresp, respondSetHelper_eq]

end World

/-! ### Placing a block -/

/-- Placing a block with states that can be read, and writing the belief that goes with it. -/
theorem follows_place (cell : Cell) (b : Belief) (name : String) {text : String}
    {states : BlockStates} {f : Unit → Work World Failure Unit}
    (hparse : BlockStates.parse text = .ok states)
    (hf : ∀ s₁ : Site World, ∃ events, (f ()).run s₁ =
      ⟨.ok (), { s₁ with console := s₁.console.apply (cell.change b) }, events⟩) :
    Follows ⟨.ok (), [⟨cell, b, Block.named? name states⟩]⟩ s
      ((do
        approach (cell.position s.console.center)
        let x ← Work.act (.placeBlock (cell.position s.console.center) name text)
        f x).run s) := by
  refine follows_approach_act cell (by simp [Action.kind])
    (fun p w _ x hr => ?_) fun w e hw hr => ?_
  · obtain ⟨events, hrun⟩ := hf (siteAfter _ ⟨s.console.movedTo p, w⟩)
    have hput := World.put_of_placeBlock hparse hr
    refine ⟨(), _, events, hrun, ?_, fun _ _ => rfl⟩
    have hwrote := Wrote.put (s := ⟨s.console.movedTo p, w⟩) cell b hput
    rw [Block.named?_canonical] at hwrote
    exact hwrote
  · have hok := (World.respond_placeBlock hparse (cell.position s.console.center) name
      (hw.contains_failing .placeBlock)).1
    exact absurd (hok.symm.trans hr) (by simp)

/-- Placing a block with states that cannot be read. -/
theorem follows_unread (cell : Cell) {name text : String} {e : StatesError}
    {f : Unit → Work World Failure Unit} (hparse : BlockStates.parse text = .error e) :
    Follows ⟨.error (.error (.action (.rejected Action.Kind.placeBlock.name e.message))), []⟩ s
      ((do
        approach (cell.position s.console.center)
        let x ← Work.act (.placeBlock (cell.position s.console.center) name text)
        f x).run s) := by
  refine follows_approach_act cell (by simp [Action.kind])
    (fun p w _ x hr => ?_) fun w e' hw hr => ?_
  · have hresp := World.respond_of_ok hr
    rw [hresp] at hr
    simp only [World.perform, World.respondPlaceBlock, hparse] at hr
    exact absurd hr (by simp)
  · have herror := World.respond_placeBlock_of_unread hparse (cell.position s.console.center) name
      (hw.contains_failing .placeBlock)
    rw [Except.error.inj (hr.symm.trans herror)]

theorem empty_text_parse : BlockStates.parse BlockStates.empty.text = .ok .empty :=
  BlockStates.parse_text BlockStates.quotable_empty.faithful

/-- The plan of clearing a slot. -/
def clearPlan (i : Slot) : Plan Unit :=
  ⟨.ok (), [⟨.slot i, .air, none⟩]⟩

theorem follows_clearSlot (requester : String) (i : Slot) :
    Follows (clearPlan i) s ((clearSlot requester i).run s) := by
  refine .ready (.slot (.read ?_))
  have hair := Block.named?_air .empty
  have hplaced := follows_place (s := s) (.slot i) .air BlockName.air
    (f := fun _ => announce requester (.slot i .air)) empty_text_parse fun s₁ => ⟨_, rfl⟩
  rw [hair] at hplaced
  exact hplaced

/-- The plan of placing a block, which fails if its states cannot be read again from their text. -/
def blockPlan (i : Slot) (b : Belief) : Plan Unit :=
  match BlockStates.parse b.states.text with
  | .ok states => ⟨.ok (), [⟨.slot i, b, Block.named? b.name states⟩]⟩
  | .error e =>
    ⟨.error (.error (.action (.rejected Action.Kind.placeBlock.name e.message))), []⟩

theorem follows_placeBlock (requester : String) (i : Slot) (b : Belief) :
    Follows (blockPlan i b) s ((placeBlock requester i b).run s) := by
  refine .read ?_
  rw [blockPlan]
  cases hparse : BlockStates.parse b.states.text with
  | error e => exact follows_unread (.slot i) hparse
  | ok states =>
    refine follows_place (.slot i) b b.name hparse fun s₁ => ?_
    rw [run_bind_of_ok (run_log ..), run_announce]
    exact ⟨_, rfl⟩

/-! ### Placing a helper -/

/-- The plan of placing a helper, with a support block under it if `floor` is set. -/
def helperPlan (settings : Settings) (i : Slot) (kind : Helper) (floor : Bool) : Plan Unit where
  result := .ok ()
  marks :=
    (if floor then
      [⟨.neighbor i .down, .markerOf settings.supportBlock,
        Block.named? settings.supportBlock .empty⟩]
    else []) ++
    [⟨.slot i, kind.belief (World.helperStates kind),
      Block.named? kind.blockName (World.helperStates kind)⟩]

/-- A helper that was placed, and the support block under it before that. -/
theorem wrote_setHelper {c : Console} {w : World} {i : Slot} {kind : Helper} {floor : Bool}
    {states : BlockStates}
    (hr : (World.respond (.setHelper (c.slotPosition i) kind
      (if floor then some c.settings.supportBlock else none)) w).reply = .ok states) :
    Wrote (helperPlan c.settings i kind floor).marks ⟨c, w⟩
      ⟨(if floor then c.apply (.neighbor i .down (.markerOf c.settings.supportBlock)) else c).apply
          (.slot i (kind.belief states)),
        (World.respond (.setHelper (c.slotPosition i) kind
          (if floor then some c.settings.supportBlock else none)) w).world⟩ := by
  obtain ⟨rfl, halike⟩ := World.put_of_setHelper hr
  cases floor with
  | false =>
    simp only [Bool.false_eq_true, if_false, World.supported] at halike ⊢
    exact .put (s := ⟨c, w⟩) (.slot i) _ halike
  | true =>
    simp only [if_true, World.supported] at halike ⊢
    let s₁ : Site World := ⟨c.apply (.neighbor i .down (.markerOf c.settings.supportBlock)),
      w.put (c.slotPosition i + Facing.down.offset) c.settings.supportBlock .empty⟩
    have hsupport : Wrote [⟨.neighbor i .down, .markerOf c.settings.supportBlock,
        Block.named? c.settings.supportBlock .empty⟩] ⟨c, w⟩ s₁ :=
      .put (.neighbor i .down) _ (.refl _)
    exact hsupport.trans (.put (s := s₁) (.slot i) _ halike)

theorem follows_placeHelper (requester : String) (i : Slot) (kind : Helper) (floor : Bool) :
    Follows (helperPlan s.console.settings i kind floor) s
      ((placeHelper requester i kind floor).run s) := by
  refine .ready (.slot (.read ?_))
  refine follows_approach_act (.slot i) (by simp [Action.kind])
    (fun p w _ states hr => ?_) fun w e hw hr => ?_
  · have hwrote := wrote_setHelper (c := s.console.movedTo p) hr
    rw [run_bind_of_ok (run_log ..)]
    cases floor with
    | false => exact ⟨(), _, _, rfl, hwrote, fun _ _ => rfl⟩
    | true => exact ⟨(), _, _, rfl, hwrote, fun _ _ => rfl⟩
  · have hok := World.respond_setHelper (s.console.slotPosition i) kind
      (if floor then some s.console.settings.supportBlock else none)
      (hw.contains_failing .setHelper)
    exact absurd (hok.symm.trans hr) (by simp)

/-- The plan of making a belief about a slot come true. -/
def putPlan (c : Console) (i : Slot) : Belief → Plan Unit
  | .air => clearPlan i
  | .anvil _ => helperPlan c.settings i .anvil (c.needsSupport i)
  | .loom => helperPlan c.settings i .loom (c.needsSupport i)
  | .marker name => ⟨.error (.error (.notPlaceable name)), []⟩
  | .other false name _ => ⟨.error (.error (.notPlaceable name)), []⟩
  | b => blockPlan i b

/-- What the plan of making a belief come true **can be**. -/
inductive PutPlan (c : Console) (i : Slot) (b : Belief) : Plan Unit → Prop
  | clear : PutPlan c i b (clearPlan i)
  | helper (kind : Helper) : PutPlan c i b (helperPlan c.settings i kind (c.needsSupport i))
  | refused (e : Failure) : PutPlan c i b ⟨.error e, []⟩
  /-- Only a block that is no helper is placed as a block. -/
  | block (h : b.isSpare = true) : PutPlan c i b (blockPlan i b)

theorem putPlan_cases (c : Console) (i : Slot) (b : Belief) : PutPlan c i b (putPlan c i b) := by
  cases b with
  | air => exact .clear
  | marker name => exact .refused _
  | anvil states => exact .helper .anvil
  | loom => exact .helper .loom
  | container k => exact .block rfl
  | other known name states =>
    cases known with
    | false => exact .refused _
    | true => exact .block rfl

theorem follows_putInSlot (requester : String) (i : Slot) (b : Belief) :
    Follows (putPlan s.console i b) s ((putInSlot requester i b).run s) := by
  refine .ready (.slot (.read ?_))
  match b with
  | .air => exact follows_clearSlot requester i
  | .anvil _ => exact follows_placeHelper requester i .anvil _
  | .loom => exact follows_placeHelper requester i .loom _
  | .marker _ => exact .done _ []
  | .other false _ _ => exact .done _ []
  | .other true name states => exact follows_placeBlock requester i (.other true name states)
  | .container c => exact follows_placeBlock requester i (.container c)

/-- The plan of obtaining a helper: nothing is written where there is one already. -/
def obtainPlan (c : Console) (kind : Helper) : Plan Slot :=
  match c.search? kind.test false, c.claimable? false with
  | some i, _ => ⟨.ok i, []⟩
  | none, none => ⟨.error (.broken (.noHelperSlot kind)), []⟩
  | none, some i => ⟨.ok i, (helperPlan c.settings i kind (c.needsSupport i)).marks⟩

theorem follows_obtainHelper (kind : Helper) :
    Follows (obtainPlan s.console kind) s ((obtainHelper kind).run s) := by
  refine .ready (.read ?_)
  rw [obtainPlan]
  cases s.console.search? kind.test false with
  | some i => exact .done _ []
  | none =>
    cases s.console.claimable? false with
    | none => exact .done _ []
    | some i =>
      exact (follows_placeHelper requester i kind (s.console.needsSupport i)).bind
        fun _ _ _ => .done (.ok i) []

/-- A helper is obtained in the slot of the plan, if one is obtained at all. -/
theorem result_obtainPlan {kind : Helper} {i : Slot}
    (h : ((obtainHelper kind).run s).result = .ok i) :
    (obtainPlan s.console kind).result = .ok i := by
  cases hready : s.console.initialized with
  | false =>
    rw [obtainHelper, run_bind_of_error (run_requireReady_of_not hready)] at h
    exact absurd h (by simp)
  | true =>
    rw [obtainHelper, run_bind_of_ok (run_requireReady hready), run_bind_of_ok (run_console s)] at h
    rw [obtainPlan]
    cases hsearch : s.console.search? kind.test false with
    | some j =>
      simp only [hsearch] at h
      exact h
    | none =>
      cases hclaim : s.console.claimable? false with
      | none => simp [hsearch, hclaim] at h
      | some j =>
        simp only [hsearch, hclaim, Outcome.after_result] at h ⊢
        exact congrArg Except.ok (eq_of_bind_pure h)

/-- Where there is no such helper yet, one is placed in the first slot of the ring that is believed
to be empty. -/
theorem obtainPlan_of_first {c : Console} {kind : Helper} {i : Slot}
    (hnone : ∀ j ∈ Layout.slotsFrom false, kind.test (c.slot j) = false)
    (hfirst : c.search? Belief.isAir false = some i)
    (hbears : (c.neighbor i .down).bearsHelper = true) :
    obtainPlan c kind = ⟨.ok i, (helperPlan c.settings i kind false).marks⟩ := by
  have hsearch : c.search? kind.test false = none :=
    List.find?_eq_none.mpr fun j hj => by simp [hnone j hj]
  have hclaim : c.claimable? false = some i := by rw [claimable?, hfirst, Option.some_or]
  have hneeds : c.needsSupport i = false := by
    rw [needsSupport, hbears]
    rfl
  simp only [obtainPlan, hsearch, hclaim, hneeds]

/-! ### Opening -/

/-- What clearing a side writes: nothing if there is no side to clear, or if it is believed to be
clear. -/
def sideMarks (c : Console) (i : Slot) : Option Facing → List Mark
  | none => []
  | some f => if (c.neighbor i f).isAir then [] else [⟨.neighbor i f, .air, none⟩]

theorem follows_clearSide (i : Slot) (side : Option Facing) :
    Follows ⟨.ok (), sideMarks s.console i side⟩ s ((clearSide i side).run s) := by
  cases side with
  | none => exact .done (.ok ()) []
  | some f =>
    refine .read ?_
    rw [sideMarks]
    split
    · exact .done (.ok ()) []
    · have hair := Block.named?_air .empty
      have hplaced := follows_place (s := s) (.neighbor i f) .air BlockName.air
        (f := fun _ => do
          announce requester (.neighbor i f .air)
          Work.log .debug .console ("Cleared " ++ f.name ++ " neighbor of slot " ++
            Text.natText i ++ " at " ++ (s.console.slotPosition i + f.offset).text))
        empty_text_parse fun s₁ => by
          rw [run_bind_of_ok (run_announce ..), run_log]
          exact ⟨_, rfl⟩
      rw [hair] at hplaced
      exact hplaced

theorem follows_openAt (i : Slot) (name : String) (states : BlockStates) :
    Follows ⟨.ok (opensAt s.world.blockAt (s.console.slotPosition i) name states), []⟩ s
      ((openAt i (s.console.slotPosition i) name states).run s) := by
  refine follows_approach_act (.slot i) (by simp [Action.kind])
    (fun p w hblocks opened hr => ?_) fun w e hw hr => ?_
  · have halike := World.alike_openContainer w (s.console.slotPosition i) name states
    have hwrote : Wrote [] ⟨s.console.movedTo p, w⟩
        ⟨s.console.movedTo p, (World.respond (.openContainer (s.console.slotPosition i) name
          states) w).world⟩ := .of_alike halike
    have hopens : w.Obliging → w.player.distanceSq (s.console.slotPosition i) ≤
        World.interactionDistanceSq →
        opensAt s.world.blockAt (s.console.slotPosition i) name states = opened := by
      intro hw hnear
      have hreply := World.respond_openContainer (s.console.slotPosition i) name states
        (hw.contains_failing .openContainer)
      rw [World.isNone_obstacle? hnear, hblocks] at hreply
      exact Except.ok.inj (hreply.symm.trans hr)
    cases opened with
    | true => exact ⟨true, _, _, rfl, hwrote, fun hw hnear => congrArg _ (hopens hw hnear)⟩
    | false => exact ⟨false, _, _, rfl, hwrote, fun hw hnear => congrArg _ (hopens hw hnear)⟩
  · have hok := World.respond_openContainer (s.console.slotPosition i) name states
      (hw.contains_failing .openContainer)
    exact absurd (hok.symm.trans hr) (by simp)

/-- The plan of opening a slot: the side that the block needs is cleared first. -/
def openPlan (s : Site World) (i : Slot) : Plan Bool :=
  match (s.console.slot i).openable? with
  | none => ⟨.error (.error (.notOpenable i (s.console.slot i).name)), []⟩
  | some (name, states, side) =>
    let marks := sideMarks s.console i side
    ⟨.ok (opensAt (writeAll (blocksOf s.console.center marks) s.world.blockAt)
      (s.console.slotPosition i) name states), marks⟩

theorem follows_openSlot (i : Slot) : Follows (openPlan s i) s ((openSlot i).run s) := by
  refine .ready (.slot (.read ?_))
  rw [openPlan]
  dsimp only
  cases (s.console.slot i).openable? with
  | none => exact .done _ []
  | some what =>
    obtain ⟨name, states, side⟩ := what
    have hopen (s₁ : Site World) (h : Wrote (sideMarks s.console i side) s s₁) :
        Follows ⟨.ok (opensAt (writeAll (blocksOf s.console.center (sideMarks s.console i side))
            s.world.blockAt) (s.console.slotPosition i) name states), []⟩ s₁
          ((openAt i (s.console.slotPosition i) name states).run s₁) := by
      have hpos : s.console.slotPosition i = s₁.console.slotPosition i := by
        rw [slotPosition, slotPosition, h.center]
      rw [← h.blocks, hpos]
      exact follows_openAt i name states
    have hboth := (follows_clearSide i side).bind fun _ s₁ h => hopen s₁ h
    cases side with
    | none => exact hboth
    | some f => exact hboth

end BlockConsole
