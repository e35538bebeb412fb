import BlockConsole.Proofs.Bench.Orderly

/-!
# Operations on different slots commute

An operation on a slot reads and writes only the cells of the slot: its plan depends on the `View`
of the slot alone (`planOn_congr`), and all its marks are about its cells (`home_of_mem_planOn`).
Where there is room, cells of different slots lie at different positions. So an operation on one
slot leaves the plan of an operation on another slot as it is, and their marks can be written in
either order.

An operation may move the agent, and what an agent can open depends on where it stands. But where
the reach of the settings is not longer than that of the player, the agent is near enough after its
approach, wherever it came from: every site is `Able`, and plans are carried out.
-/

namespace BlockConsole

open Work Console

variable {s s' : Site World} {i j : Slot}

/-! ### The cells of a slot -/

/-- The slot that a cell belongs to. -/
def Cell.home : Cell → Slot
  | slot i => i
  | neighbor i _ => i

/-- A **view** of a slot is kept between two sites: they agree on the settings and the work area,
and on all cells of the slot, in memory and in the world. -/
structure SameView (i : Slot) (s s' : Site World) : Prop where
  settings : s'.console.settings = s.console.settings
  center : s'.console.center = s.console.center
  believed : ∀ cell : Cell, cell.home = i → s'.console.believed cell = s.console.believed cell
  blocks : ∀ cell : Cell, cell.home = i →
    s'.world.blockAt (cell.position s.console.center) =
      s.world.blockAt (cell.position s.console.center)

/-- Marks of other slots keep the view of a slot. -/
theorem Wrote.sameView {marks : List Mark} (h : Wrote marks s s') (hroom : HasRoom s.console.center)
    (hhome : ∀ m ∈ marks, m.cell.home ≠ i) : SameView i s s' where
  settings := h.settings
  center := h.center
  believed cell hcell := by
    refine h.believed_of_forall_ne fun m hm heq => ?_
    exact hhome m hm (heq ▸ hcell)
  blocks cell hcell := by
    refine h.blockAt_of_forall_ne fun m hm heq => ?_
    exact hhome m hm (Cell.position_inj hroom heq ▸ hcell)

/-! ### Plans and views -/

theorem putPlan_congr (h : SameView i s s') (b : Belief) :
    putPlan s'.console i b = putPlan s.console i b := by
  have hdown : s'.console.neighbor i .down = s.console.neighbor i .down :=
    h.believed (.neighbor i .down) rfl
  have hneeds : s'.console.needsSupport i = s.console.needsSupport i := by
    rw [needsSupport, needsSupport, hdown]
  cases b with
  | anvil states => simp only [putPlan, h.settings, hneeds]
  | loom => simp only [putPlan, h.settings, hneeds]
  | other known name states => cases known <;> rfl
  | _ => rfl

theorem sideMarks_congr (h : SameView i s s') (side : Option Facing) :
    sideMarks s'.console i side = sideMarks s.console i side := by
  cases side with
  | none => rfl
  | some f =>
    have hside : s'.console.neighbor i f = s.console.neighbor i f := h.believed (.neighbor i f) rfl
    simp only [sideMarks, hside]

/-- Whether the block in a slot opens depends on the cells of the slot. -/
theorem opensAt_congr {blocks blocks' : Position → Option Block} (center : Position)
    (h : ∀ cell : Cell, cell.home = i →
      blocks' (cell.position center) = blocks (cell.position center))
    (name : String) (states : BlockStates) :
    opensAt blocks' (center + Layout.slotOffset i) name states =
      opensAt blocks (center + Layout.slotOffset i) name states := by
  have hslot : blocks' (center + Layout.slotOffset i) = blocks (center + Layout.slotOffset i) :=
    h (.slot i) rfl
  simp only [opensAt, hslot]
  cases (Container.ofName (BlockName.canonical name) states).clearSide? with
  | none => rfl
  | some f =>
    have hside : blocks' (center + Layout.slotOffset i + f.offset) =
        blocks (center + Layout.slotOffset i + f.offset) := h (.neighbor i f) rfl
    simp only [hside]

theorem openPlan_congr (h : SameView i s s') : openPlan s' i = openPlan s i := by
  have hslot : s'.console.slot i = s.console.slot i := h.believed (.slot i) rfl
  rw [openPlan, openPlan, hslot]
  cases (s.console.slot i).openable? with
  | none => rfl
  | some what =>
    obtain ⟨name, states, side⟩ := what
    have hopens := opensAt_congr s.console.center (fun cell hcell => writeAll_congr
      (blocksOf s.console.center (sideMarks s.console i side)) (h.blocks cell hcell)) name states
    simp only [sideMarks_congr h, h.center, slotPosition, hopens]

/-! ### Operations on a slot -/

namespace Request

/-- A request is an operation **on a slot**: putting something into it, clearing it or opening
it. -/
def OnSlot (i : Slot) : Request → Prop
  | placeHelper _ index _ _ => index = i.val
  | putInSlot _ index _ => index = i.val
  | clearSlot _ index => index = i.val
  | openSlot index => index = i.val
  | _ => False

/-- The plan of an operation on a slot. -/
def planOn (s : Site World) (i : Slot) : (r : Request) → Plan r.Answer
  | placeHelper _ _ kind floor => helperPlan s.console.settings i kind floor
  | putInSlot _ _ belief => putPlan s.console i belief
  | clearSlot .. => clearPlan i
  | openSlot _ => openPlan s i
  | _ => ⟨.error (.error .uninitialized), []⟩

variable {r : Request}

theorem follows_perform (h : r.OnSlot i) (b : Bench World) :
    Follows (r.planOn b.site i) b.site
      ⟨(r.perform b).result, (r.perform b).bench.site, (r.perform b).events⟩ := by
  cases r with
  | placeHelper requester index kind floor =>
    obtain rfl : index = i.val := h
    exact follows_placeHelper requester i kind floor
  | putInSlot requester index belief =>
    obtain rfl : index = i.val := h
    exact follows_putInSlot requester i belief
  | clearSlot requester index =>
    obtain rfl : index = i.val := h
    exact follows_clearSlot requester i
  | openSlot index =>
    obtain rfl : index = i.val := h
    exact follows_openSlot i
  | _ => exact h.elim

/-- The plan depends on the view of the slot alone. -/
theorem planOn_congr (h : r.OnSlot i) (hview : SameView i s s') :
    r.planOn s' i = r.planOn s i := by
  cases r with
  | placeHelper requester index kind floor =>
    simp only [planOn, hview.settings]
  | putInSlot requester index belief => exact putPlan_congr hview belief
  | clearSlot requester index => rfl
  | openSlot index => exact openPlan_congr hview
  | _ => exact h.elim

end Request

theorem home_of_mem_helperPlan {settings : Settings} {kind : Helper} {floor : Bool} {m : Mark}
    (h : m ∈ (helperPlan settings i kind floor).marks) : m.cell.home = i := by
  cases floor with
  | false =>
    obtain rfl := List.mem_singleton.mp h
    rfl
  | true => rcases List.mem_pair.mp h with rfl | rfl <;> rfl

theorem home_of_mem_blockPlan {b : Belief} {m : Mark} (h : m ∈ (blockPlan i b).marks) :
    m.cell.home = i := by
  rw [blockPlan] at h
  split at h
  · obtain rfl := List.mem_singleton.mp h
    rfl
  · simp at h

theorem home_of_mem_putPlan {c : Console} {b : Belief} {m : Mark}
    (h : m ∈ (putPlan c i b).marks) : m.cell.home = i := by
  have hc := putPlan_cases c i b
  generalize putPlan c i b = plan at h hc
  cases hc with
  | clear =>
    obtain rfl := List.mem_singleton.mp h
    rfl
  | helper kind => exact home_of_mem_helperPlan h
  | refused e => simp at h
  | block => exact home_of_mem_blockPlan h

theorem home_of_mem_openPlan {m : Mark} (h : m ∈ (openPlan s i).marks) : m.cell.home = i := by
  rw [openPlan] at h
  split at h
  · simp at h
  · next name states side _ =>
    cases side with
    | none => simp [sideMarks] at h
    | some f =>
      simp only [sideMarks] at h
      split at h
      · simp at h
      · obtain rfl := List.mem_singleton.mp h
        rfl

/-- All marks of an operation on a slot are about its cells. -/
theorem Request.home_of_mem_planOn {r : Request} (h : r.OnSlot i) {m : Mark}
    (hm : m ∈ (r.planOn s i).marks) : m.cell.home = i := by
  cases r with
  | placeHelper requester index kind floor => exact home_of_mem_helperPlan hm
  | putInSlot requester index belief => exact home_of_mem_putPlan hm
  | clearSlot requester index =>
    obtain rfl := List.mem_singleton.mp hm
    rfl
  | openSlot index => exact home_of_mem_openPlan hm
  | _ => exact h.elim

/-! ### Two operations, one after the other -/

/-- Marks of different slots can be exchanged, in memory and in the world. -/
theorem Wrote.comm {marks more : List Mark} {s₁ s₂ : Site World} (h₁ : Wrote (marks ++ more) s s₁)
    (h₂ : Wrote (more ++ marks) s s₂) (hroom : HasRoom s.console.center) (hij : i ≠ j)
    (hi : ∀ m ∈ marks, m.cell.home = i) (hj : ∀ m ∈ more, m.cell.home = j) :
    s₁.console.believed = s₂.console.believed ∧ s₁.world.blockAt = s₂.world.blockAt := by
  have hne : ∀ m ∈ marks, ∀ n ∈ more, m.cell ≠ n.cell := by
    intro m hm n hn heq
    exact hij ((hi m hm).symm.trans (heq ▸ hj n hn))
  constructor
  · rw [h₁.memory, h₂.memory, beliefsOf_append, beliefsOf_append]
    exact writeAll_comm (List.forall_mem_map.mpr fun m hm =>
      List.forall_mem_map.mpr fun n hn => hne m hm n hn) _
  · rw [h₁.blocks, h₂.blocks, blocksOf_append, blocksOf_append]
    exact writeAll_comm (List.forall_mem_map.mpr fun m hm =>
      List.forall_mem_map.mpr fun n hn heq => hne m hm n hn (Cell.position_inj hroom heq)) _

/-- After an operation on one slot, an operation on another slot carries out the plan that it had
before. -/
theorem carriesOut_second {b : Bench World} {f g : Request} (hf : f.OnSlot i) (hg : g.OnSlot j)
    (hij : i ≠ j) (h : Able b.site) :
    (f.perform b).result = (f.planOn b.site i).result ∧
      (g.perform (f.perform b).bench).result = (g.planOn b.site j).result ∧
      Wrote ((f.planOn b.site i).marks ++ (g.planOn b.site j).marks) b.site
        (g.perform (f.perform b).bench).bench.site := by
  have hfirst := (Request.follows_perform hf b).carriesOut h
  have hview : SameView j b.site (f.perform b).bench.site := by
    refine hfirst.wrote.sameView h.room fun m hm heq => ?_
    exact hij ((Request.home_of_mem_planOn hf hm).symm.trans heq)
  have hsecond := (Request.follows_perform hg (f.perform b).bench).carriesOut hfirst.able
  -- The first operation left the view of slot `j` as it was, so the plan is the one made before.
  rw [Request.planOn_congr hg hview] at hsecond
  exact ⟨hfirst.result, hsecond.result, hfirst.wrote.trans hsecond.wrote⟩

/-- Two sites show the **same work area**: the same is believed of every slot and every neighbor,
and the same blocks are found everywhere. -/
structure SameArea (s s' : Site World) : Prop where
  slot : ∀ k, s.console.slot k = s'.console.slot k
  neighbor : ∀ k face, s.console.neighbor k face = s'.console.neighbor k face
  blocks : ∀ p, s.world.blockAt p = s'.world.blockAt p

/-- **Operations on different slots commute.** However a bench was used before, let its console be
ready and have room, let it reach no farther than the player, and let the world refuse nothing. Then
two operations on different slots have the same results in either order, and they lead to the same
work area. -/
theorem operations_commute (settings : Settings) (world : World) (turns : List Turn)
    {b : Bench World} (hb : b = (Bench.new settings world).play turns)
    (hready : b.site.console.initialized = true) (hroom : HasRoom b.site.console.center)
    (hreach : b.site.console.settings.reachDistanceSq ≤ 144)
    (hfailing : b.site.world.failing = []) (hlost : b.site.world.teleportsLost = false)
    {i j : Slot} (hij : i ≠ j) {f g : Request} (hf : f.OnSlot i) (hg : g.OnSlot j) :
    (f.perform (g.perform b).bench).result = (f.perform b).result ∧
      (g.perform (f.perform b).bench).result = (g.perform b).result ∧
      SameArea (g.perform (f.perform b).bench).bench.site
        (f.perform (g.perform b).bench).bench.site := by
  have horderly : b.Orderly := hb ▸ (Bench.Orderly.new settings world).play turns
  have hable : Able b.site :=
    ⟨hready, ⟨hfailing, hlost⟩, horderly.pose hready, hroom, .inl hreach⟩
  obtain ⟨hf₁, hg₂, hwrote⟩ := carriesOut_second hf hg hij hable
  obtain ⟨hg₁, hf₂, hwrote'⟩ := carriesOut_second hg hf hij.symm hable
  obtain ⟨hmemory, hblocks⟩ := hwrote.comm hwrote' hroom hij
    (fun m hm => Request.home_of_mem_planOn hf hm) fun m hm => Request.home_of_mem_planOn hg hm
  exact ⟨hf₂.trans hf₁.symm, hg₂.trans hg₁.symm, fun k => congrFun hmemory (.slot k),
    fun k face => congrFun hmemory (.neighbor k face), congrFun hblocks⟩

/-- A shulker box that opens downward. -/
def downwardBox : Belief :=
  .containerOf "shulker_box" (.ofList [("facing_direction", .int 0)])

/-- A run in which a shulker box that opens downward is placed into slot 1. -/
def boxRun : List Turn :=
  [.request (.layOut 0 ⟨1000, 64, 1000⟩), .request (.putInSlot "user" 1 downwardBox)]

/-- Opening the box clears the floor under it, and an anvil is placed with a support next to it. -/
theorem operations_commute_boxRun :
    ∃ b, b = (Bench.new {} {}).play boxRun ∧ b.site.console.initialized = true ∧
      ((Request.openSlot 1).perform
          ((Request.placeHelper "user" 2 .anvil true).perform b).bench).result =
        ((Request.openSlot 1).perform b).result ∧
      SameArea
        ((Request.placeHelper "user" 2 .anvil true).perform
          ((Request.openSlot 1).perform b).bench).bench.site
        ((Request.openSlot 1).perform
          ((Request.placeHelper "user" 2 .anvil true).perform b).bench).bench.site := by
  have hrun : ((Bench.new {} {}).play boxRun).site.console.initialized = true ∧
      ((Bench.new {} {}).play boxRun).site.console.center = ⟨1000, 64, 1000⟩ ∧
      ((Bench.new {} {}).play boxRun).site.console.settings.reachDistanceSq ≤ 144 ∧
      ((Bench.new {} {}).play boxRun).site.world.failing = [] ∧
      ((Bench.new {} {}).play boxRun).site.world.teleportsLost = false := by
    decide +kernel
  obtain ⟨hready, hcenter, hreach, hfailing, hlost⟩ := hrun
  have hroom : HasRoom ((Bench.new {} {}).play boxRun).site.console.center := by
    rw [hcenter]
    constructor <;> decide
  have hcommute := operations_commute {} {} boxRun rfl hready hroom hreach hfailing hlost
    (i := 1) (j := 2) (by decide) (f := .openSlot 1) (g := .placeHelper "user" 2 .anvil true) rfl
    rfl
  exact ⟨_, rfl, hready, hcommute.1, hcommute.2.2⟩

end BlockConsole
