import BlockConsole.Proofs.Bench.Turn
import BlockConsole.Proofs.World.Obliging

/-!
# Opening succeeds where memory and world agree

What the console knows of a container was computed when it was placed: the room that it needs, and
the name it goes by. The world computes the same again when the container is opened, from the
block that it finds. `unobstructed_of_describes` shows that the two agree, so a container opens
once the agent is near and the side that it needs is clear. A world that refuses nothing
(`Obliging`) lets the console see to both, and so every container, anvil and loom that the console
knows of opens (`openSlot_opens`).
-/

namespace BlockConsole

open Work Console

/-! ### What has to be clear -/

/-- A container is **proper** if it was made from a name, which is not that of air. -/
def Container.Proper (c : Container) : Prop :=
  (∃ name states, c = .ofName name states) ∧ c.name ≠ BlockName.air

/-- The world finds the same side to clear as the console, under the name that the console uses. -/
structure Recognized (name : String) (states : BlockStates) (side : Option Facing) : Prop where
  canonical : BlockName.canonical name = name
  ne_air : name ≠ BlockName.air
  clearSide : (Container.ofName name states).clearSide? = side

theorem Container.Proper.recognized {c : Container} (h : c.Proper) :
    Recognized c.name c.states c.clearSide? := by
  obtain ⟨⟨name, states, hc⟩, hair⟩ := h
  have hname : c.name = BlockName.canonical name := by rw [hc, name_ofName]
  have hsame : Container.ofName c.name c.states = c := by rw [hc, ofName_self]
  exact ⟨by rw [hname, BlockName.canonical_canonical], hair, by rw [hsame]⟩

/-- No helper needs any side to be clear. -/
theorem recognized_helper (kind : Helper) (states : BlockStates) :
    Recognized kind.blockName states none := by
  have hanvil : BlockName.canonical BlockName.anvil = BlockName.anvil := by decide +kernel
  have hloom : BlockName.canonical BlockName.loom = BlockName.loom := by decide +kernel
  have hshulker : ∀ name ∈ [BlockName.anvil, BlockName.loom],
      Container.isShulkerBox (BlockName.short name) = false ∧
        Container.topOpening.contains (BlockName.short name) = false := by
    decide +kernel
  cases kind with
  | anvil =>
    obtain ⟨hbox, htop⟩ := hshulker BlockName.anvil (by simp)
    refine ⟨hanvil, by decide, ?_⟩
    simp only [Helper.blockName, Container.ofName, hanvil, hbox, htop]
    rfl
  | loom =>
    obtain ⟨hbox, htop⟩ := hshulker BlockName.loom (by simp)
    refine ⟨hloom, by decide, ?_⟩
    simp only [Helper.blockName, Container.ofName, hloom, hbox, htop]
    rfl

namespace Belief

/-- Whether a block can be opened: it is a container or a helper. -/
def isOpenable : Belief → Bool
  | container _ => true
  | anvil _ => true
  | loom => true
  | _ => false

/-- The side that has to be clear before a block opens. -/
def clearSide? : Belief → Option Facing
  | container c => c.clearSide?
  | _ => none

variable {b : Belief}

theorem openable?_eq (h : b.isOpenable = true) :
    b.openable? = some (b.name, b.states, b.clearSide?) := by
  cases b with
  | container | anvil | loom => rfl
  | _ => exact absurd h Bool.false_ne_true

/-- What can be opened is recognized by the world. -/
theorem recognized (h : b.isOpenable = true) (hproper : ∀ c, b = .container c → c.Proper) :
    Recognized b.name b.states b.clearSide? := by
  cases b with
  | container c => exact (hproper c rfl).recognized
  | anvil states => exact recognized_helper .anvil states
  | loom => exact recognized_helper .loom .empty
  | _ => exact absurd h Bool.false_ne_true

/-- What a belief in something that can be opened describes has the expected name. -/
theorem Describes.name_eq {found : Option Block} (hb : b.Describes found) (h : b.isOpenable = true)
    (hair : b.name ≠ BlockName.air) : found.map Block.name = some b.name := by
  cases b with
  | container c =>
    have hfound : found = if c.name = BlockName.air then none else some ⟨c.name, c.states⟩ := hb
    have hname : c.name ≠ BlockName.air := hair
    rw [hfound, if_neg hname]
    rfl
  | anvil states =>
    obtain rfl : found = some ⟨BlockName.anvil, states⟩ := hb
    rfl
  | loom =>
    obtain rfl : found = some ⟨BlockName.loom, World.helperStates .loom⟩ := hb
    rfl
  | _ => exact absurd h Bool.false_ne_true

end Belief

/-- Nothing is in the way of a block that has the expected name, is near, and has its side clear. -/
theorem unobstructed_of_describes {w : World} {pos : Position} {name : String}
    {states : BlockStates} {side : Option Facing} (h : Recognized name states side)
    (hname : (w.blockAt pos).map Block.name = some name)
    (hnear : w.player.distanceSq pos ≤ World.interactionDistanceSq)
    (hclear : ∀ f, side = some f → w.blockAt (pos + f.offset) = none) :
    w.obstacle? pos name states = none := by
  have hfar : ¬World.interactionDistanceSq < w.player.distanceSq pos := Nat.not_lt.mpr hnear
  simp only [World.obstacle?, h.canonical, hname, h.clearSide, hfar, ne_eq, not_true, if_false]
  cases side with
  | none => rfl
  | some f => simp [hclear f rfl]

/-! ### A world that refuses nothing -/

variable {s s' : Site World}

/-- The agent has **arrived** at a target: it is near enough, or right there, and on the way nothing
has changed. -/
structure Arrived (target : Position) (s s' : Site World) : Prop where
  console : ∃ p, s'.console = s.console.movedTo p
  blocks : ∀ p, s'.world.blockAt p = s.world.blockAt p
  obliging : s'.world.Obliging
  near : (s'.world.player.distanceSq target : Int) ≤ s.console.settings.reachDistanceSq ∨
    s'.world.player = target

/-- In an obliging world an approach arrives. -/
theorem arrived_of_approach (hready : s.console.initialized = true) (hw : s.world.Obliging)
    (hpose : s.console.position = s.world.player) (target : Position) :
    ((approach target).run s).result = .ok () ∧
      Arrived target s ((approach target).run s).site := by
  obtain ⟨a, ha⟩ := hw.outcome_send (c := .teleport target) trivial trivial
    s.console.settings.teleportTimeout
  have hc := approach_cases hready target
  generalize (approach target).run s = o at hc
  cases hc with
  | near hnear => exact ⟨rfl, ⟨_, rfl⟩, fun _ => rfl, hw, .inl (hpose ▸ hnear)⟩
  | refused hout => exact absurd (hout.symm.trans ha) (by simp)
  | moved hout =>
    have halike := World.after_of_outcome_ok (c := .teleport target) trivial hout
    exact ⟨rfl, ⟨target, rfl⟩, halike.blockAt, halike.obliging ⟨hw.failing, hw.teleports⟩,
      .inr halike.player⟩

/-- In an obliging world an action after an approach is taken, if it is acknowledged wherever the
agent may have arrived. -/
theorem approach_act_of_obliging {α : Type} {a : Action} {f : a.Reply → Work World Failure α}
    (motive : Outcome World Failure α → Prop) (hready : s.console.initialized = true)
    (hw : s.world.Obliging) (hpose : s.console.position = s.world.player) {target : Position}
    {x : a.Reply} (hreply : ∀ s₁, Arrived target s s₁ → (World.respond a s₁.world).reply = .ok x)
    (done : ∀ s₁ es, Arrived target s s₁ → motive (((f x).run (siteAfter a s₁)).after es)) :
    motive ((do approach target; let x ← Work.act a; f x).run s) := by
  obtain ⟨hok, harrived⟩ := arrived_of_approach hready hw hpose target
  refine approach_act_cases motive ?_ ?_ ?_
  · intro e s₁ es h
    rw [h] at hok
    exact absurd hok (by simp)
  · intro e s₁ es h hr
    rw [h] at harrived
    exact absurd ((hreply s₁ harrived).symm.trans hr) (by simp)
  · intro y s₁ es h hr
    rw [h] at harrived
    obtain rfl : x = y := Except.ok.inj ((hreply s₁ harrived).symm.trans hr)
    exact done s₁ _ harrived

/-- Only the side of a slot was **cleared**, in memory and in the world, if anything was. -/
structure OnlyCleared (i : Slot) (side : Option Facing) (s s' : Site World) : Prop where
  slot : ∀ j, s'.console.slot j = s.console.slot j
  neighbor : ∀ j f, s'.console.neighbor j f = s.console.neighbor j f ∨
    (j = i ∧ side = some f ∧ s'.console.neighbor j f = .air)
  block : ∀ p, s'.world.blockAt p = s.world.blockAt p ∨
    ∃ f, side = some f ∧ p = s.console.slotPosition i + f.offset ∧ s'.world.blockAt p = none

theorem OnlyCleared.refl (i : Slot) (side : Option Facing) (s : Site World) :
    OnlyCleared i side s s :=
  ⟨fun _ => rfl, fun _ _ => .inl rfl, fun _ => .inl rfl⟩

/-- The site after a side was cleared by an agent that had arrived. -/
theorem onlyCleared_of_put {target p : Position} {s₁ : Site World} {w' : World} {i : Slot}
    {f : Facing} (h : Arrived target s s₁) (hp : s₁.console = s.console.movedTo p)
    (hw : World.Alike (s₁.world.put (s.console.slotPosition i + f.offset)
      (BlockName.canonical BlockName.air) .empty) w') :
    OnlyCleared i (some f) s ⟨s₁.console.apply (.neighbor i f .air), w'⟩ where
  slot j := by
    rw [hp]
    rfl
  neighbor j g := by
    have hwritten : (s₁.console.apply (.neighbor i f .air)).neighbor j g = _ :=
      believed_apply s₁.console (.neighbor i f) (.neighbor j g) .air
    rw [hwritten, hp]
    split
    · next heq =>
      obtain ⟨rfl, rfl⟩ := Cell.neighbor.inj heq
      exact .inr ⟨rfl, rfl, rfl⟩
    · exact .inl rfl
  block q := by
    have hput : w'.blockAt q = _ := (hw.blockAt q).trans (World.blockAt_put ..)
    rw [Block.named?_canonical, Block.named?_air] at hput
    split at hput
    · next heq => exact .inr ⟨f, rfl, heq, hput⟩
    · exact .inl (hput.trans (h.blocks q))

/-- In an obliging world the side of a slot can be cleared. -/
theorem cleared_of_clearNeighbor (hready : s.console.initialized = true) (hw : s.world.Obliging)
    (hpose : s.console.position = s.world.player) (i : Slot) (f : Facing) :
    ((clearNeighbor i f).run s).result = .ok () ∧
      ((clearNeighbor i f).run s).site.world.Obliging ∧
      ((clearNeighbor i f).run s).site.console.neighbor i f = .air ∧
      OnlyCleared i (some f) s ((clearNeighbor i f).run s).site := by
  rw [clearNeighbor, run_bind_of_ok (run_console s)]
  dsimp only [Outcome.after_nil]
  split
  · next hair =>
    refine ⟨rfl, hw, ?_, .refl i _ s⟩
    cases hb : s.console.neighbor i f with
    | air => exact hb
    | _ =>
      rw [hb] at hair
      exact absurd hair Bool.false_ne_true
  · have hplace {w : World} (hob : w.Obliging) :=
      World.respond_placeBlock (BlockStates.parse_text BlockStates.quotable_empty.faithful)
        (s.console.slotPosition i + f.offset) BlockName.air (hob.contains_failing .placeBlock)
    refine approach_act_of_obliging (fun o => o.result = .ok () ∧ o.site.world.Obliging ∧
      o.site.console.neighbor i f = .air ∧ OnlyCleared i (some f) s o.site) hready hw hpose
      (fun s₁ h => (hplace h.obliging).1) fun s₁ es h => ?_
    have halike := (hplace h.obliging).2
    obtain ⟨p, hp⟩ := h.console
    have hcleared := onlyCleared_of_put h hp halike
    have hbelief := believed_apply s₁.console (.neighbor i f) (.neighbor i f) .air
    rw [if_pos rfl] at hbelief
    rw [run_bind_of_ok (run_announce ..), run_log]
    exact ⟨rfl, halike.obliging ((World.rebuilt_put ..).obliging h.obliging), hbelief, hcleared⟩

/-- In an obliging world a block opens if it is recognized there and its side is clear. -/
theorem opened_of_openAt (hready : s.console.initialized = true) (hw : s.world.Obliging)
    (hpose : s.console.position = s.world.player)
    (hreach : s.console.settings.reachDistanceSq ≤ 144) {i : Slot} {pos : Position} {name : String}
    {states : BlockStates} {side : Option Facing} (hrec : Recognized name states side)
    (hname : (s.world.blockAt pos).map Block.name = some name)
    (hclear : ∀ f, side = some f → s.world.blockAt (pos + f.offset) = none) :
    ((openAt i pos name states).run s).result = .ok true ∧
      (∃ p, ((openAt i pos name states).run s).site.console = s.console.movedTo p) ∧
      ∀ p, ((openAt i pos name states).run s).site.world.blockAt p = s.world.blockAt p := by
  have hopens (s₁ : Site World) (h : Arrived pos s s₁) :
      (World.respond (.openContainer pos name states) s₁.world).reply = .ok true := by
    have hnear : s₁.world.player.distanceSq pos ≤ World.interactionDistanceSq := by
      have hlimit : World.interactionDistanceSq = 144 := rfl
      rcases h.near with hnear | hthere
      · omega
      · rw [hthere, Position.distanceSq_self]
        exact Nat.zero_le _
    have hname₁ : (s₁.world.blockAt pos).map Block.name = some name := by rwa [h.blocks]
    have hclear₁ : ∀ f, side = some f → s₁.world.blockAt (pos + f.offset) = none := by
      intro f hf
      rw [h.blocks]
      exact hclear f hf
    rw [World.respond_openContainer pos name states (h.obliging.contains_failing .openContainer),
      unobstructed_of_describes hrec hname₁ hnear hclear₁]
    rfl
  refine approach_act_of_obliging (fun o : Outcome World Failure Bool => o.result = .ok true ∧
    (∃ p, o.site.console = s.console.movedTo p) ∧
      ∀ p, o.site.world.blockAt p = s.world.blockAt p) hready hw hpose hopens fun s₁ es h => ?_
  refine ⟨rfl, h.console, fun p => ?_⟩
  have halike := World.alike_openContainer s₁.world pos name states
  exact (halike.blockAt p).trans (h.blocks p)

/-! ### Opening a slot -/

/-- In an obliging world the side that a block needs is clear after `clearSide`. -/
theorem cleared_of_clearSide (hready : s.console.initialized = true) (hw : s.world.Obliging)
    (hpose : s.console.position = s.world.player) (i : Slot) (side : Option Facing) :
    ((clearSide i side).run s).result = .ok () ∧
      ((clearSide i side).run s).site.world.Obliging ∧
      (∀ f, side = some f → ((clearSide i side).run s).site.console.neighbor i f = .air) ∧
      OnlyCleared i side s ((clearSide i side).run s).site := by
  cases side with
  | none => exact ⟨rfl, hw, by simp, .refl i none s⟩
  | some f =>
    obtain ⟨hok, hob, hair, honly⟩ := cleared_of_clearNeighbor hready hw hpose i f
    refine ⟨hok, hob, fun g hg => ?_, honly⟩
    obtain rfl : f = g := Option.some.inj hg
    exact hair

theorem moves_clearSide {P : Container → Prop} (i : Slot) (side : Option Facing) :
    Within (moves P) (clearSide i side) s := by
  cases side with
  | none => exact within_pure
  | some f => exact moves_clearNeighbor i f

/-- In an obliging world a slot opens if memory and world agree on it, and its side is clear. -/
theorem opened_of_agrees (h : Agrees Container.Proper s) (hready : s.console.initialized = true)
    (hw : s.world.Obliging) (hreach : s.console.settings.reachDistanceSq ≤ 144) {i : Slot}
    {b : Belief} (hslot : s.console.slot i = b) (hopen : b.isOpenable = true)
    (hside : ∀ f, b.clearSide? = some f → s.console.neighbor i f = .air) :
    ((openAt i (s.console.slotPosition i) b.name b.states).run s).result = .ok true ∧
      (∃ p, ((openAt i (s.console.slotPosition i) b.name b.states).run s).site.console =
        s.console.movedTo p) ∧
      ∀ p, ((openAt i (s.console.slotPosition i) b.name b.states).run s).site.world.blockAt p =
        s.world.blockAt p := by
  have hrec := Belief.recognized hopen fun c hc => h.container i c (hslot.trans hc)
  have hdescribes : b.Describes (s.world.blockAt (s.console.slotPosition i)) :=
    hslot ▸ h.cells hready (.slot i)
  have hclear : ∀ f, b.clearSide? = some f →
      s.world.blockAt (s.console.slotPosition i + f.offset) = none := by
    intro f hf
    have hcell := h.cells hready (.neighbor i f)
    have hbelief : s.console.believed (.neighbor i f) = .air := hside f hf
    rw [hbelief] at hcell
    exact hcell
  have hname := hdescribes.name_eq hopen hrec.ne_air
  exact opened_of_openAt hready hw (h.pose hready) hreach hrec hname hclear

theorem Agrees.ready_of_isOpenable {P : Container → Prop} (h : Agrees P s) {i : Slot}
    (hopen : (s.console.slot i).isOpenable = true) : s.console.initialized = true := by
  by_contra hnot
  rw [h.idle (Bool.not_eq_true _ ▸ hnot) i] at hopen
  exact absurd hopen Bool.false_ne_true

/-- Over an obliging world a sound bench opens every slot that can be opened. -/
theorem Bench.Sound.opens {settings : Settings} {b : Bench World}
    (h : b.Sound Container.Proper settings) (hreach : settings.reachDistanceSq ≤ 144)
    (hw : b.site.world.Obliging) {i : Slot} (hopen : (b.site.console.slot i).isOpenable = true) :
    ((Request.openSlot i).perform b).result = .ok true ∧
      OnlyCleared i (b.site.console.slot i).clearSide? b.site
        ((Request.openSlot i).perform b).bench.site ∧
      Truthful ((Request.openSlot i).perform b).bench.site := by
  have hready := h.agrees.ready_of_isOpenable hopen
  obtain ⟨hclear, hob, hair, honly⟩ := cleared_of_clearSide hready hw (h.agrees.pose hready) i
    (b.site.console.slot i).clearSide?
  have hmoves := moves_clearSide (P := Container.Proper) (s := b.site) i
    (b.site.console.slot i).clearSide?
  have hrun := run_openSlot hready (Belief.openable?_eq hopen)
  rcases hside : (clearSide i (b.site.console.slot i).clearSide?).run b.site with ⟨r, s₁, es⟩
  rw [Within, hside] at hmoves
  rw [hside] at hclear hob hair honly
  obtain rfl : r = .ok () := hclear
  rw [run_bind_of_ok hside] at hrun
  -- Clearing the side was made up of moves, so memory and world still agree when it is done.
  have hagrees := h.agrees.moves hmoves
  have hsteady := steady_of_moves hmoves
  have hready₁ : s₁.console.initialized = true := hsteady.initialized.trans hready
  have hreach₁ : s₁.console.settings.reachDistanceSq ≤ 144 := by
    rwa [hsteady.settings, h.same]
  have hpos : b.site.console.slotPosition i = s₁.console.slotPosition i := by
    rw [slotPosition, slotPosition, hsteady.center]
  obtain ⟨hok, ⟨p, hp⟩, hblocks⟩ :=
    opened_of_agrees hagrees hready₁ hob hreach₁ (honly.slot i) hopen hair
  rw [← hpos] at hok hp hblocks
  have hsound := h.request (r := .openSlot i) trivial
  simp only [Request.perform, Bench.onSite, hrun, Outcome.after_result, Outcome.after_site]
    at hsound ⊢
  refine ⟨hok, ⟨fun j => ?_, fun j f => ?_, fun q => ?_⟩, hsound.agrees.truthful ?_⟩
  · rw [hp]
    exact honly.slot j
  · rw [hp]
    exact honly.neighbor j f
  · rw [hblocks]
    exact honly.block q
  · rw [hp]
    exact hready₁

/-- **Opening never fails where memory and world agree.** After any run of admissible turns in
which only proper containers are placed, and with an agent that acts from within the reach of the
player, a world that refuses nothing at the moment opens every container, anvil and loom that the
console knows of. At most the side that the container needs is cleared, in memory and in the
world, and the beliefs are true afterwards. -/
theorem openSlot_opens {settings : Settings} (hfloor : PlainFloor settings)
    (hreach : settings.reachDistanceSq ≤ 144) (world : World) {turns : List Turn}
    (hturns : ∀ t ∈ turns, t.Admissible Container.Proper) {b : Bench World}
    (hb : b = (Bench.new settings world).play turns) (hfailing : b.site.world.failing = [])
    (hlost : b.site.world.teleportsLost = false) {i : Slot}
    (hopen : (b.site.console.slot i).isOpenable = true) :
    ((Request.openSlot i).perform b).result = .ok true ∧
      OnlyCleared i (b.site.console.slot i).clearSide? b.site
        ((Request.openSlot i).perform b).bench.site ∧
      Truthful ((Request.openSlot i).perform b).bench.site := by
  have hsound := (Bench.Sound.new (P := Container.Proper) hfloor world).play hturns
  rw [← hb] at hsound
  exact hsound.opens hreach ⟨hfailing, hlost⟩ hopen

/-- A run in which a chest is placed and then covered from outside. -/
def coveredChest : List Turn :=
  [.request (.layOut 0 ⟨1000, 64, 1000⟩),
    .request (.putInSlot "user" Layout.centerSlot (.containerOf "chest" .empty)),
    .outside "guest" Layout.centerSlot .up "dirt" .empty]

theorem openSlot_opens_coveredChest :
    ∃ b, b = (Bench.new {} {}).play coveredChest ∧ b.site.world.failing = [] ∧
      b.site.world.teleportsLost = false ∧ (b.site.console.slot 0).isOpenable = true ∧
      ((Request.openSlot 0).perform b).result = .ok true ∧
      OnlyCleared 0 (b.site.console.slot 0).clearSide? b.site
        ((Request.openSlot 0).perform b).bench.site ∧
      Truthful ((Request.openSlot 0).perform b).bench.site := by
  have hfloor : PlainFloor {} := by
    unfold PlainFloor
    decide +kernel
  have hturns : ∀ t ∈ coveredChest, t.Admissible Container.Proper := by
    have hchest : (Belief.containerOf "chest" .empty).Placeable Container.Proper :=
      ⟨by decide +kernel, BlockStates.quotable_empty, ⟨"chest", .empty, rfl⟩, by decide +kernel⟩
    have hroom : HasRoom ⟨1000, 64, 1000⟩ := by constructor <;> decide
    simp only [coveredChest, List.forall_mem_cons]
    exact ⟨hroom, hchest, trivial, by simp⟩
  have hfailing : ((Bench.new {} {}).play coveredChest).site.world.failing = [] := by
    decide +kernel
  have hlost : ((Bench.new {} {}).play coveredChest).site.world.teleportsLost = false := by
    decide +kernel
  have hopen : (((Bench.new {} {}).play coveredChest).site.console.slot 0).isOpenable = true := by
    decide +kernel
  obtain ⟨b, hb⟩ : ∃ b, b = (Bench.new {} {}).play coveredChest := ⟨_, rfl⟩
  rw [← hb] at hfailing hlost hopen
  exact ⟨b, hb, hfailing, hlost, hopen,
    openSlot_opens hfloor (by decide) {} hturns hb hfailing hlost hopen⟩

end BlockConsole
