import BlockConsole.Proofs.Bench.Orderly

/-!
# Helpers stand on something

Whether a helper needs a support block is decided by what is believed of the place beneath it. That
is enough as long as the work area has `Footing`: there is a block beneath a slot if there is a
helper in it, or if a helper may be put there without support. Operations keep it, because each of
their marks is `Firm`: a side is cleared only for a container, and nothing else takes away what is
beneath a slot.

What is left is the floor that is laid in the beginning. A floor is believed to bear helpers
whatever it is called, so all helpers stand if and only if the floor is not of air
(`helpers_stand_iff`).
-/

namespace BlockConsole

open Work Console

variable {s s' : Site World} {i : Slot}

/-! ### Footing -/

/-- A work area has **footing** if there is a block beneath every slot in which there is a helper,
or that is believed to need no support. -/
def Footing (believed : Cell → Belief) (found : Cell → Option Block) : Prop :=
  ∀ i : Slot, (believed (.neighbor i .down)).bearsHelper = true ∨
      (believed (.slot i)).isSpare = false →
    (found (.neighbor i .down)).isSome = true

/-- A mark is **firm** if it puts a helper only over a block, and if it leaves a block beneath a
slot that has a helper or that is believed to need no support. -/
structure Mark.Firm (believed : Cell → Belief) (found : Cell → Option Block) (m : Mark) :
    Prop where
  slot : ∀ i, m.cell = .slot i → m.belief.isSpare = false →
    (found (.neighbor i .down)).isSome = true
  beneath : ∀ i, m.cell = .neighbor i .down →
    m.belief.bearsHelper = true ∨ (believed (.slot i)).isSpare = false → m.found.isSome = true

/-- Marks are **firm** if each of them is when its turn comes. -/
inductive Firm : (Cell → Belief) → (Cell → Option Block) → List Mark → Prop
  | nil {believed : Cell → Belief} {found : Cell → Option Block} : Firm believed found []
  | cons {believed : Cell → Belief} {found : Cell → Option Block} {m : Mark} {marks : List Mark}
    (first : m.Firm believed found)
    (rest : Firm (Function.update believed m.cell m.belief)
      (Function.update found m.cell m.found) marks) : Firm believed found (m :: marks)

section

variable {believed : Cell → Belief} {found : Cell → Option Block} {marks early : List Mark}

/-- A firm mark keeps the footing. -/
theorem Footing.mark (h : Footing believed found) {m : Mark} (hm : m.Firm believed found) :
    Footing (Function.update believed m.cell m.belief)
      (Function.update found m.cell m.found) := by
  intro i hi
  -- The cell beneath the slot is marked, or the slot itself, or neither of them.
  by_cases hdown : m.cell = .neighbor i .down
  · rw [hdown, Function.update_self, Function.update_of_ne Cell.noConfusion] at hi
    rw [hdown, Function.update_self]
    exact hm.beneath i hdown hi
  · rw [Function.update_of_ne (Ne.symm hdown)] at hi ⊢
    by_cases hslot : m.cell = .slot i
    · rw [hslot, Function.update_self] at hi
      exact hi.elim (fun hbears => h i (.inl hbears)) (hm.slot i hslot)
    · rw [Function.update_of_ne (Ne.symm hslot)] at hi
      exact h i hi

/-- Firm marks keep the footing. -/
theorem Footing.after (h : Footing believed found) (hmarks : Firm believed found marks) :
    Footing (writeAll (beliefsOf marks) believed) (writeAll (findsOf marks) found) := by
  induction hmarks with
  | nil => exact h
  | cons first rest ih => exact ih (h.mark first)

/-- If marks are firm, then the first of them are. -/
theorem Firm.initial (h : Firm believed found marks) (hearly : early <+: marks) :
    Firm believed found early := by
  obtain ⟨late, rfl⟩ := hearly
  induction early generalizing believed found with
  | nil => exact .nil
  | cons m early ih =>
    cases h with
    | cons first rest => exact .cons first (ih rest)

/-- A slot may get any belief but that in a helper. -/
theorem Mark.firm_spare {b : Belief} (hb : b.isSpare = true) (i : Slot) (f : Option Block) :
    Mark.Firm believed found ⟨.slot i, b, f⟩ where
  slot _ _ hhelper := absurd (hb.symm.trans hhelper) (by decide)
  beneath _ hcell := Cell.noConfusion hcell

/-- Beneath a slot there may be any belief where there is a block. -/
theorem Mark.firm_beneath {f : Option Block} (hf : f.isSome = true) (i : Slot) (b : Belief) :
    Mark.Firm believed found ⟨.neighbor i .down, b, f⟩ where
  slot _ hcell := Cell.noConfusion hcell
  beneath _ _ _ := hf

/-- A slot may get a helper where there is a block beneath it. -/
theorem Mark.firm_over (hbeneath : (found (.neighbor i .down)).isSome = true) (b : Belief)
    (f : Option Block) : Mark.Firm believed found ⟨.slot i, b, f⟩ where
  slot _ hcell _ := Cell.slot.inj hcell ▸ hbeneath
  beneath _ hcell := Cell.noConfusion hcell

end

theorem Footing.of_wrote {marks : List Mark} (h : Footing s.console.believed (foundIn s))
    (hroom : HasRoom s.console.center) (hwrote : Wrote marks s s')
    (hmarks : Firm s.console.believed (foundIn s) marks) :
    Footing s'.console.believed (foundIn s') := by
  rw [hwrote.memory, hwrote.foundIn_eq hroom]
  exact h.after hmarks

/-! ### The marks of the operations -/

theorem firm_clearPlan (s : Site World) (i : Slot) :
    Firm s.console.believed (foundIn s) (clearPlan i).marks :=
  .cons (Mark.firm_spare rfl i none) .nil

theorem firm_blockPlan (s : Site World) (i : Slot) {b : Belief} (hb : b.isSpare = true) :
    Firm s.console.believed (foundIn s) (blockPlan i b).marks := by
  rw [blockPlan]
  split
  · exact .cons (Mark.firm_spare hb i _) .nil
  · exact .nil

/-- A side is cleared only for a container, so nothing is taken away from under a helper. -/
theorem firm_openPlan (s : Site World) (i : Slot) :
    Firm s.console.believed (foundIn s) (openPlan s i).marks := by
  rw [openPlan]
  split
  · exact .nil
  · next name states side hopen =>
    cases side with
    | none => exact .nil
    | some f =>
      obtain ⟨c, hc, -⟩ := Belief.container_of_openable hopen
      dsimp only [sideMarks]
      split
      · exact .nil
      · refine .cons ⟨fun _ hcell => Cell.noConfusion hcell, fun j hj hfirm => ?_⟩ .nil
        obtain ⟨rfl, -⟩ := Cell.neighbor.inj hj
        -- The slot over the cell that is cleared has a container in it, which may float.
        rw [show s.console.believed (.slot i) = .container c from hc] at hfirm
        exact absurd hfirm (by simp [Belief.bearsHelper, Belief.isSpare, Belief.isAnvil,
          Belief.isLoom])

section

variable (h : Footing s.console.believed (foundIn s))
  (hsupport : BlockName.canonical s.console.settings.supportBlock ≠ BlockName.air)

include h hsupport

/-- A helper that gets support where it needs some is firm, if the support is not of air. -/
theorem firm_helperPlan (i : Slot) (kind : Helper) :
    Firm s.console.believed (foundIn s)
      (helperPlan s.console.settings i kind (s.console.needsSupport i)).marks := by
  have hnamed : (Block.named? s.console.settings.supportBlock .empty).isSome = true := by
    simp [Block.named?, hsupport]
  rw [helperPlan]
  cases hneeds : s.console.needsSupport i with
  | false =>
    have hbears : (s.console.neighbor i .down).bearsHelper = true := by
      simpa [needsSupport] using hneeds
    exact .cons (Mark.firm_over (h i (.inl hbears)) _ _) .nil
  | true =>
    refine .cons (Mark.firm_beneath hnamed i _) (.cons (Mark.firm_over ?_ _ _) .nil)
    dsimp only
    rw [Function.update_self]
    exact hnamed

theorem firm_putPlan (i : Slot) (b : Belief) :
    Firm s.console.believed (foundIn s) (putPlan s.console i b).marks := by
  have hc := putPlan_cases s.console i b
  generalize putPlan s.console i b = plan at hc
  cases hc with
  | clear => exact firm_clearPlan s i
  | helper kind => exact firm_helperPlan h hsupport i kind
  | refused e => exact .nil
  | block hspare => exact firm_blockPlan s i hspare

theorem firm_obtainPlan (kind : Helper) :
    Firm s.console.believed (foundIn s) (obtainPlan s.console kind).marks := by
  rw [obtainPlan]
  split
  · exact .nil
  · exact .nil
  · exact firm_helperPlan h hsupport _ kind

end

/-! ### Careful turns -/

/-- A request is **careful** if it leaves it to the console what is put beneath what: no new work
area is laid out, no helper is placed with or without support on demand, and nothing is recorded
that the console did not do itself. -/
def Request.Careful : Request → Prop
  | layOut .. | placeHelper .. | recordSlot .. | recordNeighbor .. => False
  | _ => True

/-- A turn is **careful** if its request is, or if it only changes what the world refuses. -/
def Turn.Careful : Turn → Prop
  | request r => r.Careful
  | outside .. => False
  | _ => True

/-- Careful requests make firm marks. -/
theorem Request.firm_of_mayMark {b : Bench World} {r : Request} {marks : List Mark}
    (hr : r.Careful) (h : Footing b.site.console.believed (foundIn b.site))
    (hsupport : BlockName.canonical b.site.console.settings.supportBlock ≠ BlockName.air)
    (hmarks : r.MayMark b marks) : Firm b.site.console.believed (foundIn b.site) marks := by
  cases r with
  | obtainHelper kind => exact (firm_obtainPlan h hsupport kind).initial hmarks
  | putInSlot requester index belief =>
    obtain ⟨i, -, hprefix⟩ := hmarks
    exact (firm_putPlan h hsupport i belief).initial hprefix
  | clearSlot requester index =>
    obtain ⟨i, -, hprefix⟩ := hmarks
    exact (firm_clearPlan b.site i).initial hprefix
  | openSlot index =>
    obtain ⟨i, -, hprefix⟩ := hmarks
    exact (firm_openPlan b.site i).initial hprefix
  | openSlotAt o => exact (firm_openPlan b.site _).initial hmarks
  | cacheLoad i =>
    obtain ⟨c, found, rfl⟩ := hmarks
    exact .cons (Mark.firm_spare rfl _ found) .nil
  | layOut | placeHelper | recordSlot | recordNeighbor => exact hr.elim
  | _ => exact hmarks.elim

/-- A bench **stands firm**: its work area has room and footing, and support blocks are not of
air. -/
structure Bench.StandsFirm (b : Bench World) : Prop where
  orderly : b.Orderly
  room : HasRoom b.site.console.center
  support : BlockName.canonical b.site.console.settings.supportBlock ≠ BlockName.air
  footing : Footing b.site.console.believed (foundIn b.site)

namespace Bench.StandsFirm

variable {b : Bench World}

theorem request (h : b.StandsFirm) {r : Request} (hr : r.Careful) :
    (r.perform b).bench.StandsFirm := by
  have hlay : r.isLayOut = false := by
    cases r with
    | layOut => exact hr.elim
    | _ => rfl
  obtain ⟨marks, hmarks, hwrote⟩ := Request.exists_wrote hlay h.orderly
  have hfirm : Firm b.site.console.believed (foundIn b.site) marks := by
    obtain rfl | hmay := hmarks
    · exact .nil
    · exact Request.firm_of_mayMark hr h.footing h.support hmay
  refine ⟨h.orderly.request r, ?_, ?_, h.footing.of_wrote h.room hwrote hfirm⟩
  · rw [hwrote.center]
    exact h.room
  · rw [hwrote.settings]
    exact h.support

theorem after (h : b.StandsFirm) {t : Turn} (ht : t.Careful) : (b.after t).StandsFirm := by
  have horderly := h.orderly.after t
  cases t with
  | request r => exact h.request ht
  | fail kind => exact ⟨horderly, h.room, h.support, h.footing⟩
  | recover kind => exact ⟨horderly, h.room, h.support, h.footing⟩
  | loseTeleports lose => exact ⟨horderly, h.room, h.support, h.footing⟩
  | outside => exact ht.elim

/-- Careful turns leave a bench standing firm. -/
theorem play {turns : List Turn} (h : b.StandsFirm) (ht : ∀ t ∈ turns, t.Careful) :
    (b.play turns).StandsFirm := by
  induction turns generalizing b with
  | nil => exact h
  | cons t rest ih =>
    obtain ⟨hfirst, hrest⟩ := List.forall_mem_cons.mp ht
    exact ih (h.after hfirst) hrest

end Bench.StandsFirm

/-! ### Helpers -/

/-- A belief that passes the test for a helper is a belief in one. -/
theorem Helper.isSpare_of_test {kind : Helper} {b : Belief} (h : kind.test b = true) :
    b.isSpare = false := by
  cases kind with
  | anvil => simp [Belief.isSpare, show b.isAnvil = true from h]
  | loom => simp [Belief.isSpare, show b.isLoom = true from h]

/-- There is a helper in the slot in which one was obtained. -/
theorem isSpare_of_obtainHelper {kind : Helper}
    (h : ((obtainHelper kind).run s).result = .ok i) :
    (((obtainHelper kind).run s).site.console.slot i).isSpare = false := by
  obtain ⟨marks, -, hwrote, hall⟩ := (follows_obtainHelper (s := s) kind).wrote
  obtain rfl := hall i h
  have hplan := result_obtainPlan h
  rw [obtainPlan] at hwrote hplan
  cases hsearch : s.console.search? kind.test false with
  | some j =>
    -- Nothing is written where a helper was found.
    simp only [hsearch] at hwrote hplan
    obtain rfl : j = i := Except.ok.inj hplan
    have hkept : ((obtainHelper kind).run s).site.console.believed (.slot j) =
        s.console.believed (.slot j) := hwrote.believed_of_forall_ne (by simp)
    have htest : kind.test (s.console.slot j) = true :=
      List.find?_some (p := fun k => kind.test (s.console.slot k)) hsearch
    exact (congrArg Belief.isSpare hkept).trans (Helper.isSpare_of_test htest)
  | none =>
    cases hclaim : s.console.claimable? false with
    | none => simp [hsearch, hclaim] at hplan
    | some j =>
      simp only [hsearch, hclaim] at hwrote hplan
      obtain rfl : j = i := Except.ok.inj hplan
      have hplaced : ((obtainHelper kind).run s).site.console.slot j =
          kind.belief (World.helperStates kind) := hwrote.believed_last
      rw [hplaced]
      cases kind <;> rfl

/-! ### Laying out a floor -/

/-- The floor around a center is **of air**, as the command that lays it is read. -/
def LaysAir (settings : Settings) (center : Position) : Prop :=
  ∃ states, Command.parse (floorCommand center settings.floorBlock).text =
    .ok (floorFill center BlockName.air states)

/-- Over a floor that is not of air a bench stands firm. -/
theorem Bench.StandsFirm.of_laidOver {b : Bench World} (h : b.Orderly) {center : Position}
    (hroom : HasRoom center)
    (hsupport : BlockName.canonical b.site.console.settings.supportBlock ≠ BlockName.air)
    {floor : Option Block} (hlaid : LaidOver center floor b.site) (hfloor : floor.isSome = true) :
    b.StandsFirm where
  orderly := h
  room := hlaid.around ▸ hroom
  support := hsupport
  footing i _ := by rw [hlaid.beneath, hfloor]

/-! ### A world that refuses nothing any more -/

/-- From here on the world refuses nothing. -/
def forgiving : List Turn :=
  Action.Kind.all.map .recover ++ [.loseTeleports false]

theorem careful_forgiving : ∀ t ∈ forgiving, t.Careful := by
  intro t ht
  rw [forgiving, List.mem_append, List.mem_map, List.mem_singleton] at ht
  rcases ht with ⟨kind, -, rfl⟩ | rfl <;> exact trivial

/-- After kinds of actions have recovered, they are not refused. -/
theorem play_recover (kinds : List Action.Kind) (b : Bench World) :
    b.play (kinds.map .recover) =
      b.onWorld fun w => { w with failing := w.failing.filter fun k => !kinds.contains k } := by
  induction kinds generalizing b with
  | nil => simp [Bench.play, Bench.onWorld]
  | cons kind kinds ih =>
    refine (ih (b.after (.recover kind))).trans ?_
    have hfilter (failing : List Action.Kind) :
        (failing.filter (· != kind)).filter (fun k => !kinds.contains k) =
          failing.filter fun k => !(kind :: kinds).contains k := by
      rw [List.filter_filter]
      refine List.filter_congr fun k _ => ?_
      rw [List.contains_cons, Bool.not_or, Bool.and_comm]
      rfl
    exact congrArg (fun failing => b.onWorld fun w => { w with failing }) (hfilter _)

/-- Then all is as before, but nothing is refused. -/
theorem play_forgiving (b : Bench World) :
    b.play forgiving = b.onWorld fun w => { w with failing := [], teleportsLost := false } := by
  have hnone (failing : List Action.Kind) :
      (failing.filter fun k => !Action.Kind.all.contains k) = [] := by
    rw [List.filter_eq_nil_iff]
    intro kind _
    cases kind <;> decide
  rw [forgiving, Bench.play, List.foldl_append]
  show ((b.play (Action.Kind.all.map .recover)).after (.loseTeleports false)) = _
  rw [play_recover, Bench.onWorld, hnone]
  rfl

/-- On a work area that was just laid out a helper is placed in slot 1, over the floor as it is. -/
theorem obtainHelper_of_laidOver (hable : Able s) {center : Position} {floor : Option Block}
    (h : LaidOver center floor s) (kind : Helper) :
    ((obtainHelper kind).run s).result = .ok 1 ∧
      foundIn ((obtainHelper kind).run s).site (.neighbor 1 .down) = floor := by
  have hnone : ∀ j ∈ Layout.slotsFrom false, kind.test (s.console.slot j) = false := by
    intro j _
    rw [h.slot j]
    cases kind <;> rfl
  have hfirst : s.console.search? Belief.isAir false = some 1 :=
    List.find?_cons_of_pos (congrArg Belief.isAir (h.slot 1))
  have hplan := obtainPlan_of_first hnone hfirst (h.bears 1)
  have hout := (follows_obtainHelper (s := s) kind).carriesOut hable
  rw [hplan] at hout
  refine ⟨hout.result, ?_⟩
  rw [hout.wrote.foundIn_eq hable.room]
  exact h.beneath 1

/-! ### Helpers stand unless the floor is of air -/

/-- **Helpers stand** from here on: as long as all turns are careful, there is a block directly
beneath every slot in which a helper is obtained. -/
def Bench.HelpersStand (b : Bench World) : Prop :=
  ∀ turns : List Turn, (∀ t ∈ turns, t.Careful) → ∀ (kind : Helper) (i : Slot),
    ((Request.obtainHelper kind).perform (b.play turns)).result = .ok i →
    (foundIn ((Request.obtainHelper kind).perform (b.play turns)).bench.site
      (.neighbor i .down)).isSome = true

/-- Helpers stand if the work area stands firm. -/
theorem Bench.StandsFirm.helpersStand {b : Bench World} (h : b.StandsFirm) : b.HelpersStand := by
  intro turns hturns kind i hok
  have hafter := (h.play hturns).request (r := .obtainHelper kind) trivial
  exact hafter.footing i (.inr (isSpare_of_obtainHelper hok))

/-- Over a floor of air they do not: the first helper floats as soon as nothing is refused. -/
theorem not_helpersStand_of_laidOver {b : Bench World} {center : Position} (hroom : HasRoom center)
    (h : LaidOver center none b.site) : ¬b.HelpersStand := by
  intro hstand
  have hlaid : LaidOver center none (b.play forgiving).site := by
    rw [play_forgiving]
    exact ⟨h.ready, h.around, h.position, h.player, h.slot, h.bears, h.beneath⟩
  have hobliging : (b.play forgiving).site.world.Obliging := by
    rw [play_forgiving]
    exact ⟨rfl, rfl⟩
  obtain ⟨hok, hbeneath⟩ :=
    obtainHelper_of_laidOver (able_of_laidOver hlaid hroom hobliging) hlaid .anvil
  have hsome := hstand forgiving careful_forgiving .anvil 1 hok
  exact Option.ne_none_iff_isSome.mpr hsome hbeneath

/-- A floor block that can stand in a command as it is lays air only if it is air. -/
theorem laysAir_iff {settings : Settings} (h : PlainFloor settings) (center : Position) :
    LaysAir settings center ↔ BlockName.canonical settings.floorBlock = BlockName.air := by
  have hself := Command.parse_text (readable_floorCommand h center)
  rw [LaysAir, hself]
  constructor
  · rintro ⟨states, hread⟩
    exact (Command.fill.inj (Except.ok.inj hread)).2.2.1
  · intro hair
    refine ⟨.empty, congrArg Except.ok ?_⟩
    rw [floorFill, ← hair]
    rfl

/-- **Helpers stand unless the floor is of air.** Let support blocks not be of air, and let a work
area be laid out with success around a center with room, by a bench that was used in any way before.
Then there is a block beneath every helper that is obtained, whatever careful turns come in between,
if and only if the command for the floor is not read as laying air. -/
theorem helpers_stand_iff (settings : Settings) (world : World) (before : List Turn)
    {b : Bench World} (hb : b = (Bench.new settings world).play before)
    (hsupport : BlockName.canonical settings.supportBlock ≠ BlockName.air) {dimension : Word}
    {center : Position} (hroom : HasRoom center)
    (hlaid : ((Request.layOut dimension center).perform b).result = .ok ()) :
    ((Request.layOut dimension center).perform b).bench.HelpersStand ↔
      ¬LaysAir settings center := by
  have hnew := Bench.Orderly.new settings world
  have hsettings : b.site.console.settings = settings := by
    rw [hb, Bench.settings_play hnew]
    rfl
  have horderly : ((Request.layOut dimension center).perform b).bench.Orderly :=
    (hb ▸ hnew.play before).request _
  have hkept : ((Request.layOut dimension center).perform b).bench.site.console.settings =
      settings := (Request.settings_perform _ (hb ▸ hnew.play before)).trans hsettings
  -- The world read the command for the floor as laying some block, and it reads it in one way only.
  obtain ⟨name, states, hname, hread, hover⟩ := laidOver_of_layOut hroom hlaid
  rw [hsettings] at hread
  change LaidOver center _ ((Request.layOut dimension center).perform b).bench.site at hover
  generalize ((Request.layOut dimension center).perform b).bench = laid at horderly hkept hover ⊢
  constructor
  · rintro hstand ⟨states', hair⟩
    obtain ⟨-, -, rfl, -⟩ := Command.fill.inj (Except.ok.inj (hread.symm.trans hair))
    rw [Block.named?_air] at hover
    exact not_helpersStand_of_laidOver hroom hover hstand
  · intro hair
    have hfloor : (Block.named? name states).isSome = true := by
      have hne : BlockName.canonical name ≠ BlockName.air := by
        rw [hname]
        rintro rfl
        exact hair ⟨states, hread⟩
      simp [Block.named?, hne]
    exact (Bench.StandsFirm.of_laidOver horderly hroom (hkept ▸ hsupport) hover hfloor).helpersStand

/-- Over a floor of air the first helper floats. -/
theorem floats_of_laysAir {b : Bench World} {dimension : Word} {center : Position}
    (hair : LaysAir b.site.console.settings center) (hroom : HasRoom center)
    (hlaid : ((Request.layOut dimension center).perform b).result = .ok ())
    (hobliging : ((Request.layOut dimension center).perform b).bench.site.world.Obliging)
    (kind : Helper) :
    ((Request.obtainHelper kind).perform
        ((Request.layOut dimension center).perform b).bench).result = .ok 1 ∧
      foundIn ((Request.obtainHelper kind).perform
        ((Request.layOut dimension center).perform b).bench).bench.site (.neighbor 1 .down) =
          none := by
  obtain ⟨name, states, -, hread, hover⟩ := laidOver_of_layOut hroom hlaid
  obtain ⟨states', hair⟩ := hair
  obtain ⟨-, -, rfl, -⟩ := Command.fill.inj (Except.ok.inj (hread.symm.trans hair))
  rw [Block.named?_air] at hover
  exact obtainHelper_of_laidOver (able_of_laidOver hover hroom hobliging) hover kind

/-- A center in the open. -/
def openCenter : Position := ⟨1000, 64, 1000⟩

/-- A bench over an empty world, with a floor block. -/
def benchOver (floorBlock : String) : Bench World :=
  .new { floorBlock } {}

/-- A run in which a loom is put into slot 1, and an anvil is refused. -/
def loomRun : List Turn :=
  [.request (.putInSlot "user" 1 .loom), .fail .setHelper, .request (.obtainHelper .anvil),
    .recover .setHelper]

/-- Over a floor of stone the anvil stands in slot 2 in the end. -/
theorem helpers_stand_iff_loomRun :
    ((Request.obtainHelper .anvil).perform (((Request.layOut 0 openCenter).perform
        (benchOver "stone")).bench.play loomRun)).result = .ok 2 ∧
      (foundIn ((Request.obtainHelper .anvil).perform (((Request.layOut 0 openCenter).perform
        (benchOver "stone")).bench.play loomRun)).bench.site (.neighbor 2 .down)).isSome = true := by
  have hroom : HasRoom openCenter := by constructor <;> decide
  have hplain : PlainFloor { floorBlock := "stone" } := by
    unfold PlainFloor
    decide +kernel
  have hair : ¬LaysAir { floorBlock := "stone" } openCenter := by
    rw [laysAir_iff hplain]
    decide +kernel
  have hcareful : ∀ t ∈ loomRun, t.Careful := by simp [loomRun, Turn.Careful, Request.Careful]
  have hok : ((Request.obtainHelper .anvil).perform (((Request.layOut 0 openCenter).perform
      (benchOver "stone")).bench.play loomRun)).result = .ok 2 := by decide +kernel
  have hstand := (helpers_stand_iff { floorBlock := "stone" } {} [] (b := benchOver "stone") rfl
    (by decide +kernel) hroom (by decide +kernel)).mpr hair loomRun hcareful .anvil 2 hok
  exact ⟨hok, hstand⟩

/-- Over a floor of air an anvil is placed in slot 1, and it floats: a floor is believed to bear
helpers whatever it is called. -/
theorem anvil_floats_over_air :
    BlockName.canonical (benchOver "air").site.console.settings.supportBlock ≠ BlockName.air ∧
      HasRoom openCenter ∧
      ((Request.layOut 0 openCenter).perform (benchOver "air")).result = .ok () ∧
      ((Request.obtainHelper .anvil).perform ((Request.layOut 0 openCenter).perform
        (benchOver "air")).bench).result = .ok 1 ∧
      foundIn ((Request.obtainHelper .anvil).perform ((Request.layOut 0 openCenter).perform
        (benchOver "air")).bench).bench.site (.neighbor 1 .down) = none := by
  have hroom : HasRoom openCenter := by constructor <;> decide
  have hplain : PlainFloor (benchOver "air").site.console.settings := by
    unfold PlainFloor
    decide +kernel
  have hair : LaysAir (benchOver "air").site.console.settings openCenter := by
    rw [laysAir_iff hplain]
    decide +kernel
  have hlaid : ((Request.layOut 0 openCenter).perform (benchOver "air")).result = .ok () := by
    decide +kernel
  have hobliging : ((Request.layOut 0 openCenter).perform
      (benchOver "air")).bench.site.world.Obliging := by
    constructor <;> decide +kernel
  exact ⟨by decide +kernel, hroom, hlaid, floats_of_laysAir hair hroom hlaid hobliging .anvil⟩

end BlockConsole
