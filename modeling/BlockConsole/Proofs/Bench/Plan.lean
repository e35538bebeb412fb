import BlockConsole.Proofs.Bench.FreshArea
import BlockConsole.Proofs.Bench.Mark
import BlockConsole.Proofs.Bench.Opening
import BlockConsole.Proofs.World.Agent

/-!
# What an operation sets out to do

A `Plan` is what an operation comes to if nothing hinders it: its result and the marks it writes.
An operation `Follows` its plan from a site if, whatever the world refuses, it writes the marks in
their order and stops at most early, and if from a site that is `Able` it carries the plan out. A
site is able if its console is ready, its world refuses nothing, and the agent gets near enough to
every cell for blocks to open. A work area that was just laid out is able in such a world
(`able_of_laidOver`).

An approach writes nothing, and it keeps a site able (`able_approach`). So an approach that is
followed by one action follows the plan of the action (`follows_approach_act`), and plans are put
together by `Follows.bind`.
-/

namespace BlockConsole

open Work Console

variable {α β : Type} {s s' s'' : Site World}

/-! ### Sites where nothing hinders the agent -/

/-- A site is **able** if nothing hinders its agent: the console is ready and has room, it knows
where the agent is, the world refuses nothing, and no block is out of reach that the agent takes to
be within reach. -/
structure Able (s : Site World) : Prop where
  ready : s.console.initialized = true
  obliging : s.world.Obliging
  pose : s.console.position = s.world.player
  room : HasRoom s.console.center
  near : s.console.settings.reachDistanceSq ≤ World.interactionDistanceSq ∨
    InVolume s.console.center s.world.player

/-- Writing marks keeps a site able if it leaves the agent alone. -/
theorem Able.of_wrote (h : Able s) {marks : List Mark} (hwrote : Wrote marks s s')
    (hagent : World.SameAgent s.world s'.world) : Able s' where
  ready := hwrote.initialized.trans h.ready
  obliging := hagent.obliging h.obliging
  pose := hwrote.pose h.pose
  room := hwrote.center ▸ h.room
  near := by
    rw [hwrote.settings, hwrote.center, hagent.player]
    exact h.near

/-- Any two positions within the working volume are near enough for blocks to open. -/
theorem InVolume.distanceSq_le {center p q : Position} (hp : InVolume center p)
    (hq : InVolume center q) : p.distanceSq q ≤ World.interactionDistanceSq := by
  have hspan {a b c : Word} {n : Nat} (ha : (a.val - c.val).natAbs ≤ n)
      (hb : (b.val - c.val).natAbs ≤ n) : Position.spanSq a b ≤ (2 * n) * (2 * n) := by
    have hdiff : (a.val - b.val).natAbs ≤ 2 * n := by omega
    exact (Nat.min_le_left _ _).trans (Nat.mul_le_mul hdiff hdiff)
  have hx := hspan hp.1 hq.1
  have hy := hspan hp.2.1 hq.2.1
  have hz := hspan hp.2.2 hq.2.2
  have hlimit : World.interactionDistanceSq = 144 := rfl
  rw [Position.distanceSq]
  omega

/-- Every cell lies within the working volume. -/
theorem Cell.inVolume_position {center : Position} (h : HasRoom center) (cell : Cell) :
    InVolume center (cell.position center) := by
  obtain ⟨⟨hx, hx₀, hx₁⟩, ⟨hy, hy₀, hy₁, -⟩, hz, hz₀, hz₁⟩ := cell.position_val h
  rw [InVolume, hx, hy, hz]
  omega

/-! ### A work area that was just laid out -/

/-- A work area is **laid out** around a center over a floor of some block: the console knows of a
floor that bears helpers, and of nothing else. -/
structure LaidOver (center : Position) (floor : Option Block) (s : Site World) : Prop where
  ready : s.console.initialized = true
  around : s.console.center = center
  position : s.console.position = center
  player : s.world.player = center
  slot : ∀ i : Slot, s.console.slot i = .air
  bears : ∀ i : Slot, (s.console.neighbor i .down).bearsHelper = true
  beneath : ∀ i : Slot, foundIn s (.neighbor i .down) = floor

/-- A work area that was laid out with success lies over the block that the command for the floor
was read as. -/
theorem laidOver_of_layOut {dimension : Word} {center : Position} {x : Unit}
    (hroom : HasRoom center) (h : ((layOut dimension center).run s).result = .ok x) :
    ∃ name states, BlockName.canonical name = name ∧
      Command.parse (floorCommand center s.console.settings.floorBlock).text =
        .ok (floorFill center name states) ∧
      LaidOver center (Block.named? name states) ((layOut dimension center).run s).site := by
  obtain ⟨hconsole, name, states, hname, hread, halike⟩ := ends_buildArea_read (ends_of_layOut h)
  refine ⟨name, states, hname, hread, ?_⟩
  generalize ((layOut dimension center).run s).site = s' at hconsole halike
  obtain ⟨c, w⟩ := s'
  obtain rfl : c = _ := hconsole
  have hbuilt := rebuilt_builtOver s.console.settings center name states s.world
  constructor
  · rfl
  · rfl
  · rfl
  · exact halike.player.trans hbuilt.player
  · exact fun i => believed_laidOut _ (.slot i)
  · intro i
    have hfloor := believed_laidOut ((s.console.relocated dimension center).movedTo center)
      (.neighbor i .down)
    exact congrArg Belief.bearsHelper hfloor
  · intro i
    refine (halike.blockAt _).trans ?_
    exact blockAt_builtOver_cell hroom s.console.settings name states s.world (.neighbor i .down)

/-- Once a work area was laid out in a world that refuses nothing, nothing hinders the agent. -/
theorem able_of_laidOver {center : Position} {floor : Option Block} (h : LaidOver center floor s)
    (hroom : HasRoom center) (hobliging : s.world.Obliging) : Able s := by
  refine ⟨h.ready, hobliging, h.position.trans h.player.symm, h.around ▸ hroom, .inr ?_⟩
  rw [h.around, h.player]
  simp [InVolume]

/-! ### Approaching a cell -/

/-- An approach writes nothing. -/
theorem wrote_approach (target : Position) (s : Site World) :
    Wrote [] s ((approach target).run s).site := by
  cases h : s.console.initialized with
  | false =>
    rw [run_approach_of_not h]
    exact .refl s
  | true =>
    have hc := approach_cases h target
    generalize (approach target).run s = o at hc
    cases hc with
    | near => exact .refl s
    | refused hout =>
      exact .of_alike (World.alike_of_outcome_error (c := .teleport target) hout)
    | moved hout =>
      have halike := World.after_of_outcome_ok (c := .teleport target) trivial hout
      exact ⟨rfl, rfl, rfl, fun _ => halike.player.symm, rfl, funext halike.blockAt⟩

/-- From a site that is able an approach gets near to a cell, and it leaves the site able. Every
command it sends is a teleport. -/
theorem able_approach (h : Able s) (cell : Cell) :
    ((approach (cell.position s.console.center)).run s).result = .ok () ∧
      Able ((approach (cell.position s.console.center)).run s).site ∧
      ((approach (cell.position s.console.center)).run s).site.world.player.distanceSq
        (cell.position s.console.center) ≤ World.interactionDistanceSq ∧
      ((approach (cell.position s.console.center)).run s).site.world.surplus =
        s.world.surplus := by
  have hthere := cell.inVolume_position h.room
  obtain ⟨a, ha⟩ := h.obliging.outcome_send (c := .teleport (cell.position s.console.center))
    trivial trivial s.console.settings.teleportTimeout
  have hc := approach_cases h.ready (cell.position s.console.center)
  generalize (approach (cell.position s.console.center)).run s = o at hc
  cases hc with
  | near hreach =>
    refine ⟨rfl, h, ?_, rfl⟩
    rcases h.near with hshort | hinside
    · rw [Reaches, h.pose] at hreach
      exact Int.ofNat_le.mp (hreach.trans hshort)
    · exact hinside.distanceSq_le hthere
  | refused hout => exact absurd (hout.symm.trans ha) (by simp)
  | moved hout =>
    have halike := World.after_of_outcome_ok (c := .teleport (cell.position s.console.center))
      trivial hout
    refine ⟨rfl, ⟨h.ready, halike.obliging (h.obliging.after _), halike.player.symm, h.room, ?_⟩,
      ?_, World.surplus_teleport h.obliging ..⟩
    · refine .inr ?_
      show InVolume s.console.center (siteAt s _).world.player
      rw [show (siteAt s _).world.player = _ from halike.player]
      exact hthere
    · rw [show (siteAt s _).world.player = _ from halike.player]
      exact hthere.distanceSq_le hthere

/-! ### Plans -/

/-- A **plan**: a result, and the marks to write on the way to it. -/
structure Plan (α : Type) where
  result : Except Failure α
  marks : List Mark

/-- An outcome **carries a plan out**: it has the result and the marks of the plan, the site is able
as before, and all commands on the way were teleports that succeeded. -/
structure CarriesOut (plan : Plan α) (s : Site World) (o : Outcome World Failure α) : Prop where
  result : o.result = plan.result
  wrote : Wrote plan.marks s o.site
  able : Able o.site
  surplus : o.site.world.surplus = s.world.surplus

/-- An outcome **writes at most** the marks of a plan: only the last ones may be left out, and only
where the work failed. -/
def WritesAtMost (plan : Plan α) (s : Site World) (o : Outcome World Failure α) : Prop :=
  ∃ marks, marks <+: plan.marks ∧ Wrote marks s o.site ∧ ∀ a, o.result = .ok a → marks = plan.marks

/-- An outcome **follows a plan** if it writes at most the marks of the plan, and carries the plan
out wherever the site is able. -/
structure Follows (plan : Plan α) (s : Site World) (o : Outcome World Failure α) : Prop where
  wrote : WritesAtMost plan s o
  carriesOut : Able s → CarriesOut plan s o

namespace Follows

/-- Doing nothing follows a plan without marks. -/
theorem done (result : Except Failure α) (events : List Event) :
    Follows ⟨result, []⟩ s ⟨result, s, events⟩ where
  wrote := ⟨[], List.prefix_rfl, .refl s, fun _ _ => rfl⟩
  carriesOut h := ⟨rfl, .refl s, h, rfl⟩

theorem after {plan : Plan α} {o : Outcome World Failure α} (h : Follows plan s o)
    (events : List Event) : Follows plan s (o.after events) :=
  ⟨h.wrote, fun hable => ⟨(h.carriesOut hable).result, (h.carriesOut hable).wrote,
    (h.carriesOut hable).able, (h.carriesOut hable).surplus⟩⟩

/-- Work that follows a plan, and then work that writes nothing, from wherever it is. -/
theorem bind {w : Work World Failure α} {f : α → Work World Failure β} {a : α}
    {marks : List Mark} {result : Except Failure β} (hw : Follows ⟨.ok a, marks⟩ s (w.run s))
    (hf : ∀ x s₁, Wrote marks s s₁ → Follows ⟨result, []⟩ s₁ ((f x).run s₁)) :
    Follows ⟨result, marks⟩ s ((w >>= f).run s) := by
  obtain ⟨⟨early, hearly, hwrote, hall⟩, hcarries⟩ := hw
  rw [run_bind]
  cases hres : (w.run s).result with
  | error e =>
    -- The plan has a result, so from an able site this cannot happen.
    refine ⟨⟨early, hearly, hwrote, by simp⟩, fun hable => ?_⟩
    exact absurd (hres.symm.trans (hcarries hable).result) (by simp)
  | ok x =>
    obtain rfl : early = marks := hall x hres
    obtain ⟨⟨late, hlate, hwrote', -⟩, hcarries'⟩ := hf x _ hwrote
    obtain rfl : late = [] := List.prefix_nil.mp hlate
    have hboth := hwrote.trans hwrote'
    rw [List.append_nil] at hboth
    refine ⟨⟨early, List.prefix_rfl, hboth, fun _ _ => rfl⟩, fun hable => ?_⟩
    have h₁ := hcarries hable
    have h₂ := hcarries' h₁.able
    exact ⟨h₂.result, hboth, h₂.able, h₂.surplus.trans h₁.surplus⟩

/-- Work that is done only if the console is ready follows its plan anyway: where the console is
not ready nothing is written, and the site is not able. -/
theorem ready {f : Unit → Work World Failure α} {plan : Plan α}
    (h : Follows plan s ((f ()).run s)) : Follows plan s ((requireReady >>= f).run s) := by
  cases hready : s.console.initialized with
  | true =>
    rw [run_bind_of_ok (run_requireReady hready)]
    exact h
  | false =>
    rw [run_bind_of_error (run_requireReady_of_not hready)]
    refine ⟨⟨[], List.nil_prefix, .refl s, by simp⟩, fun hable => ?_⟩
    exact absurd (hready.symm.trans hable.ready) (by decide)

/-- Work that depends on the console as it is. -/
theorem read {f : Console → Work World Failure α} {plan : Plan α}
    (h : Follows plan s ((f s.console).run s)) : Follows plan s ((Work.console >>= f).run s) := by
  rw [run_bind_of_ok (run_console s)]
  exact h

/-- Work on a slot. -/
theorem slot {i : Slot} {f : Slot → Work World Failure α} {plan : Plan α}
    (h : Follows plan s ((f i).run s)) : Follows plan s ((slotOf i >>= f).run s) := by
  rw [run_bind_of_ok (run_slotOf i s)]
  exact h

end Follows

/-! ### An approach and an action -/

/-- What comes of an action at a site if it is acknowledged: the rest of the work takes no action
and succeeds, and the marks of the plan are written. The result is that of the plan if nothing is
made to fail and the agent is near the target. -/
def Answers (plan : Plan α) (target : Position) (a : Action) (f : a.Reply → Work World Failure α)
    (s : Site World) : Prop :=
  ∀ x, (World.respond a s.world).reply = .ok x →
    ∃ r c events, (f x).run (siteAfter a s) = ⟨.ok r, ⟨c, (siteAfter a s).world⟩, events⟩ ∧
      Wrote plan.marks s ⟨c, (siteAfter a s).world⟩ ∧
      (s.world.Obliging → s.world.player.distanceSq target ≤ World.interactionDistanceSq →
        plan.result = .ok r)

/-- An action that is refused although nothing is made to fail is refused by the plan, too. -/
def Refuses (plan : Plan α) (a : Action) : Prop :=
  ∀ (w : World) (e : ActionError), w.Obliging → (World.respond a w).reply = .error e →
    plan = ⟨.error (.error (.action e)), []⟩

section

variable {a : Action} {f : a.Reply → Work World Failure α} {plan : Plan α}

/-- An action that is not a command, and the rest of the work. -/
theorem writes_act {target : Position} (hkind : a.kind ≠ .send)
    (hanswers : Answers plan target a f s) (hrefuses : Refuses plan a) :
    WritesAtMost plan s ((do let x ← Work.act a; f x).run s) ∧
      (Able s → s.world.player.distanceSq target ≤ World.interactionDistanceSq →
        CarriesOut plan s ((do let x ← Work.act a; f x).run s)) := by
  have hact := run_act a s
  have hagent := World.sameAgent_respond hkind s.world
  cases hr : (Environment.respond a s.world).reply with
  | error e =>
    have hnone : Wrote [] s (siteAfter a s) := .of_alike (World.alike_of_error hr)
    rw [hr] at hact
    rw [run_bind_of_error hact]
    refine ⟨⟨[], List.nil_prefix, hnone, by simp⟩, fun hable _ => ?_⟩
    rw [hrefuses s.world e hable.obliging hr]
    exact ⟨rfl, hnone, hable.of_wrote hnone hagent, hagent.surplus⟩
  | ok x =>
    obtain ⟨r, c, events, hrun, hwrote, hresult⟩ := hanswers x hr
    rw [hr] at hact
    rw [run_bind_of_ok hact, hrun]
    refine ⟨⟨plan.marks, List.prefix_rfl, hwrote, fun _ _ => rfl⟩, fun hable hnear => ?_⟩
    exact ⟨(hresult hable.obliging hnear).symm, hwrote, hable.of_wrote hwrote hagent,
      hagent.surplus⟩

/-- The same after an approach to a cell: from there on the action is near its target. -/
theorem follows_approach_act (cell : Cell) (hkind : a.kind ≠ .send)
    (hanswers : ∀ p w, w.blockAt = s.world.blockAt →
      Answers plan (cell.position s.console.center) a f ⟨s.console.movedTo p, w⟩)
    (hrefuses : Refuses plan a) :
    Follows plan s
      ((do approach (cell.position s.console.center); let x ← Work.act a; f x).run s) := by
  have hwrote := wrote_approach (cell.position s.console.center) s
  obtain ⟨p, hp⟩ := exists_movedTo_of_approach (cell.position s.console.center) s
  have harrive (h : Able s) := able_approach h cell
  rw [run_bind]
  generalize (approach (cell.position s.console.center)).run s = o at hwrote hp harrive
  obtain ⟨result, ⟨c₁, w⟩, events⟩ := o
  obtain rfl : c₁ = s.console.movedTo p := hp
  cases result with
  | error e =>
    refine ⟨⟨[], List.nil_prefix, hwrote, by simp⟩, fun hable => ?_⟩
    exact absurd (harrive hable).1 (by simp)
  | ok x =>
    -- The approach changed no block, and what an action comes to depends on the blocks alone.
    obtain ⟨⟨marks, hprefix, hmarks, hall⟩, hcarries⟩ :=
      writes_act hkind (hanswers p w hwrote.blocks) hrefuses
    refine Follows.after ⟨⟨marks, hprefix, hwrote.after_nil hmarks, hall⟩, fun hable => ?_⟩ events
    obtain ⟨-, hable₁, hnear, hsurplus⟩ := harrive hable
    have hout := hcarries hable₁ hnear
    exact ⟨hout.result, hwrote.after_nil hout.wrote, hout.able, hout.surplus.trans hsurplus⟩

end

end BlockConsole
