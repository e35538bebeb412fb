import BlockConsole.Proofs.Bench.Course
import BlockConsole.Proofs.Console.Atomicity
import Mathlib.Algebra.Order.Ring.Int
import Mathlib.Data.Nat.Cast.Order.Ring

/-!
# The gate of reach

Before the console acts on a target it compares a squared distance with the reach of its settings.
The distance is counted in numbers of 63 bits, where every product and every sum may be cut off. All
of these are nonnegative, so what is cut off on the way is cut off at the end, too, and the result
is the exact distance up to the limit (`Position.distanceSq_eq_min`).

An approach is therefore decided by the exact distance (`reach_gate_exact`): it does nothing where
the target is within reach, whatever reach was chosen, and else it is a single teleport, which moves
the agent to the target if it was acknowledged as a success and leaves it where it was if not.
-/

namespace BlockConsole

open Work Console

/-! ### Exact distances -/

namespace Position

/-- The **exact squared distance** of two positions. -/
def exactSq (p q : Position) : Int :=
  (p.x.val - q.x.val) ^ 2 + (p.y.val - q.y.val) ^ 2 + (p.z.val - q.z.val) ^ 2

theorem spanSq_eq_min (a b : Word) :
    (spanSq a b : Int) = min ((a.val - b.val) ^ 2) (2 ^ 63 - 1) := by
  have hlimit : (distanceLimit : Int) = 2 ^ 63 - 1 := rfl
  rw [spanSq, Nat.cast_min, Int.natAbs_mul_self, ← sq, hlimit]

/-- The squared distance is the exact one up to the limit, although it is cut off on the way. -/
theorem distanceSq_eq_min (p q : Position) :
    (p.distanceSq q : Int) = min (p.exactSq q) (2 ^ 63 - 1) := by
  have hlimit : (distanceLimit : Int) = 2 ^ 63 - 1 := rfl
  have hx := sq_nonneg (p.x.val - q.x.val)
  have hy := sq_nonneg (p.y.val - q.y.val)
  have hz := sq_nonneg (p.z.val - q.z.val)
  rw [distanceSq, exactSq]
  simp only [Nat.cast_min, Nat.cast_add, spanSq_eq_min, hlimit]
  omega

end Position

/-! ### Teleports and approaches -/

variable {W : Type} [Environment W] {s : Site W}

/-- A teleport is one action, whatever comes of it. -/
theorem actionsIn_teleport (target : Position) (s : Site W) :
    actionsIn ((teleport target).run s).events = [teleportAction s target] := by
  cases h : teleportOutcome s target with
  | error e =>
    rw [run_teleport_of_error h]
    exact actionsIn_actEvents _ _
  | ok a =>
    rw [run_teleport_of_ok h]
    exact actionsIn_actEvents _ _

/-- A teleport succeeds exactly if the environment acknowledges it as a success. -/
theorem result_teleport_iff (target : Position) (s : Site W) :
    ((teleport target).run s).result = .ok () ↔
      ∃ a, (Environment.respond (teleportAction s target) s.world).reply = .ok a ∧
        a.isSuccess = true := by
  have hout (a : Acknowledgment) : teleportOutcome s target = .ok a ↔ _ :=
    Command.outcome_eq_ok_iff
  cases h : teleportOutcome s target with
  | error e =>
    rw [run_teleport_of_error h]
    refine iff_of_false (by simp) ?_
    rintro ⟨a, ha⟩
    exact absurd (h.symm.trans ((hout a).mpr ha)) (by simp)
  | ok a =>
    rw [run_teleport_of_ok h]
    exact iff_of_true rfl ⟨a, (hout a).mp h⟩

/-- A teleport that succeeds moves the agent of the console, and one that fails does not. -/
theorem console_teleport (target : Position) (s : Site W) :
    (((teleport target).run s).result = .ok () →
        ((teleport target).run s).site.console = s.console.movedTo target) ∧
      ∀ e, ((teleport target).run s).result = .error e →
        ((teleport target).run s).site.console = s.console := by
  cases h : teleportOutcome s target with
  | error e =>
    rw [run_teleport_of_error h]
    exact ⟨fun hok => absurd hok (by simp), fun _ _ => rfl⟩
  | ok a =>
    rw [run_teleport_of_ok h]
    exact ⟨fun _ => rfl, fun e he => absurd he (by simp)⟩

/-- The actions of an approach: a teleport, unless the target is within reach. -/
theorem actionsIn_approach (h : s.console.initialized = true) (target : Position) :
    actionsIn ((approach target).run s).events = [] ∧ Reaches s.console target ∨
      actionsIn ((approach target).run s).events = [teleportAction s target] ∧
        ¬ Reaches s.console target := by
  by_cases hnear : Reaches s.console target
  · rw [run_approach_of_reaches h hnear]
    exact .inl ⟨rfl, hnear⟩
  · obtain ⟨entry, hrun⟩ := run_approach_of_not_reaches h hnear
    rw [hrun]
    exact .inr ⟨actionsIn_teleport target s, hnear⟩

/-- **The gate of reach is exact.** The squared distance that decides is the exact one, cut off at
`2⁶³ - 1` only. An approach to a target that is no farther than the reach of the settings does
nothing; to any other one it sends a single teleport. If that is acknowledged as a success, the
approach succeeds and the agent is at the target, and nothing else changes in the console; if not,
the approach fails and the console is as it was. -/
theorem reach_gate_exact :
    (∀ p q : Position, (p.distanceSq q : Int) = min (p.exactSq q) (2 ^ 63 - 1)) ∧
    ∀ (s : Site W) (target : Position), s.console.initialized = true →
      let distance := min (s.console.position.exactSq target) (2 ^ 63 - 1)
      let o := (approach target).run s
      (distance ≤ s.console.settings.reachDistanceSq → o = ⟨.ok (), s, []⟩) ∧
      (s.console.settings.reachDistanceSq < distance →
        actionsIn o.events = [.send (.teleport target) s.console.settings.teleportTimeout] ∧
        (o.result = .ok () ↔ ∃ a, (Environment.respond
          (.send (.teleport target) s.console.settings.teleportTimeout) s.world).reply = .ok a ∧
            a.isSuccess = true) ∧
        (o.result = .ok () → o.site.console = { s.console with position := target }) ∧
        (∀ e, o.result = .error e → o.site.console = s.console)) := by
  refine ⟨Position.distanceSq_eq_min, fun s target hready => ?_⟩
  intro distance o
  have hreach : Reaches s.console target ↔ distance ≤ s.console.settings.reachDistanceSq := by
    rw [Reaches, Position.distanceSq_eq_min]
  refine ⟨fun hnear => run_approach_of_reaches hready (hreach.mpr hnear), fun hfar => ?_⟩
  obtain ⟨entry, hrun⟩ :=
    run_approach_of_not_reaches hready fun hnear => absurd (hreach.mp hnear) (not_le.mpr hfar)
  have ho : o = ((teleport target).run s).after [.logged entry] := hrun
  rw [ho]
  exact ⟨actionsIn_teleport target s, result_teleport_iff target s, console_teleport target s⟩

/-- An agent in one corner of the world, with a reach just short of the greatest distance. -/
def cornered : Site Jammed where
  console :=
    { settings := { reachDistanceSq := 2 ^ 63 - 2 }
      initialized := true
      position := ⟨.clamp (-2 ^ 31), .clamp (-2 ^ 31), .clamp (-2 ^ 31)⟩ }
  world := .jammed

/-- The opposite corner of the world. -/
def farCorner : Position := ⟨.clamp (2 ^ 31 - 1), .clamp (2 ^ 31 - 1), .clamp (2 ^ 31 - 1)⟩

/-- The exact distance to the opposite corner has more than 64 bits, and it is cut off to a number
that is out of reach by one. -/
theorem reach_gate_exact_cornered :
    cornered.console.initialized = true ∧
      cornered.console.position.exactSq farCorner = 3 * (2 ^ 32 - 1) ^ 2 ∧
      actionsIn ((approach farCorner).run cornered).events =
        [.send (.teleport farCorner) 5000] ∧
      ((approach farCorner).run cornered).result = .ok () ∧
      ((approach farCorner).run cornered).site.console.position = farCorner := by
  have hfar : cornered.console.settings.reachDistanceSq <
      min (cornered.console.position.exactSq farCorner) (2 ^ 63 - 1) := by
    decide +kernel
  obtain ⟨-, hgate⟩ := reach_gate_exact (W := Jammed)
  obtain ⟨hsent, hresult, hmoved, -⟩ := (hgate cornered farCorner rfl).2 hfar
  have hok := hresult.mpr ⟨.success "", rfl, rfl⟩
  exact ⟨rfl, by decide +kernel, hsent, hok, congrArg Console.position (hmoved hok)⟩

end BlockConsole
