import BlockConsole.Proofs.Console.Coverage
import Mathlib.Data.List.Induction

/-!
# The course of a run

`Bench.serve` carries out requests one after the other, over any environment, and `Bench.course`
is all that happens meanwhile. `actionsIn` are the actions that were taken among some events. The
environment changes by nothing else: a request that takes no action leaves it as it is
(`Request.world_of_actionsIn`).

Much of what is true after a run is decided by the last time that something happened in it. `Since`
says that it happened, and that nothing undid it later; `since_concat` looks at one more step.
-/

namespace BlockConsole

open Work Console

/-! ### The last time that something happened -/

/-- Something **happened since**: at one element of a list, in view of the ones before, and of all
later elements it is still true that they leave it at that. -/
def Since {α : Type} (happened : List α → α → Prop) (leaves : α → Prop) (l : List α) : Prop :=
  ∃ earlier x later, l = earlier ++ x :: later ∧ happened earlier x ∧ ∀ y ∈ later, leaves y

theorem not_since_nil {α : Type} {happened : List α → α → Prop} {leaves : α → Prop} :
    ¬ Since happened leaves [] := by
  rintro ⟨earlier, x, later, hsplit, -⟩
  simp at hsplit

theorem since_concat {α : Type} {happened : List α → α → Prop} {leaves : α → Prop} {l : List α}
    {x : α} :
    Since happened leaves (l ++ [x]) ↔ (Since happened leaves l ∧ leaves x) ∨ happened l x := by
  constructor
  · rintro ⟨earlier, u, later, hsplit, hu, hlater⟩
    rcases List.eq_nil_or_concat later with rfl | ⟨later, v, rfl⟩
    · obtain ⟨rfl, hlast⟩ := List.append_inj' hsplit rfl
      obtain rfl := List.head_eq_of_cons_eq hlast
      exact .inr hu
    · rw [List.concat_eq_append] at hsplit hlater
      rw [← List.cons_append, ← List.append_assoc] at hsplit
      obtain ⟨rfl, hlast⟩ := List.append_inj' hsplit rfl
      obtain rfl := List.head_eq_of_cons_eq hlast
      exact .inl ⟨⟨earlier, u, later, rfl, hu, fun y hy => hlater y (List.mem_append_left _ hy)⟩,
        hlater x (by simp)⟩
  · rintro (⟨⟨earlier, u, later, rfl, hu, hlater⟩, hx⟩ | hx)
    · refine ⟨earlier, u, later ++ [x], by simp, hu, fun y hy => ?_⟩
      rcases List.mem_append.mp hy with hy | hy
      · exact hlater y hy
      · rwa [List.mem_singleton.mp hy]
    · exact ⟨l, x, [], rfl, hx, by simp⟩

/-! ### Actions among events -/

/-- The **actions** that were taken among some events. -/
def actionsIn (events : List Event) : List Action :=
  events.filterMap fun
    | .acted a _ => some a
    | _ => none

@[simp] theorem actionsIn_nil : actionsIn [] = [] := rfl

@[simp] theorem actionsIn_append (es fs : List Event) :
    actionsIn (es ++ fs) = actionsIn es ++ actionsIn fs :=
  List.filterMap_append

@[simp] theorem actionsIn_logged (entries : List LogEntry) :
    actionsIn (entries.map .logged) = [] := by
  simp [actionsIn]

variable {W : Type} [Environment W]

/-- Among the events of taking an action there is no other one. -/
@[simp] theorem actionsIn_actEvents (a : Action) (w : W) : actionsIn (actEvents a w) = [a] :=
  congrArg (a :: ·) (actionsIn_logged _)

/-- Leaving the environment alone unless an action is taken, as a frame. -/
def untouched (W : Type) : Frame W where
  Allows s s' events := actionsIn events = [] → s'.world = s.world
  quiet _ _ _ := rfl
  trans h₁ h₂ h := by
    rw [actionsIn_append, List.append_eq_nil_iff] at h
    exact (h₂ h.2).trans (h₁ h.1)

theorem untouched_covers : (untouched W).Covers fun _ _ => True where
  act a s _ h := absurd h (by simp)
  change _ _ _ _ _ := rfl
  update _ _ _ _ := rfl

/-- A request that takes no action leaves the environment alone. -/
theorem Request.world_of_actionsIn {r : Request} {b : Bench W} (hlay : r.isLayOut = false)
    (h : actionsIn (r.perform b).events = []) :
    (r.perform b).bench.site.world = b.site.world :=
  untouched_covers.request b hlay (fun _ _ _ => trivial) (fun a s _ h => absurd h (by simp)) h

/-! ### Runs -/

namespace Bench

/-- The bench after some requests, one after the other. -/
def serve (b : Bench W) (requests : List Request) : Bench W :=
  requests.foldl (fun b r => (r.perform b).bench) b

/-- All that happens in the **course** of some requests. -/
def course (b : Bench W) : List Request → List Event
  | [] => []
  | r :: rest => (r.perform b).events ++ (r.perform b).bench.course rest

theorem serve_cons (b : Bench W) (r : Request) (rest : List Request) :
    b.serve (r :: rest) = (r.perform b).bench.serve rest := rfl

theorem serve_append (b : Bench W) (earlier later : List Request) :
    b.serve (earlier ++ later) = (b.serve earlier).serve later :=
  List.foldl_append

theorem serve_concat (b : Bench W) (requests : List Request) (r : Request) :
    b.serve (requests ++ [r]) = (r.perform (b.serve requests)).bench :=
  b.serve_append requests [r]

theorem course_append (b : Bench W) (earlier later : List Request) :
    b.course (earlier ++ later) = b.course earlier ++ (b.serve earlier).course later := by
  induction earlier generalizing b with
  | nil => rfl
  | cons r rest ih => simp only [List.cons_append, course, serve_cons, ih, List.append_assoc]

/-- Requests that take no action leave the environment alone. -/
theorem world_of_course {b : Bench W} {requests : List Request}
    (hlay : ∀ r ∈ requests, r.isLayOut = false) (h : actionsIn (b.course requests) = []) :
    (b.serve requests).site.world = b.site.world := by
  induction requests generalizing b with
  | nil => rfl
  | cons r rest ih =>
    rw [course, actionsIn_append, List.append_eq_nil_iff] at h
    calc ((r.perform b).bench.serve rest).site.world
        = (r.perform b).bench.site.world :=
          ih (fun u hu => hlay u (List.mem_cons_of_mem r hu)) h.2
      _ = b.site.world := Request.world_of_actionsIn (hlay r List.mem_cons_self) h.1

end Bench

end BlockConsole
