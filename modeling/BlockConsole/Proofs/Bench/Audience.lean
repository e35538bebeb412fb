import BlockConsole.Proofs.Console.Atomicity
import BlockConsole.Proofs.Console.Notices
import Mathlib.Data.List.Nodup

/-!
# Who is told what along a run

Observers come and go. Each gets the next number when it comes, so no number is given twice
(`Bench.pairwise_registered`), and it listens as long as it has not been removed
(`Bench.mem_listening_iff`). All who listen are told of every notice, in the order in which they
came. So the calls that an observer receives in the course of a run are the notices between its
coming and its removal, each one once (`Bench.callsTo_course`).
-/

namespace BlockConsole

open Work Console

/-! ### Calls -/

/-- A notice as an observer **hears** it. -/
def Notice.call (n : Notice) : Change × String := (n.change, n.requester)

/-- The calls that an observer receives by some notices: one for each time that it is among the
listeners. -/
def callsTo (id : ObserverId) (notices : List Notice) : List (Change × String) :=
  notices.flatMap fun n => List.replicate (n.listeners.count id) n.call

theorem callsTo_append (id : ObserverId) (ns ms : List Notice) :
    callsTo id (ns ++ ms) = callsTo id ns ++ callsTo id ms :=
  List.flatMap_append

variable {id : ObserverId} {notices : List Notice} {listeners : List ObserverId}

theorem callsTo_of_not_mem (hid : id ∉ listeners) (h : ∀ n ∈ notices, n.listeners = listeners) :
    callsTo id notices = [] := by
  refine List.flatMap_eq_nil_iff.mpr fun n hn => ?_
  rw [h n hn, List.count_eq_zero_of_not_mem hid, List.replicate_zero]

/-- Who listens once hears every notice once. -/
theorem callsTo_of_mem (hid : id ∈ listeners) (hnodup : listeners.Nodup)
    (h : ∀ n ∈ notices, n.listeners = listeners) :
    callsTo id notices = notices.map Notice.call := by
  rw [callsTo, List.map_eq_flatMap]
  refine List.flatMap_congr fun n hn => ?_
  rw [h n hn, List.count_eq_one_of_mem hnodup hid, List.replicate_one]

/-! ### The observers themselves -/

/-- The observers are **orderly** if each of them listens once, under a number already given. -/
structure Observers.Orderly (o : Observers) : Prop where
  below : ∀ id ∈ o.listening, id.number < o.next
  nodup : o.listening.Nodup

namespace Request

variable {o : Observers}

theorem next_le_observersAfter (r : Request) (o : Observers) :
    o.next ≤ (r.observersAfter o).next := by
  cases r with
  | addObserver => exact Nat.le_succ _
  | _ => exact Nat.le_refl _

theorem orderly_observersAfter (r : Request) (h : o.Orderly) : (r.observersAfter o).Orderly := by
  cases r with
  | addObserver =>
    have hfresh : ⟨o.next⟩ ∉ o.listening := fun hmem => Nat.lt_irrefl _ (h.below _ hmem)
    refine ⟨fun id hid => ?_, ?_⟩
    · rcases List.mem_append.mp hid with hid | hid
      · exact Nat.lt_succ_of_lt (h.below id hid)
      · rw [List.mem_singleton.mp hid]
        exact Nat.lt_succ_self _
    · exact List.nodup_append'.mpr
        ⟨h.nodup, List.nodup_singleton _, List.disjoint_singleton.mpr hfresh⟩
  | removeObserver id =>
    exact ⟨fun j hj => h.below j (List.mem_filter.mp hj).1, h.nodup.filter _⟩
  | _ => exact h

/-- Whether a request removes an observer. -/
def removes (id : ObserverId) : Request → Bool
  | removeObserver id' => id' == id
  | _ => false

theorem removes_iff {r : Request} : r.removes id = true ↔ r = .removeObserver id := by
  cases r <;> simp [removes]

end Request

variable {W : Type} [Environment W]

namespace Bench

/-! ### Coming and going -/

/-- The number that a request **registers** an observer under. -/
def registers? (b : Bench W) : Request → Option ObserverId
  | .addObserver => (Request.addObserver.perform b).result.toOption
  | _ => none

/-- The numbers that some requests register observers under, one after the other. -/
def registered (b : Bench W) : List Request → List ObserverId
  | [] => []
  | r :: rest => (b.registers? r).toList ++ (r.perform b).bench.registered rest

/-- An observer **listens** after some requests: they registered it and did not remove it since. -/
def Listens (b : Bench W) (requests : List Request) (id : ObserverId) : Prop :=
  Since (fun earlier r => (b.serve earlier).registers? r = some id)
    (fun r => r ≠ .removeObserver id) requests

/-- The next number is given. -/
theorem registers?_eq_some_iff {b : Bench W} {r : Request} :
    b.registers? r = some id ↔ r = .addObserver ∧ id.number = b.site.console.observers.next := by
  cases r with
  | addObserver =>
    have hgiven : b.registers? .addObserver = some ⟨b.site.console.observers.next⟩ := rfl
    rw [hgiven, Option.some.injEq]
    exact ⟨fun h => ⟨rfl, by rw [← h]⟩, fun ⟨_, h⟩ => by rw [← h]⟩
  | _ => simp [registers?]

theorem mem_observersAfter_iff {b : Bench W} {r : Request} :
    id ∈ (r.perform b).bench.site.console.observers.listening ↔
      (id ∈ b.site.console.observers.listening ∧ r ≠ .removeObserver id) ∨
        b.registers? r = some id := by
  rw [(r.attends b).1, registers?_eq_some_iff]
  cases r with
  | addObserver =>
    have hnumber : id = ⟨b.site.console.observers.next⟩ ↔
        id.number = b.site.console.observers.next :=
      ⟨fun h => by rw [h], fun h => by rw [← h]⟩
    simp [Request.observersAfter, Observers.add, hnumber]
  | removeObserver id' =>
    have hother : Request.removeObserver id' ≠ .removeObserver id ↔ id ≠ id' :=
      not_congr (by rw [Request.removeObserver.injEq, eq_comm])
    simp [Request.observersAfter, Observers.remove, hother]
  | _ => simp [Request.observersAfter]

theorem registered_concat (b : Bench W) (requests : List Request) (r : Request) :
    b.registered (requests ++ [r]) =
      b.registered requests ++ ((b.serve requests).registers? r).toList := by
  induction requests generalizing b with
  | nil => exact List.append_nil _
  | cons u rest ih =>
    rw [List.cons_append, registered, registered, ih, List.append_assoc]
    rfl

theorem orderly_serve {b : Bench W} (h : b.site.console.observers.Orderly)
    (requests : List Request) : (b.serve requests).site.console.observers.Orderly := by
  induction requests generalizing b with
  | nil => exact h
  | cons r rest ih =>
    refine ih ?_
    rw [(r.attends b).1]
    exact r.orderly_observersAfter h

theorem next_le_of_mem_registered {b : Bench W} {requests : List Request}
    (h : id ∈ b.registered requests) : b.site.console.observers.next ≤ id.number := by
  induction requests generalizing b with
  | nil => exact absurd h List.not_mem_nil
  | cons r rest ih =>
    rcases List.mem_append.mp h with hfirst | hlater
    · exact (registers?_eq_some_iff.mp (Option.mem_toList.mp hfirst)).2.ge
    · refine Nat.le_trans ?_ (ih hlater)
      rw [(r.attends b).1]
      exact r.next_le_observersAfter _

/-- No number is given twice: each one is greater than all before. -/
theorem pairwise_registered (b : Bench W) (requests : List Request) :
    (b.registered requests).Pairwise fun i j => i.number < j.number := by
  induction requests generalizing b with
  | nil => exact .nil
  | cons r rest ih =>
    refine List.pairwise_append.mpr ⟨?_, ih _, fun i hi j hj => ?_⟩
    · cases b.registers? r with
      | none => exact .nil
      | some i => exact List.pairwise_singleton _ _
    · obtain ⟨rfl, hnumber⟩ := registers?_eq_some_iff.mp (Option.mem_toList.mp hi)
      rw [hnumber]
      exact next_le_of_mem_registered hj

/-- Those who listen do so in the order in which they came. -/
theorem listening_sublist (b : Bench W) (requests : List Request) :
    (b.serve requests).site.console.observers.listening.Sublist
      (b.site.console.observers.listening ++ b.registered requests) := by
  induction requests generalizing b with
  | nil => exact List.sublist_append_left _ _
  | cons r rest ih =>
    have hstep : (r.perform b).bench.site.console.observers.listening.Sublist
        (b.site.console.observers.listening ++ (b.registers? r).toList) := by
      rw [(r.attends b).1]
      cases r with
      | addObserver => exact List.Sublist.refl _
      | removeObserver id => exact List.filter_sublist.trans (List.sublist_append_left _ _)
      | _ => exact List.sublist_append_left _ _
    rw [registered, ← List.append_assoc]
    exact (ih _).trans (hstep.append_right _)

theorem mem_listening_iff {b : Bench W} (hnew : b.site.console.observers.listening = [])
    (requests : List Request) :
    id ∈ (b.serve requests).site.console.observers.listening ↔ b.Listens requests id := by
  induction requests using List.reverseRecOn with
  | nil =>
    refine iff_of_false ?_ not_since_nil
    rw [serve, List.foldl_nil, hnew]
    exact List.not_mem_nil
  | append_singleton requests r ih =>
    rw [serve_concat, mem_observersAfter_iff, ih, Listens, Listens, since_concat]

/-! ### What an observer hears -/

theorem listeners_of_mem_notices {b : Bench W} {r : Request} :
    ∀ n ∈ noticesIn (r.perform b).events,
      n.listeners = b.site.console.observers.listening :=
  fun n hn => ((r.attends b).2 n hn).2

/-- An observer that does not listen, and is not registered meanwhile, hears nothing. -/
theorem callsTo_course_of_absent {b : Bench W} {requests : List Request}
    (hid : id ∉ b.site.console.observers.listening) (hnever : id ∉ b.registered requests) :
    callsTo id (noticesIn (b.course requests)) = [] := by
  induction requests generalizing b with
  | nil => rfl
  | cons r rest ih =>
    rw [registered, List.mem_append, not_or, Option.mem_toList] at hnever
    have hstill : id ∉ (r.perform b).bench.site.console.observers.listening := by
      rw [mem_observersAfter_iff, not_or]
      exact ⟨fun h => hid h.1, hnever.1⟩
    rw [course, noticesIn_append, callsTo_append, callsTo_of_not_mem hid listeners_of_mem_notices,
      ih hstill hnever.2, List.append_nil]

/-- An observer that listens hears every notice until it is removed, and nothing after that. -/
theorem callsTo_course_of_listening {b : Bench W} (ho : b.site.console.observers.Orderly)
    (hid : id ∈ b.site.console.observers.listening) (requests : List Request) :
    callsTo id (noticesIn (b.course requests)) =
      (noticesIn (b.course (requests.takeWhile fun r => !r.removes id))).map Notice.call := by
  induction requests generalizing b with
  | nil => rfl
  | cons r rest ih =>
    cases hr : r.removes id with
    | true =>
      obtain rfl := Request.removes_iff.mp hr
      have hgone :
          id ∉ (Request.perform b (.removeObserver id)).bench.site.console.observers.listening := by
        rw [mem_observersAfter_iff, not_or]
        exact ⟨fun h => h.2 rfl, by simp [registers?]⟩
      have hnever : id ∉ (Request.perform b (.removeObserver id)).bench.registered rest := by
        -- Its number was given before.
        intro hmem
        have hlater : id ∈ b.registered (.removeObserver id :: rest) :=
          List.mem_append_right _ hmem
        exact Nat.not_le.mpr (ho.below id hid) (next_le_of_mem_registered hlater)
      have hrest := callsTo_course_of_absent hgone hnever
      rw [List.takeWhile_cons_of_neg (by simp [hr])]
      exact hrest
    | false =>
      have hstays : id ∈ (r.perform b).bench.site.console.observers.listening := by
        refine mem_observersAfter_iff.mpr (.inl ⟨hid, fun heq => ?_⟩)
        exact absurd (hr.symm.trans (Request.removes_iff.mpr heq)) Bool.false_ne_true
      have hnext : (r.perform b).bench.site.console.observers.Orderly := by
        rw [(r.attends b).1]
        exact r.orderly_observersAfter ho
      rw [List.takeWhile_cons_of_pos (by simp [hr]), course, course, noticesIn_append,
        noticesIn_append, callsTo_append, List.map_append, ih hnext hstays,
        callsTo_of_mem hid ho.nodup listeners_of_mem_notices]

/-- The calls that an observer receives in the course of a run are the notices from its coming up to
its removal. -/
theorem callsTo_course {b : Bench W} (hnew : b.site.console.observers = {})
    {earlier : List Request} (hid : (b.serve earlier).registers? .addObserver = some id)
    (later : List Request) :
    callsTo id (noticesIn (b.course (earlier ++ .addObserver :: later))) =
      (noticesIn ((b.serve (earlier ++ [.addObserver])).course
        (later.takeWhile fun r => !r.removes id))).map Notice.call := by
  have horderly : b.site.console.observers.Orderly := by
    rw [hnew]
    exact ⟨fun i hi => absurd hi List.not_mem_nil, List.nodup_nil⟩
  have hbefore : callsTo id (noticesIn (b.course earlier)) = [] := by
    refine callsTo_course_of_absent (by simp [hnew]) fun hmem => ?_
    have hpair := b.pairwise_registered (earlier ++ [.addObserver])
    rw [registered_concat, hid, List.pairwise_append] at hpair
    exact Nat.lt_irrefl _ (hpair.2.2 id hmem id (by simp))
  have hlistens : id ∈ (b.serve (earlier ++ [.addObserver])).site.console.observers.listening := by
    rw [serve_concat]
    exact mem_observersAfter_iff.mpr (.inr hid)
  have hafter := callsTo_course_of_listening (orderly_serve horderly _) hlistens later
  rw [course_append, noticesIn_append, callsTo_append, hbefore, List.nil_append, ← hafter,
    serve_concat]
  rfl

end Bench

/-- **Observers are told everything.** Over any environment, from any bench, what a request other
than laying out leaves different in memory was named by a notice, and the memory after it is the one
before with the noticed changes made in order; each notice is on behalf of the one who asked and
goes to all who listen, and laying out gives none.

After any run of requests of a new bench, those who listen are the ones that were registered and not
removed since, in the order of their registration, and no number is given twice; to remove an
observer says whether it listened. In the whole course of the run an observer receives exactly the
notices from its registration up to its removal, in order, and one that was never registered
receives none. -/
theorem observers_told_everything :
    (∀ (b : Bench W) (r : Request),
      (r.isLayOut = false →
        (∀ spot, ¬ SameAt b.site.console (r.perform b).bench.site.console spot →
          ∃ n ∈ noticesIn (r.perform b).events, n.change.spot = spot) ∧
        SameMemory (b.site.console.recount (noticesIn (r.perform b).events))
          (r.perform b).bench.site.console) ∧
      ∀ n ∈ noticesIn (r.perform b).events, r.speaker? = some n.requester ∧
        n.listeners = b.site.console.observers.listening) ∧
    ∀ (settings : Settings) (world : W) (requests : List Request),
      let first := Bench.new settings world
      let b := first.serve requests
      (first.registered requests).Pairwise (fun i j => i.number < j.number) ∧
      b.site.console.observers.listening.Sublist (first.registered requests) ∧
      (∀ id, id ∈ b.site.console.observers.listening ↔ first.Listens requests id) ∧
      (∀ id, ∃ was, ((Request.removeObserver id).perform b).result = .ok was ∧
        (was = true ↔ first.Listens requests id)) ∧
      (∀ earlier later id, requests = earlier ++ .addObserver :: later →
        (Request.addObserver.perform (first.serve earlier)).result = .ok id →
        callsTo id (noticesIn (first.course requests)) =
          (noticesIn ((first.serve (earlier ++ [.addObserver])).course
            (later.takeWhile fun r => !r.removes id))).map Notice.call) ∧
      ∀ id ∉ first.registered requests, callsTo id (noticesIn (first.course requests)) = [] := by
  refine ⟨fun b r => ⟨fun hlay => ⟨fun spot => Request.exists_notice b hlay,
    Request.recount_perform b hlay⟩, (r.attends b).2⟩, fun settings world requests => ?_⟩
  intro first b
  have hlistens (id : ObserverId) :
      id ∈ b.site.console.observers.listening ↔ first.Listens requests id :=
    Bench.mem_listening_iff rfl requests
  refine ⟨first.pairwise_registered requests, first.listening_sublist requests, hlistens,
    ?_, ?_, ?_⟩
  · intro id
    refine ⟨b.site.console.observers.listening.contains id, rfl, ?_⟩
    rw [List.contains_iff_mem, hlistens]
  · rintro earlier later id rfl hok
    refine Bench.callsTo_course rfl ?_ later
    rw [Bench.registers?, hok]
    rfl
  · exact fun id hnever => Bench.callsTo_course_of_absent List.not_mem_nil hnever

/-- A run in which a first observer comes, then a second one, and the first one is removed. -/
def changingAudience : List Request :=
  [.recordSlot "user" 2 .loom, .addObserver, .layOut 0 ⟨1000, 64, 1000⟩, .obtainHelper .loom,
    .addObserver, .recordInventory "user" 5 true, .removeObserver ⟨0⟩, .clearSlot "user" 1]

theorem observers_told_everything_changingAudience :
    ∃ b : Bench Jammed, b = .new {} .jammed ∧
      callsTo ⟨0⟩ (noticesIn (b.course changingAudience)) =
        [(.slot 1 .loom, "console"), (.inventory ⟨5, by decide⟩ true, "user")] ∧
      callsTo ⟨1⟩ (noticesIn (b.course changingAudience)) =
        [(.inventory ⟨5, by decide⟩ true, "user"), (.slot 1 .air, "user")] := by
  obtain ⟨-, -, -, -, hcalls, -⟩ :=
    observers_told_everything.2 {} Jammed.jammed changingAudience
  refine ⟨_, rfl, ?_, ?_⟩
  · rw [hcalls (changingAudience.take 1) (changingAudience.drop 2) ⟨0⟩ rfl rfl]
    decide +kernel
  · rw [hcalls (changingAudience.take 4) (changingAudience.drop 5) ⟨1⟩ rfl rfl]
    decide +kernel

end BlockConsole
