import BlockConsole.Proofs.Bench.Course
import BlockConsole.Proofs.World.Respond

/-!
# Deleting the snapshots of a cache

A cache that is emptied has the world delete its snapshots one after the other. `World.Emptied`
says what becomes of a world that was asked to delete some snapshots: each request was counted, and
unless the world refuses to delete, none of the snapshots is left. Of every snapshot that was asked
for, either there is one less, or its deletion failed; so the order does not matter for how many are
left.
-/

namespace BlockConsole

open Work Console

/-! ### Failed deletions -/

/-- The number of **failed deletions** among some events. -/
def failedDiscards (events : List Event) : Nat :=
  events.countP fun
    | .acted (.discard _) (.error _) => true
    | _ => false

@[simp] theorem failedDiscards_nil : failedDiscards [] = 0 := rfl

@[simp] theorem failedDiscards_append (es fs : List Event) :
    failedDiscards (es ++ fs) = failedDiscards es + failedDiscards fs :=
  List.countP_append

@[simp] theorem failedDiscards_logged (entries : List LogEntry) :
    failedDiscards (entries.map .logged) = 0 := by
  simp [failedDiscards, List.countP_eq_zero]

section

variable {W : Type} [Environment W]

/-- Only to delete can be a failed deletion. -/
theorem failedDiscards_actEvents {a : Action} (h : a.kind ≠ .discard) (w : W) :
    failedDiscards (actEvents a w) = 0 := by
  have hlogged := failedDiscards_logged (Environment.respond a w).log
  rw [actEvents, failedDiscards, List.countP_cons, ← failedDiscards, hlogged]
  cases a with
  | discard id => exact absurd rfl h
  | _ => rfl

theorem failedDiscards_discard (id : SnapshotId) (w : W) :
    failedDiscards (actEvents (.discard id) w) =
      match (Environment.respond (.discard id) w).reply with
      | .ok _ => 0
      | .error _ => 1 := by
  have hlogged := failedDiscards_logged (Environment.respond (.discard id) w).log
  rw [actEvents, failedDiscards, List.countP_cons, ← failedDiscards, hlogged]
  cases (Environment.respond (.discard id) w).reply <;> rfl

/-- Failing to delete nothing, as a frame. -/
def unfailing (W : Type) : Frame W where
  Allows _ _ events := failedDiscards events = 0
  quiet _ entries := failedDiscards_logged entries
  trans h₁ h₂ := by rw [failedDiscards_append, h₁, h₂]

theorem unfailing_covers : (unfailing W).Covers fun _ _ => True where
  act a s ha := by
    have hkind : a.kind ≠ .discard := by
      cases a with
      | discard id => exact absurd ha.symm Bool.false_ne_true
      | _ => exact fun h => nomatch h
    exact failedDiscards_actEvents hkind s.world
  change _ _ _ _ := rfl
  update _ _ _ := rfl

/-- No request deletes anything but to empty the cache. -/
theorem Request.failedDiscards_perform {r : Request} (h : r ≠ .cacheClear) (b : Bench W) :
    failedDiscards (r.perform b).events = 0 := by
  refine unfailing_covers.perform (fun _ _ _ => rfl) (fun _ => rfl) b fun a s ha => ?_
  have hkind : a.kind ≠ .discard := by
    unfold mayTake at ha
    split at ha
    · exact fun h => nomatch h
    · exact fun h => nomatch h
    · exact absurd rfl h
    · exact absurd ha Bool.false_ne_true
  exact failedDiscards_actEvents hkind s.world

/-- Deleting snapshots goes on after each one, with a word at most. -/
theorem Cache.run_discardAll_cons {ε : Type} (entry : CacheEntry) (rest : List CacheEntry)
    (s : Site W) :
    ∃ said : List LogEntry, (discardAll (entry :: rest) : Work W ε Unit).run s =
      ((discardAll rest).run (siteAfter (.discard entry.snapshot) s)).after
        (actEvents (.discard entry.snapshot) s.world ++ said.map .logged) := by
  rw [discardAll, run_bind_of_ok (run_attempt _ s)]
  cases (Environment.respond (.discard entry.snapshot) s.world).reply with
  | ok x =>
    refine ⟨[], ?_⟩
    rw [List.map_nil, List.append_nil]
  | error e =>
    dsimp only
    rw [run_bind_of_ok (run_log ..)]
    refine ⟨[⟨.warn, .cache, "Failed to delete " ++ entry.snapshot.text ++ ": " ++ e.message⟩], ?_⟩
    simp [Outcome.after]

end

/-! ### What is left -/

namespace World

/-- The snapshots that a world does not refuse to delete, out of some. -/
def obeyed (w : World) (ids : List SnapshotId) : List SnapshotId :=
  if w.failing.contains Action.Kind.discard then [] else ids

theorem obeyed_append (w : World) (ids ids' : List SnapshotId) :
    w.obeyed (ids ++ ids') = w.obeyed ids ++ w.obeyed ids' := by
  unfold obeyed
  split <;> rfl

/-- A world was **emptied** of some snapshots as well as it could, with so many failures. -/
structure Emptied (w : World) (ids : List SnapshotId) (failures : Nat) (w' : World) : Prop where
  failing : w'.failing = w.failing
  calls : w'.calls = List.replicate ids.length .discard ++ w.calls
  next : w'.nextSnapshot = w.nextSnapshot
  size : w'.snapshots.size + ids.length = w.snapshots.size + failures
  lookup : ∀ id : SnapshotId, w'.snapshots[id]? =
    if id ∈ w.obeyed ids then none else w.snapshots[id]?

theorem Emptied.refl (w : World) : Emptied w [] 0 w :=
  ⟨rfl, rfl, rfl, rfl, fun id => by simp [obeyed]⟩

theorem Emptied.trans {w w' w'' : World} {ids ids' : List SnapshotId} {m n : Nat}
    (h : Emptied w ids m w') (h' : Emptied w' ids' n w'') :
    Emptied w (ids ++ ids') (m + n) w'' where
  failing := h'.failing.trans h.failing
  calls := by
    rw [h'.calls, h.calls, ← List.append_assoc, List.replicate_append_replicate,
      List.length_append, Nat.add_comm]
  next := h'.next.trans h.next
  size := by
    have hfirst := h.size
    have hsecond := h'.size
    rw [List.length_append]
    omega
  lookup id := by
    have hsame : w'.obeyed ids' = w.obeyed ids' := by rw [obeyed, obeyed, h.failing]
    rw [h'.lookup, h.lookup, hsame, obeyed_append]
    by_cases hid : id ∈ w.obeyed ids <;> by_cases hid' : id ∈ w.obeyed ids' <;> simp [hid, hid']

theorem size_erase_of_mem {snapshots : Std.HashMap SnapshotId Snapshot} {id : SnapshotId}
    (h : snapshots.contains id = true) : (snapshots.erase id).size + 1 = snapshots.size := by
  have hmem : id ∈ snapshots := h
  have hpos : snapshots.size ≠ 0 := by
    intro hzero
    have hempty : snapshots.isEmpty = true := by
      rw [Std.HashMap.isEmpty_eq_size_eq_zero, hzero]
      rfl
    exact Std.HashMap.isEmpty_iff_forall_not_mem.mp hempty id hmem
  rw [Std.HashMap.size_erase, if_pos hmem]
  omega

/-- To delete a snapshot is to be emptied of it. -/
theorem emptied_discard (w : World) (id : SnapshotId) :
    Emptied w [id] (failedDiscards (actEvents (.discard id) w))
      (respond (.discard id) w).world := by
  have hfailures : failedDiscards (actEvents (.discard id) w) =
      match (respond (.discard id) w).reply with
      | .ok _ => 0
      | .error _ => 1 := failedDiscards_discard id w
  rw [hfailures]
  cases hfail : w.failing.contains Action.Kind.discard with
  | true =>
    rw [respond_of_failing (a := .discard id) hfail]
    have hnone : w.obeyed [id] = [] := if_pos hfail
    refine ⟨rfl, rfl, rfl, rfl, fun k => ?_⟩
    rw [hnone, if_neg List.not_mem_nil]
    rfl
  | false =>
    have hlookup (k : SnapshotId) : (respond (.discard id) w).world.snapshots[k]? =
        if k ∈ w.obeyed [id] then none else w.snapshots[k]? := by
      have hall : w.obeyed [id] = [id] := if_neg (by rw [hfail]; exact Bool.false_ne_true)
      rw [snapshots_discard hfail id k, hall]
      simp only [List.mem_singleton]
    have hresp : respond (.discard id) w = (w.count .discard).respondDiscard id :=
      respond_of_not_failing hfail
    cases hmem : (w.count .discard).snapshots.contains id with
    | true =>
      have hgone : (w.count .discard).respondDiscard id =
          ⟨.ok (), { w.count .discard with snapshots := w.snapshots.erase id }, []⟩ := by
        rw [respondDiscard, if_pos hmem]
        rfl
      rw [hresp, hgone] at hlookup ⊢
      exact ⟨rfl, rfl, rfl, size_erase_of_mem hmem, hlookup⟩
    | false =>
      have hstays : (w.count .discard).respondDiscard id =
          ⟨.error (.unknownSnapshot id), w.count .discard, []⟩ := by
        rw [respondDiscard, hmem]
        rfl
      rw [hresp, hstays] at hlookup ⊢
      exact ⟨rfl, rfl, rfl, rfl, hlookup⟩

end World

namespace Cache

/-- A world is emptied of the snapshots of a cache. -/
theorem emptied_discardAll {ε : Type} (entries : List CacheEntry) (s : Site World) :
    World.Emptied s.world (entries.map CacheEntry.snapshot)
      (failedDiscards ((discardAll entries : Work World ε Unit).run s).events)
      ((discardAll entries : Work World ε Unit).run s).site.world := by
  induction entries generalizing s with
  | nil => exact .refl s.world
  | cons entry rest ih =>
    obtain ⟨said, hrun⟩ := run_discardAll_cons (ε := ε) entry rest s
    have hboth := (World.emptied_discard s.world entry.snapshot).trans
      (ih (siteAfter (.discard entry.snapshot) s))
    rw [hrun, Outcome.after_site, Outcome.after_events, failedDiscards_append,
      failedDiscards_append, failedDiscards_logged, Nat.add_zero]
    exact hboth

/-- Unless the world refuses to delete, it can delete snapshots that it has, each one once. -/
theorem failedDiscards_discardAll {ε : Type} {entries : List CacheEntry} {s : Site World}
    (hfail : s.world.failing.contains Action.Kind.discard = false)
    (hnodup : (entries.map CacheEntry.snapshot).Nodup)
    (hkept : ∀ entry ∈ entries, ∃ snapshot, s.world.snapshots[entry.snapshot]? = some snapshot) :
    failedDiscards ((discardAll entries : Work World ε Unit).run s).events = 0 := by
  induction entries generalizing s with
  | nil => rfl
  | cons entry rest ih =>
    obtain ⟨said, hrun⟩ := run_discardAll_cons (ε := ε) entry rest s
    rw [List.map_cons, List.nodup_cons] at hnodup
    have hfirst : failedDiscards (actEvents (.discard entry.snapshot) s.world) = 0 := by
      obtain ⟨snapshot, hget⟩ := hkept entry List.mem_cons_self
      have hok : (Environment.respond (.discard entry.snapshot) s.world).reply = .ok () :=
        (World.respond_discard hget).mpr hfail
      rw [failedDiscards_discard, hok]
    have hrest : failedDiscards ((discardAll rest : Work World ε Unit).run
        (siteAfter (.discard entry.snapshot) s)).events = 0 := by
      refine ih ?_ hnodup.2 fun other hother => ?_
      · rw [siteAfter_world]
        exact (World.emptied_discard s.world entry.snapshot).failing ▸ hfail
      · have hne : other.snapshot ≠ entry.snapshot := fun heq =>
          hnodup.1 (heq ▸ List.mem_map_of_mem hother)
        obtain ⟨snapshot, hget⟩ := hkept other (List.mem_cons_of_mem entry hother)
        refine ⟨snapshot, ?_⟩
        rw [siteAfter_world, ← hget]
        exact (World.snapshots_discard hfail entry.snapshot other.snapshot).trans (if_neg hne)
    rw [hrun, Outcome.after_events, failedDiscards_append, failedDiscards_append,
      failedDiscards_logged, hfirst, hrest]

end Cache

end BlockConsole
