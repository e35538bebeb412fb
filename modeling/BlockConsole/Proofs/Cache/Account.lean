import BlockConsole.Proofs.Bench.Turn
import BlockConsole.Proofs.Cache.Emptying
import Mathlib.Data.Bool.Count
import Mathlib.Data.List.Nodup

/-!
# The account of the cache

As long as nobody else captures or deletes, each snapshot in the world is one that an entry of the
cache stands for, or one that could not be deleted when the cache was emptied. `Bench.Accounted`
says so with the number of the latter. A request that captures enters what it captured, one that
empties the cache drops the entries and counts what was left behind, and no other turn touches
either (`Bench.Accounted.after`). So the account is right in every state of a run
(`Bench.Accounted.play`).

The numbers that the cache keeps are right, too (`Bench.tallied_play`), and in which order the cache
is emptied makes no difference (`Bench.cacheClear_reordered`).
-/

namespace BlockConsole

open Work Console

namespace Bench

/-! ### What happens in a run -/

/-- What happens in a turn. -/
def happens (b : Bench World) : Turn → List Event
  | .request r => (r.perform b).events
  | .outside requester i f name states =>
    let put := b.onWorld fun w => w.put (b.site.console.slotPosition i + f.offset) name states
    ((Request.recordNeighbor requester i f (.markerOf name)).perform put).events
  | _ => []

/-- All that happens in some turns. -/
def chronicle (b : Bench World) : List Turn → List Event
  | [] => []
  | t :: rest => b.happens t ++ (b.after t).chronicle rest

/-- The answer of a turn, if it loads and does not fail. -/
def loaded? (b : Bench World) : Turn → Option Bool
  | .request (.cacheLoad i) => ((Request.cacheLoad i).perform b).result.toOption
  | _ => none

/-- The answers of all loads that do not fail. -/
def loads (b : Bench World) : List Turn → List Bool
  | [] => []
  | t :: rest => (b.loaded? t).toList ++ (b.after t).loads rest

/-- The entries that a turn inserts into the cache. -/
def entered (b : Bench World) (t : Turn) : List (UInt64 × CacheEntry) :=
  (b.after t).cache.entries.filter fun e => !b.cache.entries.contains e

/-- The entries that are ever inserted into the cache. -/
def inserted (b : Bench World) : List Turn → List (UInt64 × CacheEntry)
  | [] => []
  | t :: rest => b.entered t ++ (b.after t).inserted rest

/-- The snapshots that the entries of the cache stand for. -/
def owned (b : Bench World) : List SnapshotId :=
  b.cache.entries.map fun e => e.2.snapshot

/-! ### The account -/

/-- The snapshots of a world are **accounted** for: each entry of the cache stands for one of its
own, and besides those there are so many that were lost. No number beyond the next one is taken, so
what is captured next is not among them. -/
structure Accounted (b : Bench World) (lost : Nat) : Prop where
  numbered : b.site.world.Numbered
  nodup : b.owned.Nodup
  kept : ∀ id ∈ b.owned, ∃ snapshot, b.site.world.snapshots[id]? = some snapshot
  size : b.site.world.snapshots.size = b.cache.entries.length + lost

namespace Accounted

variable {b b' : Bench World} {lost : Nat}

/-- The account stays right if neither the snapshots nor the entries change. -/
theorem congr (h : b.Accounted lost) (hs : SameSnapshots b.site.world b'.site.world)
    (hentries : b'.cache.entries = b.cache.entries) : b'.Accounted lost where
  numbered id hid := by
    rw [hs.snapshots]
    exact h.numbered id (hs.next ▸ hid)
  nodup := by
    rw [owned, hentries]
    exact h.nodup
  kept id hid := by
    rw [owned, hentries] at hid
    rw [hs.snapshots]
    exact h.kept id hid
  size := by rw [hs.snapshots, hentries, h.size]

/-- The account stays right if a captured snapshot is entered. -/
theorem capture (h : b.Accounted lost) {start stop : Position} {id : SnapshotId}
    (hr : (World.respond (.backup start stop) b.site.world).reply = .ok id)
    (hworld : b'.site.world = (World.respond (.backup start stop) b.site.world).world)
    {key : UInt64} {c : Container}
    (hentries : b'.cache.entries = b.cache.entries ++ [(key, ⟨id, c⟩)]) : b'.Accounted lost := by
  have hcaptured := World.captured_of_backup hr
  rw [← hworld] at hcaptured
  have hfresh : b.site.world.snapshots[id]? = none :=
    h.numbered id (Nat.le_of_eq hcaptured.number.symm)
  have howned : b'.owned = b.owned ++ [id] := by
    rw [owned, hentries, List.map_append]
    rfl
  refine ⟨?_, ?_, ?_, ?_⟩
  · rw [hworld]
    exact h.numbered.step (.act (.backup start stop))
  · have hnot : id ∉ b.owned := by
      intro hmem
      obtain ⟨_, hget⟩ := h.kept id hmem
      exact absurd (hget.symm.trans hfresh) (by simp)
    rw [howned, List.nodup_append']
    exact ⟨h.nodup, List.nodup_singleton id, List.disjoint_singleton.mpr hnot⟩
  · intro id' hid'
    rw [hcaptured.snapshots, Std.HashMap.getElem?_insert]
    by_cases heq : id = id'
    · exact ⟨_, if_pos (beq_iff_eq.mpr heq)⟩
    · rw [if_neg (by rwa [beq_iff_eq])]
      rw [howned, List.mem_append, List.mem_singleton] at hid'
      exact h.kept id' (hid'.resolve_right (Ne.symm heq))
  · have hnot : id ∉ b.site.world.snapshots := by
      rw [Std.HashMap.mem_iff_isSome_getElem?, hfresh]
      exact Bool.false_ne_true
    rw [hcaptured.snapshots, Std.HashMap.size_insert, if_neg hnot, h.size, hentries,
      List.length_append, List.length_singleton]
    omega

/-- What is left of the account when the cache is emptied is what was lost. -/
theorem empty (h : b.Accounted lost) {failures : Nat}
    (hworld : World.Emptied b.site.world b.owned failures b'.site.world)
    (hentries : b'.cache.entries = []) : b'.Accounted (lost + failures) where
  numbered id hid := by
    rw [hworld.lookup, h.numbered id (hworld.next ▸ hid), ite_self]
  nodup := by
    rw [owned, hentries]
    exact List.nodup_nil
  kept id hid := by
    rw [owned, hentries] at hid
    exact absurd hid List.not_mem_nil
  size := by
    have hleft := hworld.size
    have hlength : b.owned.length = b.cache.entries.length := List.length_map _
    rw [h.size, hlength] at hleft
    rw [hentries, List.length_nil]
    omega

end Accounted

/-- Emptying the cache empties the world of what the cache owns. -/
theorem emptied_cacheClear (b : Bench World) :
    World.Emptied b.site.world b.owned (failedDiscards (Request.cacheClear.perform b).events)
      (Request.cacheClear.perform b).bench.site.world := by
  have hemptied := Cache.emptied_discardAll (ε := Failure) (b.cache.entries.map Prod.snd) b.site
  rw [List.map_map] at hemptied
  rw [b.perform_cacheClear]
  exact hemptied

namespace Accounted

variable {b : Bench World} {lost : Nat}

theorem cacheStore (h : b.Accounted lost) (customName : String) (facing : Option Facing) :
    ((Request.cacheStore customName facing).perform b).bench.Accounted lost := by
  have hc := b.store_cases customName facing
  generalize (Request.cacheStore customName facing).perform b = t at hc ⊢
  cases hc with
  | idle | absent | present => exact h
  | refused _ _ _ hr => exact h.congr (World.alike_of_error hr).sameSnapshots rfl
  | captured _ _ _ hr => exact h.capture hr rfl rfl

/-- Every request keeps the account, if the deletions that fail are counted. -/
theorem request (h : b.Accounted lost) (r : Request) :
    (r.perform b).bench.Accounted (lost + failedDiscards (r.perform b).events) := by
  by_cases hclear : r = .cacheClear
  · subst hclear
    exact h.empty b.emptied_cacheClear (by rw [b.perform_cacheClear])
  · rw [Request.failedDiscards_perform hclear, Nat.add_zero]
    cases hbook : r.changesBook with
    | false =>
      exact h.congr (Request.spares hbook b) (Request.entries_of_not_changesBook hbook b)
    | true =>
      cases r with
      | cacheStore customName facing => exact h.cacheStore customName facing
      | cacheClear => exact absurd rfl hclear
      | _ => exact absurd hbook Bool.false_ne_true

/-- So does every turn. -/
theorem after (h : b.Accounted lost) (t : Turn) :
    (b.after t).Accounted (lost + failedDiscards (b.happens t)) := by
  cases t with
  | request r => exact h.request r
  | fail | recover | loseTeleports => exact h.congr ⟨rfl, rfl⟩ rfl
  | outside requester i f name states =>
    rw [happens, Request.failedDiscards_perform (by simp), after_outside]
    exact h.congr (World.rebuilt_put _ _ name states).sameSnapshots rfl

theorem play (h : b.Accounted lost) (turns : List Turn) :
    (b.play turns).Accounted (lost + failedDiscards (b.chronicle turns)) := by
  induction turns generalizing b lost with
  | nil => exact h
  | cons t rest ih =>
    rw [chronicle, failedDiscards_append, ← Nat.add_assoc]
    exact ih (h.after t)

/-- A new bench over a world without snapshots has nothing to account for. -/
theorem new (settings : Settings) {world : World} (hnone : world.snapshots.isEmpty = true) :
    (Bench.new settings world).Accounted 0 where
  numbered id _ :=
    Std.HashMap.getElem?_eq_none (Std.HashMap.isEmpty_iff_forall_not_mem.mp hnone id)
  nodup := List.nodup_nil
  kept id hid := absurd hid List.not_mem_nil
  size := by
    rw [Std.HashMap.isEmpty_eq_size_eq_zero, beq_iff_eq] at hnone
    exact hnone

end Accounted

/-! ### The numbers that the cache keeps -/

/-- The numbers that the cache keeps after a turn **tally** with what the turn did: a load that did
not fail was a hit or a miss, and every entry that was inserted was a store. -/
structure Tallied (b : Bench World) (t : Turn) : Prop where
  hits : (b.after t).cache.hits = b.cache.hits + (b.loaded? t).toList.count true
  misses : (b.after t).cache.misses = b.cache.misses + (b.loaded? t).toList.count false
  stores : (b.after t).cache.stores = b.cache.stores + (b.entered t).length

variable {b : Bench World}

/-- Entries that were there before were not inserted. -/
theorem entered_eq_nil {t : Turn} (h : (b.after t).cache.entries ⊆ b.cache.entries) :
    b.entered t = [] := by
  refine List.filter_eq_nil_iff.mpr fun e he => ?_
  rw [Bool.not_eq_true', Bool.not_eq_false, List.contains_iff_mem]
  exact h he

/-- An entry under a new key was inserted. -/
theorem entered_eq_singleton {t : Turn} {key : UInt64} {entry : CacheEntry}
    (hentries : (b.after t).cache.entries = b.cache.entries ++ [(key, entry)])
    (hnew : b.cache.get? key = none) : b.entered t = [(key, entry)] := by
  have hnot : (key, entry) ∉ b.cache.entries := fun hmem => by
    have hne := List.lookup_eq_none_iff.mp hnew (key, entry) hmem
    exact absurd hne (by simp)
  have hold : b.cache.entries.filter (fun e => !b.cache.entries.contains e) = [] := by
    simp
  rw [entered, hentries, List.filter_append, hold, List.nil_append]
  simp [hnot]

/-- A turn that does not load and leaves the cache alone. -/
theorem tallied_of_same {t : Turn} (hcache : (b.after t).cache = b.cache)
    (hload : b.loaded? t = none) : b.Tallied t := by
  have hentered : b.entered t = [] := entered_eq_nil (by rw [hcache]; exact List.Subset.refl _)
  constructor
  · rw [hcache, hload]
    rfl
  · rw [hcache, hload]
    rfl
  · rw [hcache, hentered]
    rfl

theorem tallied_cacheLoad (b : Bench World) (i : Identity) :
    b.Tallied (.request (.cacheLoad i)) := by
  have hentered : b.entered (.request (.cacheLoad i)) = [] := by
    refine entered_eq_nil ?_
    rw [after, Request.entries_of_not_changesBook rfl b]
    exact List.Subset.refl _
  have hc := b.load_cases i
  have hnumbers : ((Request.cacheLoad i).perform b).bench.cache.hits =
        b.cache.hits + ((Request.cacheLoad i).perform b).result.toOption.toList.count true ∧
      ((Request.cacheLoad i).perform b).bench.cache.misses =
        b.cache.misses + ((Request.cacheLoad i).perform b).result.toOption.toList.count false ∧
      ((Request.cacheLoad i).perform b).bench.cache.stores = b.cache.stores := by
    generalize (Request.cacheLoad i).perform b = t at hc ⊢
    cases hc <;> exact ⟨rfl, rfl, rfl⟩
  refine ⟨hnumbers.1, hnumbers.2.1, ?_⟩
  rw [hentered]
  exact hnumbers.2.2

theorem tallied_cacheStore (b : Bench World) (customName : String) (facing : Option Facing) :
    b.Tallied (.request (.cacheStore customName facing)) := by
  have hc := b.store_cases customName facing
  generalize ht : (Request.cacheStore customName facing).perform b = t at hc
  have hafter : b.after (.request (.cacheStore customName facing)) = t.bench :=
    congrArg Transition.bench ht
  cases hc with
  | idle | absent | present | refused => exact tallied_of_same (by rw [hafter]) rfl
  | captured _ _ hget =>
    have hentered := entered_eq_singleton (by rw [hafter]) hget
    refine ⟨?_, ?_, ?_⟩
    · rw [hafter]
      rfl
    · rw [hafter]
      rfl
    · rw [hafter, hentered, List.length_singleton]

theorem tallied (b : Bench World) (t : Turn) : b.Tallied t := by
  cases t with
  | request r =>
    cases r with
    | cacheLoad i => exact b.tallied_cacheLoad i
    | cacheStore customName facing => exact b.tallied_cacheStore customName facing
    | cacheClear =>
      have hafter : (b.after (.request .cacheClear)).cache = { b.cache with entries := [] } :=
        congrArg (fun t => t.bench.cache) b.perform_cacheClear
      have hentered : b.entered (.request .cacheClear) = [] :=
        entered_eq_nil (by rw [hafter]; exact List.nil_subset _)
      constructor
      · rw [hafter]
        rfl
      · rw [hafter]
        rfl
      · rw [hafter, hentered]
        rfl
    | _ => exact tallied_of_same rfl rfl
  | fail | recover | loseTeleports => exact tallied_of_same rfl rfl
  | outside requester i f name states =>
    exact tallied_of_same (by rw [after_outside]) rfl

/-- The numbers that the cache keeps count the loads that did not fail and the entries that were
inserted. -/
theorem tallied_play (b : Bench World) (turns : List Turn) :
    (b.play turns).cache.hits = b.cache.hits + (b.loads turns).count true ∧
      (b.play turns).cache.misses = b.cache.misses + (b.loads turns).count false ∧
      (b.play turns).cache.stores = b.cache.stores + (b.inserted turns).length := by
  induction turns generalizing b with
  | nil => exact ⟨rfl, rfl, rfl⟩
  | cons t rest ih =>
    obtain ⟨hits, misses, stores⟩ := ih (b.after t)
    have hfirst := b.tallied t
    rw [loads, inserted, List.count_append, List.count_append, List.length_append]
    refine ⟨hits.trans ?_, misses.trans ?_, stores.trans ?_⟩
    · rw [hfirst.hits, Nat.add_assoc]
    · rw [hfirst.misses, Nat.add_assoc]
    · rw [hfirst.stores, Nat.add_assoc]

/-! ### The order of emptying -/

/-- The bench with the entries of its cache in another order. -/
def reordered (b : Bench World) (order : List (UInt64 × CacheEntry)) : Bench World :=
  { b with cache.entries := order }

/-- In which order the snapshots are asked for does not matter to which of them are left. -/
theorem cacheClear_reordered (b : Bench World) {order : List (UInt64 × CacheEntry)}
    (horder : order.Perm b.cache.entries) :
    (Request.cacheClear.perform (b.reordered order)).bench.cache =
        (Request.cacheClear.perform b).bench.cache ∧
      (∀ id : SnapshotId,
        (Request.cacheClear.perform (b.reordered order)).bench.site.world.snapshots[id]? =
          (Request.cacheClear.perform b).bench.site.world.snapshots[id]?) ∧
      (Request.cacheClear.perform (b.reordered order)).bench.site.world.calls =
        (Request.cacheClear.perform b).bench.site.world.calls := by
  have howned : (b.reordered order).owned.Perm b.owned := horder.map _
  have hplain := b.emptied_cacheClear
  have hother := (b.reordered order).emptied_cacheClear
  refine ⟨?_, fun id => ?_, ?_⟩
  · rw [perform_cacheClear, perform_cacheClear]
    rfl
  · have hsame : id ∈ b.site.world.obeyed (b.reordered order).owned ↔
        id ∈ b.site.world.obeyed b.owned := by
      unfold World.obeyed
      split
      · exact Iff.rfl
      · exact howned.mem_iff
    rw [hplain.lookup, hother.lookup]
    exact if_congr hsame rfl rfl
  · rw [hplain.calls, hother.calls, howned.length_eq]
    rfl

namespace Accounted

variable {lost : Nat}

/-- The account does not depend on the order of the entries. -/
theorem reordered (h : b.Accounted lost) {order : List (UInt64 × CacheEntry)}
    (horder : order.Perm b.cache.entries) : (b.reordered order).Accounted lost := by
  have howned : (b.reordered order).owned.Perm b.owned := horder.map _
  refine ⟨h.numbered, howned.nodup_iff.mpr h.nodup,
    fun id hid => h.kept id (howned.mem_iff.mp hid), ?_⟩
  show b.site.world.snapshots.size = order.length + lost
  rw [h.size, horder.length_eq]

/-- Unless the world refuses to delete, it deletes all that the cache owns. -/
theorem failedDiscards_cacheClear (h : b.Accounted lost)
    (hfail : b.site.world.failing.contains Action.Kind.discard = false) :
    failedDiscards (Request.cacheClear.perform b).events = 0 := by
  rw [b.perform_cacheClear]
  refine Cache.failedDiscards_discardAll hfail ?_ fun entry hentry => ?_
  · rw [List.map_map]
    exact h.nodup
  · obtain ⟨e, he, rfl⟩ := List.mem_map.mp hentry
    exact h.kept _ (List.mem_map_of_mem he)

end Accounted

end Bench

/-- **The cache accounts for every snapshot.** Consider any run of turns of a new bench over a world
without snapshots. The entries of the cache stand for different snapshots, each of which is in the
world, and besides these there are just as many as deletions have failed. The cache counts the loads
that did not fail as hits and misses, and the entries that were ever inserted as stores.

In whatever order the cache is then emptied, this succeeds and ends with the same cache, which is
empty, with the same snapshots and with the same account of the actions. What is left is what was
lost before or cannot be deleted now, and the latter is nothing unless the world refuses. -/
theorem snapshots_accounted (settings : Settings) {world : World}
    (hnone : world.snapshots.isEmpty = true) (turns : List Turn) :
    let first := Bench.new settings world
    let b := first.play turns
    let lost := failedDiscards (first.chronicle turns)
    (b.owned.Nodup ∧ (∀ id ∈ b.owned, ∃ snapshot, b.site.world.snapshots[id]? = some snapshot) ∧
      b.site.world.snapshots.size = b.cache.entries.length + lost) ∧
    (b.cache.hits = (first.loads turns).count true ∧
      b.cache.hits + b.cache.misses = (first.loads turns).length ∧
      b.cache.stores = (first.inserted turns).length) ∧
    ∀ order : List (UInt64 × CacheEntry), order.Perm b.cache.entries →
      let plain := Request.cacheClear.perform b
      let other := Request.cacheClear.perform (b.reordered order)
      other.result = .ok () ∧ other.bench.cache = plain.bench.cache ∧
      other.bench.cache.entries = [] ∧
      (∀ id : SnapshotId,
        other.bench.site.world.snapshots[id]? = plain.bench.site.world.snapshots[id]?) ∧
      other.bench.site.world.calls = plain.bench.site.world.calls ∧
      other.bench.site.world.snapshots.size = lost + failedDiscards other.events ∧
      (b.site.world.failing.contains Action.Kind.discard = false →
        failedDiscards other.events = 0) ∧
      (lost + failedDiscards other.events = 0 →
        other.bench.site.world.snapshots.isEmpty = true) := by
  intro first b lost
  have haccount : b.Accounted lost := by
    have hplayed := (Bench.Accounted.new settings hnone).play turns
    rwa [Nat.zero_add] at hplayed
  obtain ⟨hhits, hmisses, hstores⟩ := first.tallied_play turns
  refine ⟨⟨haccount.nodup, haccount.kept, haccount.size⟩, ⟨?_, ?_, ?_⟩, fun order horder => ?_⟩
  · exact hhits.trans (Nat.zero_add _)
  · rw [hhits.trans (Nat.zero_add _), hmisses.trans (Nat.zero_add _)]
    exact List.count_true_add_count_false _
  · exact hstores.trans (Nat.zero_add _)
  · intro plain other
    obtain ⟨hcache, hsnapshots, hcalls⟩ := b.cacheClear_reordered horder
    have hempty : other.bench.cache.entries = [] :=
      congrArg (fun t => t.bench.cache.entries) (b.reordered order).perform_cacheClear
    have hleft : other.bench.site.world.snapshots.size = lost + failedDiscards other.events := by
      have hsize := ((haccount.reordered horder).request .cacheClear).size
      rwa [hempty, List.length_nil, Nat.zero_add] at hsize
    refine ⟨congrArg Transition.result (b.reordered order).perform_cacheClear, hcache, hempty,
      hsnapshots, hcalls, hleft,
      fun hfail => (haccount.reordered horder).failedDiscards_cacheClear hfail, fun hnothing => ?_⟩
    rw [Std.HashMap.isEmpty_eq_size_eq_zero, hleft, hnothing]
    rfl

/-- A run in which a snapshot is lost, two more are captured, and two loads are missed. -/
def lostSnapshot : List Turn :=
  [.request (.layOut 0 ⟨1000, 64, 1000⟩),
    .request (.putInSlot "user" 0 (.containerOf "chest" .empty)), .request (.cacheStore "" none),
    .fail .discard, .request .cacheClear, .recover .discard, .request (.cacheStore "" none),
    .request (.cacheStore "spare" none), .fail .restore,
    .request (.cacheLoad ⟨"chest", .empty, "", none⟩),
    .request (.cacheLoad ⟨"barrel", .empty, "", none⟩)]

theorem snapshots_accounted_lostSnapshot :
    ∃ b : Bench World, b = (Bench.new {} {}).play lostSnapshot ∧ b.cache.entries.length = 2 ∧
      b.site.world.snapshots.size = 3 ∧ b.cache.hits + b.cache.misses = 2 ∧ b.cache.stores = 3 ∧
      (Request.cacheClear.perform
        (b.reordered b.cache.entries.reverse)).bench.site.world.snapshots.size = 1 := by
  have hnone : ({} : World).snapshots.isEmpty = true := by decide +kernel
  obtain ⟨hlost, hentries, hloads, hinserted, hobeys⟩ :
      failedDiscards ((Bench.new {} {}).chronicle lostSnapshot) = 1 ∧
        ((Bench.new {} {}).play lostSnapshot).cache.entries.length = 2 ∧
        ((Bench.new {} {}).loads lostSnapshot).length = 2 ∧
        ((Bench.new {} {}).inserted lostSnapshot).length = 3 ∧
        ((Bench.new {} {}).play lostSnapshot).site.world.failing.contains
          Action.Kind.discard = false := by
    decide +kernel
  obtain ⟨⟨-, -, hsize⟩, ⟨-, htried, hstores⟩, hclear⟩ :=
    snapshots_accounted {} hnone lostSnapshot
  obtain ⟨-, -, -, -, -, hleft, hfailures, -⟩ := hclear _ (List.reverse_perm _)
  rw [hentries, hlost] at hsize
  rw [hlost, hfailures hobeys] at hleft
  rw [hloads] at htried
  rw [hinserted] at hstores
  exact ⟨_, rfl, hentries, hsize, htried, hstores, hleft⟩

end BlockConsole
