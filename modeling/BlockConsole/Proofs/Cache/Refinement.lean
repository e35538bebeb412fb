import BlockConsole.Proofs.Cache.Ledger
import Mathlib.Data.Set.Function

/-!
# The cache refines the ledger

The cache knows nothing but keys. It `Refines` the ledger of what was stored as long as no two
identities in the ledger share a key, whatever else happens between: the console may lay out
another work area, cells may be overwritten, and actions may fail (`Bench.Refines.after`,
`Bench.Refines.play`). `cache_refines_ledger` says what this comes to for those who check, store
and load.
-/

namespace BlockConsole

open Work Console

/-- An entry of the cache **shows** a capture: it has the container, and the world keeps a
snapshot of what stood there. -/
structure CacheEntry.Shows (entry : CacheEntry) (w : World) (cap : Capture) : Prop where
  container : entry.container = cap.container
  snapshot : w.snapshots[entry.snapshot]? = some (.ofBlock cap.found)

/-- A bench **refines** a ledger if its cache has an entry for what is in the ledger, and nothing
else. The world gives a new snapshot a number that no entry has. -/
structure Bench.Refines (b : Bench World) (m : Ledger) : Prop where
  entry : ∀ i cap, m i = some cap →
    ∃ entry, b.cache.get? i.key = some entry ∧ entry.Shows b.site.world cap
  known : ∀ k entry, b.cache.get? k = some entry → ∃ i, (m i).isSome ∧ i.key = k
  fresh : ∀ e ∈ b.cache.entries, e.2.snapshot.number < b.site.world.nextSnapshot

namespace Bench.Refines

variable {b b' : Bench World} {m : Ledger}

/-- What changes neither the entries nor the snapshots keeps the refinement. -/
theorem congr (h : b.Refines m) (hentries : b'.cache.entries = b.cache.entries)
    (hs : SameSnapshots b.site.world b'.site.world) : b'.Refines m := by
  have hget (k : UInt64) : b'.cache.get? k = b.cache.get? k := by
    rw [Cache.get?, Cache.get?, hentries]
  refine ⟨fun i cap hcap => ?_, fun k entry hk => h.known k entry (hget k ▸ hk), ?_⟩
  · obtain ⟨entry, hentry, hcontainer, hsnapshot⟩ := h.entry i cap hcap
    exact ⟨entry, (hget i.key).trans hentry, hcontainer, by rwa [hs.snapshots]⟩
  · rw [hentries, hs.next]
    exact h.fresh

/-- A capture under a new key goes into the ledger and into the cache. -/
theorem captured (h : b.Refines m) {i : Identity} {c : Container} {id : SnapshotId}
    {found : Option Block} {s : Site World} {cache : Cache}
    (hnew : b.cache.get? i.key = none)
    (hw : World.Captured b.site.world s.world id (.ofBlock found))
    (hentries : cache.entries = b.cache.entries ++ [(i.key, ⟨id, c⟩)]) :
    Bench.Refines ⟨s, cache⟩ (m.enter i ⟨c, found⟩) := by
  have hget (k : UInt64) : cache.get? k = (b.cache.get? k).or
      (if k = i.key then some ⟨id, c⟩ else none) := by
    rw [Cache.get?, Cache.get?, hentries, List.lookup_append]
    by_cases hk : k = i.key
    · simp [hk]
    · have hbeq : (k == i.key) = false := beq_eq_false_iff_ne.mpr hk
      simp [List.lookup_cons, hk, hbeq]
  refine ⟨fun j cap hj => ?_, fun k entry hk => ?_, fun e he => ?_⟩
  · rcases Option.or_eq_some_iff.mp hj with hold | ⟨-, hcap⟩
    · -- Its snapshot is older than the new one, so it is kept.
      obtain ⟨entry, hentry, hcontainer, hsnapshot⟩ := h.entry j cap hold
      refine ⟨entry, by simp [hget, hentry], hcontainer, ?_⟩
      exact (hw.older (h.fresh _ (Cache.mem_of_get? hentry))).trans hsnapshot
    · obtain ⟨rfl, rfl⟩ : j = i ∧ ⟨c, found⟩ = cap := by simpa using hcap
      exact ⟨⟨id, c⟩, by simp [hget, hnew], rfl, hw.kept⟩
  · rw [hget] at hk
    rcases Option.or_eq_some_iff.mp hk with hold | ⟨-, hentry⟩
    · obtain ⟨j, hj, rfl⟩ := h.known k entry hold
      exact ⟨j, by simp [Ledger.enter, hj], rfl⟩
    · have hkey : k = i.key := (by simpa using hentry : k = i.key ∧ _).1
      exact ⟨i, by simp [Ledger.enter], hkey.symm⟩
  · rw [hentries, List.mem_append, List.mem_singleton] at he
    rcases he with he | rfl
    · exact (h.fresh e he).trans_le hw.next_le
    · exact hw.number_lt

end Bench.Refines

namespace Bench

variable {b : Bench World} {m : Ledger}

/-- Storing into the cache stores into the ledger. Here it matters that keys do not collide: a key
that is taken must be taken by the identity itself. -/
theorem Refines.cacheStore (h : b.Refines m) (customName : String) (facing : Option Facing)
    (hkeys : ∀ i cap, b.stored? (.request (.cacheStore customName facing)) = some (i, cap) →
      ∀ j, (m j).isSome → j.key = i.key → j = i) :
    ((Request.cacheStore customName facing).perform b).bench.Refines
      (m.after b (.request (.cacheStore customName facing))) := by
  have herror {e : Failure} (he : ((Request.cacheStore customName facing).perform b).result =
      .error e) : m.after b (.request (.cacheStore customName facing)) = m := by
    simp only [Ledger.after, stored?_of_error he]
  have hok {x : Unit} {c : Container}
      (hx : ((Request.cacheStore customName facing).perform b).result = .ok x)
      (hslot : b.site.console.slot Layout.centerSlot = .container c) :
      m.after b (.request (.cacheStore customName facing)) =
        m.enter (Cache.identityOf c customName facing).canonical
          ⟨c, b.site.world.blockAt b.site.console.center⟩ := by
    simp only [Ledger.after, stored?_of_ok hx hslot]
  have hc := b.store_cases customName facing
  generalize ht : (Request.cacheStore customName facing).perform b = t at hc
  cases hc with
  | idle | absent =>
    rw [herror (by rw [ht])]
    exact h
  | refused _ _ _ hr =>
    rw [herror (by rw [ht])]
    exact h.congr rfl (World.alike_of_error hr).sameSnapshots
  | @present c entry _ hslot hget =>
    -- The key is taken, and by no other identity than this one.
    have hx : ((Request.cacheStore customName facing).perform b).result = .ok () := by rw [ht]
    obtain ⟨j, hj, hkey⟩ := h.known _ entry hget
    have hcanonical := hkey.trans (Identity.key_canonical _).symm
    obtain rfl := hkeys _ _ (stored?_of_ok hx hslot) j hj hcanonical
    rw [hok hx hslot, Ledger.enter_eq_self hj]
    exact h
  | @captured c id _ _ hslot hget hr =>
    have hw := World.captured_of_backup_self hr
    have hkey := Identity.key_canonical (Cache.identityOf c customName facing)
    rw [hok (by rw [ht]) hslot]
    refine h.captured ((congrArg b.cache.get? hkey).trans hget) hw ?_
    rw [Identity.key_canonical]

theorem after_of_not_changesBook {r : Request} (h : r.changesBook = false) :
    m.after b (.request r) = m := by
  cases r with
  | cacheStore => exact absurd h.symm Bool.false_ne_true
  | cacheClear => exact absurd h.symm Bool.false_ne_true
  | _ => rfl

/-- Every turn keeps the refinement, if the key of what it stores is not that of another identity in
the ledger. -/
theorem Refines.after (h : b.Refines m) {t : Turn}
    (hkeys : ∀ i cap, b.stored? t = some (i, cap) → ∀ j, (m j).isSome → j.key = i.key → j = i) :
    (b.after t).Refines (m.after b t) := by
  cases t with
  | request r =>
    cases hbook : r.changesBook with
    | false =>
      rw [after_of_not_changesBook hbook]
      exact h.congr (r.entries_of_not_changesBook hbook b) (r.spares hbook b)
    | true =>
      cases r with
      | cacheStore customName facing => exact h.cacheStore customName facing hkeys
      | cacheClear =>
        show (Request.cacheClear.perform b).bench.Refines fun _ => none
        rw [b.perform_cacheClear]
        exact ⟨by simp, by simp [Cache.get?], by simp⟩
      | _ => exact absurd hbook Bool.false_ne_true
  | fail kind => exact h.congr rfl ⟨rfl, rfl⟩
  | recover kind => exact h.congr rfl ⟨rfl, rfl⟩
  | loseTeleports lose => exact h.congr rfl ⟨rfl, rfl⟩
  | outside requester i f name states =>
    rw [after_outside]
    exact h.congr rfl (World.rebuilt_put b.site.world _ name states).sameSnapshots

/-- Every run keeps the refinement, if the identities that it stores and those in the ledger lie
in a set in which keys do not collide. -/
theorem Refines.play (h : b.Refines m) {turns : List Turn} {U : Set Identity}
    (hU : Set.InjOn Identity.key U) (hm : ∀ i, (m i).isSome → i ∈ U)
    (hturns : ∀ i ∈ b.storedIn turns, i ∈ U) :
    (b.play turns).Refines (b.ledger m turns) ∧ ∀ i, (b.ledger m turns i).isSome → i ∈ U := by
  induction turns generalizing b m with
  | nil => exact ⟨h, hm⟩
  | cons t rest ih =>
    have hstored : ∀ i cap, b.stored? t = some (i, cap) → i ∈ U := by
      intro i cap hi
      exact hturns i (by simp [storedIn, hi])
    refine ih (h.after fun i cap hi j hj hkey => hU (hm j hj) (hstored i cap hi) hkey) ?_ ?_
    · intro i hi
      obtain ⟨cap, hcap⟩ := Option.isSome_iff_exists.mp hi
      rcases (after_eq_some_iff m b t i cap).mp hcap with ⟨hold, -⟩ | ⟨hnew, -⟩
      · exact hm i (by simp [hold])
      · exact hstored i cap hnew
    · exact fun i hi => hturns i (by simp [storedIn, hi])

/-- A new bench refines the empty ledger. -/
theorem Refines.new (settings : Settings) (world : World) :
    (Bench.new settings world).Refines fun _ => none :=
  ⟨by simp, by simp [Bench.new, Cache.get?], by simp [Bench.new]⟩

end Bench

/-! ### Checking, storing and loading -/

/-- What **loading** an identity into a console that is ready comes to, by what the ledger holds. -/
structure Bench.Loads (b : Bench World) (i : Identity) (held : Option Capture) : Prop where
  answers : ∃ loaded, ((Request.cacheLoad i).perform b).result = .ok loaded
  /-- It succeeds if there is something to put back, and the world acknowledges that it has done
  so. -/
  succeeds : ((Request.cacheLoad i).perform b).result = .ok true ↔
    held.isSome ∧
      Cache.PutBack b.site.console.center ((Request.cacheLoad i).perform b).events
  /-- The world does, unless it is made to refuse. -/
  willing : held.isSome →
    (Cache.PutBack b.site.console.center ((Request.cacheLoad i).perform b).events ↔
      b.site.world.failing.contains Action.Kind.restore = false)
  /-- Then the console believes in the container of the capture, and the block of the capture is
  found in the center. -/
  restores : ∀ cap, held = some cap → ((Request.cacheLoad i).perform b).result = .ok true →
    ((Request.cacheLoad i).perform b).bench.site.console.slot Layout.centerSlot =
        .container cap.container ∧
      ((Request.cacheLoad i).perform b).bench.site.world.blockAt
        ((Request.cacheLoad i).perform b).bench.site.console.center = cap.found

/-- The cache of a bench **serves** an identity by what the ledger holds. -/
structure Bench.Serves (b : Bench World) (i : Identity) (held : Option Capture) : Prop where
  present : (b.cache.get? i.key).isSome = held.isSome
  /-- Checking says whether the ledger holds something, and does nothing. -/
  check : ∀ name states, i = ⟨name, states, "", none⟩ →
    (Request.cacheCheck name states).perform b = ⟨.ok held.isSome, b, []⟩
  /-- Storing what the ledger holds already takes no action and changes nothing. -/
  store : ∀ c customName facing, b.site.console.slot Layout.centerSlot = .container c →
    (Cache.identityOf c customName facing).canonical = i.canonical → held.isSome →
      (Request.cacheStore customName facing).perform b =
        ⟨if b.site.console.initialized then .ok () else .error (.error .uninitialized), b, []⟩
  load : b.site.console.initialized = true → b.Loads i held

namespace Bench.Refines

variable {b : Bench World} {m : Ledger} {i : Identity}

theorem get?_of_some (h : b.Refines m) {cap : Capture} (hcap : m i.canonical = some cap) :
    ∃ entry, b.cache.get? i.key = some entry ∧ entry.Shows b.site.world cap := by
  rw [← Identity.key_canonical]
  exact h.entry i.canonical cap hcap

/-- Here it matters again that keys do not collide. -/
theorem get?_of_none (h : b.Refines m)
    (hkeys : ∀ j, (m j).isSome → j.key = i.key → j = i.canonical) (hnone : m i.canonical = none) :
    b.cache.get? i.key = none := by
  by_contra hsome
  obtain ⟨entry, hentry⟩ := Option.ne_none_iff_exists'.mp hsome
  obtain ⟨j, hj, hkey⟩ := h.known _ entry hentry
  rw [hkeys j hj hkey, hnone] at hj
  exact absurd hj (by simp)

theorem store_present {c : Container} {entry : CacheEntry} {customName : String}
    {facing : Option Facing} (hslot : b.site.console.slot Layout.centerSlot = .container c)
    (hget : b.cache.get? (Cache.identityOf c customName facing).key = some entry) :
    (Request.cacheStore customName facing).perform b =
      ⟨if b.site.console.initialized then .ok () else .error (.error .uninitialized), b, []⟩ := by
  have hc := b.store_cases customName facing
  generalize (Request.cacheStore customName facing).perform b = t at hc ⊢
  cases hc with
  | idle hready =>
    rw [hready]
    rfl
  | present hready =>
    rw [hready]
    rfl
  | absent _ hnone =>
    rw [hslot] at hnone
    exact absurd hnone (by simp [Belief.container?])
  | refused _ hslot' hnone | captured _ hslot' hnone =>
    obtain rfl := Belief.container.inj (hslot.symm.trans hslot')
    exact absurd (hget.symm.trans hnone) (by simp)

/-- Loading what the ledger does not hold is a miss. -/
theorem loads_none (hget : b.cache.get? i.key = none)
    (hready : b.site.console.initialized = true) : b.Loads i none := by
  have hmiss : ((Request.cacheLoad i).perform b).result = .ok false := by
    have hc := b.load_cases i
    generalize (Request.cacheLoad i).perform b = t at hc ⊢
    cases hc with
    | missed => rfl
    | idle hnot => exact absurd (hready.symm.trans hnot) (by simp)
    | refused _ hsome | restored _ hsome => exact absurd (hget.symm.trans hsome) (by simp)
  refine ⟨⟨false, hmiss⟩, ?_, by simp, by simp⟩
  rw [hmiss]
  simp

/-- What is found and believed in the center once a snapshot was put back. -/
theorem restored_center {entry : CacheEntry} {cap : Capture} {x : Unit}
    (hshows : entry.Shows b.site.world cap)
    (hr : (World.respond (.restore entry.snapshot b.site.console.center) b.site.world).reply =
      .ok x) :
    (b.site.console.apply (.slot Layout.centerSlot (.container entry.container))).slot
        Layout.centerSlot = .container cap.container ∧
      (World.respond (.restore entry.snapshot b.site.console.center)
        b.site.world).world.blockAt b.site.console.center = cap.found := by
  obtain ⟨snapshot, hsnapshot, halike⟩ := World.putBack_of_restore hr
  obtain rfl := Option.some.inj (hsnapshot.symm.trans hshows.snapshot)
  have hbelief := believed_apply b.site.console (.slot Layout.centerSlot)
    (.slot Layout.centerSlot) (.container entry.container)
  have hfound := World.blockAt_putBack_ofBlock b.site.world b.site.console.center
    b.site.console.center cap.found
  rw [if_pos rfl] at hbelief hfound
  rw [← hshows.container]
  exact ⟨hbelief, (halike.blockAt b.site.console.center).trans hfound⟩

/-- Loading what the ledger holds puts its block back. -/
theorem loads_some {entry : CacheEntry} {cap : Capture} (hget : b.cache.get? i.key = some entry)
    (hshows : entry.Shows b.site.world cap) (hready : b.site.console.initialized = true) :
    b.Loads i (some cap) := by
  have hwilling := World.respond_restore hshows.snapshot b.site.console.center
  have hc := b.load_cases i
  generalize ht : (Request.cacheLoad i).perform b = t at hc
  cases hc with
  | idle hnot => exact absurd (hready.symm.trans hnot) (by simp)
  | missed _ hnone => exact absurd (hget.symm.trans hnone) (by simp)
  | @refused entry' e events _ hget' hr hnot =>
    obtain rfl := Option.some.inj (hget.symm.trans hget')
    have hrefused : ¬ (b.site.world.failing.contains Action.Kind.restore = false) := by
      rw [← hwilling]
      intro hok
      exact absurd (hok.symm.trans hr) (by simp)
    refine ⟨⟨false, by rw [ht]⟩, ?_, fun _ => ?_, ?_⟩
    · rw [ht]
      simp [hnot]
    · rw [ht]
      exact iff_of_false hnot hrefused
    · rw [ht]
      simp
  | @restored entry' events _ hget' hr hback =>
    obtain rfl := Option.some.inj (hget.symm.trans hget')
    refine ⟨⟨true, by rw [ht]⟩, ?_, fun _ => ?_, ?_⟩
    · rw [ht]
      simp [hback]
    · rw [ht]
      exact iff_of_true hback (hwilling.mp hr)
    · rintro _ ⟨⟩ -
      rw [ht]
      exact restored_center hshows hr

theorem serves (h : b.Refines m) (hkeys : ∀ j, (m j).isSome → j.key = i.key → j = i.canonical) :
    b.Serves i (m i.canonical) := by
  have hget : (b.cache.get? i.key).isSome = (m i.canonical).isSome := by
    cases hm : m i.canonical with
    | none =>
      rw [h.get?_of_none hkeys hm]
      rfl
    | some cap =>
      obtain ⟨entry, hentry, -⟩ := h.get?_of_some hm
      rw [hentry]
      rfl
  refine ⟨hget, ?_, ?_, fun hready => ?_⟩
  · rintro name states rfl
    rw [← hget]
    rfl
  · intro c customName facing hslot hidentity hheld
    have hkey : (Cache.identityOf c customName facing).key = i.key := by
      rw [← Identity.key_canonical, hidentity, Identity.key_canonical]
    rw [← hget, ← hkey] at hheld
    obtain ⟨entry, hentry⟩ := Option.isSome_iff_exists.mp hheld
    exact store_present hslot hentry
  · cases hm : m i.canonical with
    | none => exact loads_none (h.get?_of_none hkeys hm) hready
    | some cap =>
      obtain ⟨entry, hentry, hshows⟩ := h.get?_of_some hm
      exact loads_some hentry hshows hready

end Bench.Refines

/-- **The cache refines the ledger.** Take an identity, and any run of a new bench in which no two
identities that are stored share a key with each other or with that one. After the run the cache
serves the identity by the ledger of the run, which holds it if it was stored since the cache was
last emptied, and then with what was captured at the first such store. -/
theorem cache_refines_ledger {settings : Settings} {world : World} {turns : List Turn}
    {i : Identity} (hkeys : Set.InjOn Identity.key
      {j | j ∈ i.canonical :: (Bench.new settings world).storedIn turns}) :
    let b := Bench.new settings world
    let held := b.ledger (fun _ => none) turns i.canonical
    (b.play turns).Serves i held ∧
      (held.isSome ↔ b.StoredForGood turns i.canonical) ∧
      ∀ cap, held = some cap ↔ b.StoredFirst turns i.canonical cap := by
  intro b held
  refine ⟨?_, b.isSome_ledger turns i.canonical, b.ledger_eq_some_iff turns i.canonical⟩
  obtain ⟨hrefines, hstored⟩ := (Bench.Refines.new settings world).play hkeys (by simp)
    fun j hj => List.mem_cons_of_mem _ hj
  refine hrefines.serves fun j hj hkey => ?_
  have hcanonical := hkey.trans (Identity.key_canonical i).symm
  exact hkeys (hstored j hj) List.mem_cons_self hcanonical

/-- A run in which a chest is stored, and then another work area is laid out. -/
def storedChest : List Turn :=
  [.request (.layOut 0 ⟨1000, 64, 1000⟩),
    .request (.putInSlot "user" 0 (.containerOf "Chest" .empty)),
    .request (.cacheStore "" none), .fail .backup, .request (.layOut 0 ⟨-500, 64, 0⟩)]

theorem cache_refines_ledger_storedChest :
    Set.InjOn Identity.key {j | j ∈ Identity.canonical ⟨"chest", .empty, "", none⟩ ::
      (Bench.new {} {}).storedIn storedChest} ∧
    ((Bench.new {} {}).play storedChest).Serves ⟨"chest", .empty, "", none⟩
      ((Bench.new {} {}).ledger (fun _ => none) storedChest
        (Identity.canonical ⟨"chest", .empty, "", none⟩)) ∧
    ((Bench.new {} {}).ledger (fun _ => none) storedChest
      (Identity.canonical ⟨"chest", .empty, "", none⟩)).isSome := by
  have hstored : (Bench.new {} {}).storedIn storedChest =
      [Identity.canonical ⟨"chest", .empty, "", none⟩] := by
    decide +kernel
  have hheld : ((Bench.new {} {}).ledger (fun _ => none) storedChest
      (Identity.canonical ⟨"chest", .empty, "", none⟩)).isSome := by
    decide +kernel
  have hkeys : Set.InjOn Identity.key {j | j ∈ Identity.canonical ⟨"chest", .empty, "", none⟩ ::
      (Bench.new {} {}).storedIn storedChest} := by
    rw [hstored]
    intro j hj k hk _
    simp only [List.mem_cons, List.not_mem_nil, or_false, or_self, Set.mem_ofPred_eq] at hj hk
    rw [hj, hk]
  exact ⟨hkeys, (cache_refines_ledger hkeys).1, hheld⟩

end BlockConsole
