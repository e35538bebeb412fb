import BlockConsole.Bench
import BlockConsole.Proofs.Console.Reach

/-!
# What requests to the cache come to

`Bench.load_cases` and `Bench.store_cases` list the ways in which loading and storing can end,
whatever the environment replies. Emptying the cache never fails (`Bench.perform_cacheClear`).
-/

namespace BlockConsole

open Work Console

variable {W : Type} [Environment W]

namespace Cache

/-- In the time of these events a snapshot was **put back** at a position: the environment
acknowledged it. -/
def PutBack (p : Position) (events : List Event) : Prop :=
  ∃ id, Event.acted (.restore id p) (.ok ()) ∈ events

theorem not_putBack_logged (p : Position) (entries : List LogEntry) :
    ¬ PutBack p (entries.map .logged) := by
  rintro ⟨id, hmem⟩
  obtain ⟨entry, -, hentry⟩ := List.mem_map.mp hmem
  exact absurd hentry (by simp)

theorem PutBack.append_iff {p : Position} {es fs : List Event} :
    PutBack p (es ++ fs) ↔ PutBack p es ∨ PutBack p fs := by
  simp only [PutBack, List.mem_append, exists_or]

/-- Taking the action of putting a snapshot back counts exactly if it is acknowledged. -/
theorem putBack_actEvents (id : SnapshotId) (p : Position) (w : W) :
    PutBack p (actEvents (.restore id p) w) ↔
      (Environment.respond (.restore id p) w).reply = .ok () := by
  constructor
  · rintro ⟨id', hmem⟩
    rcases List.mem_cons.mp hmem with heq | hlogged
    · injection heq with haction hreply
      obtain rfl : id' = id := (Action.restore.inj haction).1
      exact hreply.symm
    · -- Everything else was only said.
      exact absurd ⟨id', hlogged⟩ (not_putBack_logged p _)
  · exact fun h => ⟨id, acted_mem_actEvents h⟩

/-- The entry under a key is an entry. -/
theorem mem_of_get? {cache : Cache} {k : UInt64} {entry : CacheEntry}
    (h : cache.get? k = some entry) : (k, entry) ∈ cache.entries := by
  obtain ⟨l₁, l₂, hsplit, -⟩ := List.lookup_eq_some_iff.mp h
  rw [hsplit]
  simp

/-- The identity under which a container is stored. -/
def identityOf (c : Container) (customName : String) (facing : Option Facing) : Identity :=
  ⟨c.name, c.states, customName, facing⟩

end Cache

/-- What **loading** an identity can come to. -/
inductive Loaded (b : Bench W) (i : Identity) : Transition W Bool → Prop
  /-- The console is not ready. -/
  | idle (h : b.site.console.initialized = false) :
      Loaded b i ⟨.error (.error .uninitialized), b, []⟩
  /-- There is no entry under the key. -/
  | missed {said : LogEntry} (h : b.site.console.initialized = true)
      (hget : b.cache.get? i.key = none) :
      Loaded b i
        ⟨.ok false, { b with cache.misses := b.cache.misses + 1 }, [.logged said]⟩
  /-- The snapshot could not be put back. -/
  | refused {entry : CacheEntry} {e : ActionError} {events : List Event}
      (h : b.site.console.initialized = true) (hget : b.cache.get? i.key = some entry)
      (hr : (Environment.respond (.restore entry.snapshot b.site.console.center)
        b.site.world).reply = .error e)
      (hnot : ¬ Cache.PutBack b.site.console.center events) :
      Loaded b i
        ⟨.ok false,
          ⟨siteAfter (.restore entry.snapshot b.site.console.center) b.site,
            { b.cache with misses := b.cache.misses + 1 }⟩, events⟩
  /-- The snapshot was put back, and the console believes in the container. -/
  | restored {entry : CacheEntry} {events : List Event}
      (h : b.site.console.initialized = true) (hget : b.cache.get? i.key = some entry)
      (hr : (Environment.respond (.restore entry.snapshot b.site.console.center)
        b.site.world).reply = .ok ())
      (hback : Cache.PutBack b.site.console.center events) :
      Loaded b i
        ⟨.ok true,
          ⟨{ siteAfter (.restore entry.snapshot b.site.console.center) b.site with
              console :=
                b.site.console.apply (.slot Layout.centerSlot (.container entry.container)) },
            { b.cache with hits := b.cache.hits + 1 }⟩, events⟩

/-- What **storing** the center can come to. -/
inductive Stored (b : Bench W) (customName : String) (facing : Option Facing) :
    Transition W Unit → Prop
  /-- The console is not ready. -/
  | idle (h : b.site.console.initialized = false) :
      Stored b customName facing ⟨.error (.error .uninitialized), b, []⟩
  /-- There is no container in the center. -/
  | absent (h : b.site.console.initialized = true)
      (hslot : (b.site.console.slot Layout.centerSlot).container? = none) :
      Stored b customName facing
        ⟨.error (.error (.centerNotContainer (b.site.console.slot Layout.centerSlot).name)), b, []⟩
  /-- There is an entry under the key already. -/
  | present {c : Container} {entry : CacheEntry} (h : b.site.console.initialized = true)
      (hslot : b.site.console.slot Layout.centerSlot = .container c)
      (hget : b.cache.get? (Cache.identityOf c customName facing).key = some entry) :
      Stored b customName facing ⟨.ok (), b, []⟩
  /-- The center could not be captured. -/
  | refused {c : Container} {e : ActionError} {events : List Event}
      (h : b.site.console.initialized = true)
      (hslot : b.site.console.slot Layout.centerSlot = .container c)
      (hget : b.cache.get? (Cache.identityOf c customName facing).key = none)
      (hr : (Environment.respond (.backup b.site.console.center b.site.console.center)
        b.site.world).reply = .error e) :
      Stored b customName facing
        ⟨.error (.error (.action e)),
          { b with site := siteAfter (.backup b.site.console.center b.site.console.center) b.site },
          events⟩
  /-- The center was captured. -/
  | captured {c : Container} {id : SnapshotId} {events : List Event}
      (h : b.site.console.initialized = true)
      (hslot : b.site.console.slot Layout.centerSlot = .container c)
      (hget : b.cache.get? (Cache.identityOf c customName facing).key = none)
      (hr : (Environment.respond (.backup b.site.console.center b.site.console.center)
        b.site.world).reply = .ok id) :
      Stored b customName facing
        ⟨.ok (),
          ⟨siteAfter (.backup b.site.console.center b.site.console.center) b.site,
            { b.cache with
              entries := b.cache.entries ++ [((Cache.identityOf c customName facing).key, ⟨id, c⟩)]
              stores := b.cache.stores + 1 }⟩, events⟩

namespace Bench

omit [Environment W] in
/-- Work that yields a new cache and nothing else. -/
theorem onCache_return (b : Bench W) (w : Work W Failure Cache) :
    b.onCache (do return ((), ← w)) =
      match (w.run b.site).result with
      | .ok cache => ⟨.ok (), ⟨(w.run b.site).site, cache⟩, (w.run b.site).events⟩
      | .error e => ⟨.error e, { b with site := (w.run b.site).site }, (w.run b.site).events⟩ := by
  unfold onCache
  rw [run_bind]
  cases (w.run b.site).result with
  | ok cache => simp [Outcome.after]
  | error e => rfl

theorem load_cases (b : Bench W) (i : Identity) :
    Loaded b i ((Request.cacheLoad i).perform b) := by
  simp only [Request.perform, onCache, Cache.load]
  cases h : b.site.console.initialized with
  | false =>
    rw [run_bind_of_error (run_requireReady_of_not h)]
    exact .idle h
  | true =>
    rw [run_bind_of_ok (run_requireReady h)]
    cases hget : b.cache.get? i.key with
    | none =>
      simp only [Outcome.after_nil]
      rw [run_bind_of_ok (run_log ..)]
      exact .missed h hget
    | some entry =>
      simp only [Outcome.after_nil]
      rw [run_bind_of_ok (run_console b.site), run_bind_of_ok (run_attempt _ b.site),
        Outcome.after_nil]
      have hacted :=
        Cache.putBack_actEvents entry.snapshot b.site.console.center b.site.world
      cases hr : (Environment.respond (.restore entry.snapshot b.site.console.center)
        b.site.world).reply with
      | error e =>
        refine .refused h hget hr fun hback => ?_
        rcases Cache.PutBack.append_iff.mp hback with hact | hlog
        · exact absurd ((hacted.mp hact).symm.trans hr) (by simp)
        · exact Cache.not_putBack_logged _ [_] hlog
      | ok x =>
        exact .restored h hget hr (Cache.PutBack.append_iff.mpr (.inl (hacted.mpr hr)))

theorem store_cases (b : Bench W) (customName : String) (facing : Option Facing) :
    Stored b customName facing ((Request.cacheStore customName facing).perform b) := by
  rw [Request.perform, onCache_return, Cache.store]
  cases h : b.site.console.initialized with
  | false =>
    rw [run_bind_of_error (run_requireReady_of_not h)]
    exact .idle h
  | true =>
    rw [run_bind_of_ok (run_requireReady h), run_bind_of_ok (run_console b.site)]
    cases hc : (b.site.console.slot Layout.centerSlot).container? with
    | none => exact .absent h hc
    | some c =>
      have hslot := Belief.eq_container_of_container? hc
      cases hget : b.cache.get? (Cache.identityOf c customName facing).key with
      | some entry =>
        have hkey : b.cache.get? (Identity.key ⟨c.name, c.states, customName, facing⟩) =
            some entry := hget
        simp only [hkey, Outcome.after_nil, run_pure]
        exact .present h hslot hget
      | none =>
        have hkey : b.cache.get? (Identity.key ⟨c.name, c.states, customName, facing⟩) = none :=
          hget
        have hact := run_act (.backup b.site.console.center b.site.console.center) b.site
        simp only [hkey, Outcome.after_nil]
        cases hr : (Environment.respond (.backup b.site.console.center b.site.console.center)
          b.site.world).reply with
        | error e =>
          rw [hr] at hact
          rw [run_bind_of_error hact]
          exact .refused h hslot hget hr
        | ok id =>
          rw [hr] at hact
          rw [run_bind_of_ok hact]
          exact .captured h hslot hget hr

end Bench

/-! ### Emptying the cache -/

theorem Cache.total_discardAll (entries : List CacheEntry) :
    Total (discardAll entries : Work W Failure Unit) := by
  induction entries with
  | nil => exact total_pure
  | cons entry rest ih =>
    refine total_attempt.bind fun reply => ?_
    cases reply with
    | ok _ => exact ih
    | error e => exact total_log.bind fun _ => ih

/-- Deleting snapshots is within every frame that allows to delete one. -/
theorem Cache.within_discardAll {ε : Type} {F : Frame W}
    (hdiscard : ∀ (id : SnapshotId) (s : Site W),
      F.Allows s (siteAfter (.discard id) s) (actEvents (.discard id) s.world))
    (entries : List CacheEntry) (s : Site W) :
    Within F (discardAll entries : Work W ε Unit) s := by
  induction entries generalizing s with
  | nil => exact within_pure
  | cons entry rest ih =>
    have hattempt : Within F (Work.attempt (.discard entry.snapshot) : Work W ε _) s :=
      hdiscard entry.snapshot s
    refine .bind hattempt fun reply _ => ?_
    cases reply with
    | ok _ => exact ih _
    | error e => exact .bind within_log fun _ _ => ih _

/-- Emptying the cache drops all entries, whatever becomes of their snapshots. -/
theorem Bench.perform_cacheClear (b : Bench W) :
    Request.cacheClear.perform b =
      ⟨.ok (), ⟨((Cache.discardAll (b.cache.entries.map Prod.snd) : Work W Failure Unit).run
        b.site).site, { b.cache with entries := [] }⟩,
        ((Cache.discardAll (b.cache.entries.map Prod.snd) : Work W Failure Unit).run
          b.site).events⟩ := by
  rw [Request.perform, onCache_return, Cache.clear, run_bind]
  cases h : ((Cache.discardAll (b.cache.entries.map Prod.snd) : Work W Failure Unit).run
    b.site).result with
  | error e => exact absurd h (Cache.total_discardAll _ b.site e)
  | ok x =>
    simp only [run_pure, Outcome.after_result, Outcome.after_site, Outcome.after_events,
      List.append_nil]

end BlockConsole
