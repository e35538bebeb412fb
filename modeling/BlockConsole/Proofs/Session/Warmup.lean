import BlockConsole.Proofs.Bench.Orderly
import BlockConsole.Proofs.Block.NormalForm
import BlockConsole.Proofs.Block.StatesMap
import BlockConsole.Proofs.Cache.Ledger
import BlockConsole.Session.Run
import Mathlib.Data.List.Dedup

/-!
# Preparing containers

Before its containers are prepared, the work area of a session is `Prepared`: nothing hinders the
agent, and the ring is empty. Preparing a container writes the center alone, so it stays like this.

The cache is `Stocked` with the keys of the containers that were prepared. It has one entry for
each of them, the world keeps the snapshots of these entries and no others, and a container was put
back from the cache if and only if its key had come before. So the statistics of the cache are
known after any list of containers (`yields_warmUpAll`).
-/

namespace BlockConsole

open Work Console

variable {s s' : Site World} {b : Bench World}

/-! ### Work that succeeds -/

section

variable {ε α β : Type} {w : Work World Failure α} {a : α}

/-- Work **yields** a result, and leaves a site behind. -/
def Yields (w : Work World ε α) (s : Site World) (a : α) (s' : Site World) : Prop :=
  ∃ events, w.run s = ⟨.ok a, s', events⟩

theorem Yields.bind {w : Work World ε α} {f : α → Work World ε β} {x : β} {s₁ : Site World}
    (hw : Yields w s a s₁) (hf : Yields (f a) s₁ x s') : Yields (w >>= f) s x s' := by
  obtain ⟨events, hw⟩ := hw
  obtain ⟨more, hf⟩ := hf
  rw [Yields, run_bind_of_ok hw, hf]
  exact ⟨events ++ more, rfl⟩

/-- Work of the console yields the same as part of a session. -/
theorem Yields.onConsole (h : Yields w s a s') : Yields (Session.onConsole w) s a s' := by
  obtain ⟨events, hw⟩ := h
  refine ⟨events, ?_⟩
  show (⟨(w.run s).result.mapError SessionError.console, (w.run s).site, (w.run s).events⟩ :
    Outcome World SessionError α) = _
  rw [hw]
  rfl

theorem yields_of_result (h : (w.run s).result = .ok a) : Yields w s a (w.run s).site :=
  ⟨(w.run s).events, by rw [← h]⟩

end

/-! ### The cache over a world that refuses nothing -/

section

variable {i : Identity} {entry : CacheEntry} {customName : String} {facing : Option Facing}

/-- What loading answers as a request is what it yields. -/
theorem yields_load {loaded : Bool} (h : ((Request.cacheLoad i).perform b).result = .ok loaded) :
    Yields (b.cache.load i) b.site (loaded, ((Request.cacheLoad i).perform b).bench.cache)
      ((Request.cacheLoad i).perform b).bench.site := by
  simp only [Request.perform, Bench.onCache] at h ⊢
  cases hres : ((b.cache.load i).run b.site).result with
  | error e => simp [hres] at h
  | ok p =>
    obtain ⟨x, cache⟩ := p
    simp only [hres] at h ⊢
    obtain rfl : x = loaded := Except.ok.inj h
    exact yields_of_result hres

theorem yields_store (h : ((Request.cacheStore customName facing).perform b).result = .ok ()) :
    Yields (b.cache.store customName facing) b.site
      ((Request.cacheStore customName facing).perform b).bench.cache
      ((Request.cacheStore customName facing).perform b).bench.site := by
  rw [Request.perform, Bench.onCache_return] at h ⊢
  cases hres : ((b.cache.store customName facing).run b.site).result with
  | error e => simp [hres] at h
  | ok cache => exact yields_of_result hres

/-- Loading what is not in the cache is a miss. -/
theorem yields_load_of_absent (hready : b.site.console.initialized = true)
    (hget : b.cache.get? i.key = none) :
    Yields (b.cache.load i) b.site (false, { b.cache with misses := b.cache.misses + 1 })
      b.site := by
  have hyields {loaded : Bool} := @yields_load b i loaded
  have hc := b.load_cases i
  generalize (Request.cacheLoad i).perform b = t at hc hyields
  cases hc with
  | idle hnot => exact absurd (hready.symm.trans hnot) (by simp)
  | missed => exact hyields rfl
  | refused _ hsome | restored _ hsome => exact absurd (hget.symm.trans hsome) (by simp)

/-- Loading what is in the cache puts its snapshot back, if the world keeps it. -/
theorem yields_load_of_kept (hready : b.site.console.initialized = true)
    (hget : b.cache.get? i.key = some entry)
    (hr : (World.respond (.restore entry.snapshot b.site.console.center) b.site.world).reply =
      .ok ()) :
    Yields (b.cache.load i) b.site (true, { b.cache with hits := b.cache.hits + 1 })
      ⟨b.site.console.apply (.slot Layout.centerSlot (.container entry.container)),
        (World.respond (.restore entry.snapshot b.site.console.center) b.site.world).world⟩ := by
  have hyields {loaded : Bool} := @yields_load b i loaded
  have hc := b.load_cases i
  generalize (Request.cacheLoad i).perform b = t at hc hyields
  cases hc with
  | idle hnot => exact absurd (hready.symm.trans hnot) (by simp)
  | missed _ hnone => exact absurd (hget.symm.trans hnone) (by simp)
  | refused _ hget' hr' =>
    obtain rfl := Option.some.inj (hget.symm.trans hget')
    exact absurd (hr.symm.trans hr') (by simp)
  | restored _ hget' =>
    obtain rfl := Option.some.inj (hget.symm.trans hget')
    exact hyields rfl

/-- Storing a container that is not in the cache captures the center. -/
theorem yields_store_of_absent {c : Container} (hready : b.site.console.initialized = true)
    (hobliging : b.site.world.Obliging)
    (hslot : b.site.console.slot Layout.centerSlot = .container c)
    (hget : b.cache.get? (Cache.identityOf c customName facing).key = none) :
    ∃ id w, World.Captured b.site.world w id
        (.ofBlock (b.site.world.blockAt b.site.console.center)) ∧
      World.SameAgent b.site.world w ∧
      Yields (b.cache.store customName facing) b.site
        { b.cache with
          entries := b.cache.entries ++ [((Cache.identityOf c customName facing).key, ⟨id, c⟩)]
          stores := b.cache.stores + 1 }
        { b.site with world := w } := by
  have hyields := @yields_store b customName facing
  have hc := b.store_cases customName facing
  generalize (Request.cacheStore customName facing).perform b = t at hc hyields
  cases hc with
  | idle hnot => exact absurd (hready.symm.trans hnot) (by simp)
  | absent _ hnone =>
    rw [hslot] at hnone
    exact absurd hnone (by simp [Belief.container?])
  | present _ hslot' hsome =>
    obtain rfl := Belief.container.inj (hslot.symm.trans hslot')
    exact absurd (hget.symm.trans hsome) (by simp)
  | refused _ _ _ hr =>
    obtain ⟨id, hok⟩ := World.respond_backup (w := b.site.world) b.site.console.center
      b.site.console.center (hobliging.contains_failing .backup)
    exact absurd (hok.symm.trans hr) (by simp)
  | captured _ hslot' _ hr =>
    obtain rfl := Belief.container.inj (hslot.symm.trans hslot')
    exact ⟨_, _, World.captured_of_backup_self hr,
      World.sameAgent_respond (by simp [Action.kind]) _, hyields rfl⟩

end

/-! ### Work areas and caches of a session -/

/-- The work area of a session is **prepared** for helpers: nothing hinders the agent, the ring is
empty over a floor that bears helpers, and four commands were sent besides teleports. -/
structure Prepared (s : Site World) : Prop where
  able : Able s
  ring : ∀ i ∈ Layout.slotsFrom false, s.console.slot i = .air
  bears : ∀ i : Slot, (s.console.neighbor i .down).bearsHelper = true
  surplus : s.world.surplus = 4

/-- What is written in the center does not matter. -/
theorem Prepared.of_wrote (h : Prepared s) {marks : List Mark} (hwrote : Wrote marks s s')
    (hcenter : ∀ m ∈ marks, m.cell = .slot Layout.centerSlot) (hable : Able s')
    (hsurplus : s'.world.surplus = s.world.surplus) : Prepared s' where
  able := hable
  ring i hi := by
    have hkept : s'.console.believed (.slot i) = s.console.believed (.slot i) :=
      hwrote.believed_of_forall_ne fun m hm heq => by
        obtain rfl := Cell.slot.inj ((hcenter m hm).symm.trans heq)
        exact absurd hi (by decide)
    exact Eq.trans hkept (h.ring i hi)
  bears i := by
    have hkept : s'.console.believed (.neighbor i .down) = s.console.believed (.neighbor i .down) :=
      hwrote.believed_of_forall_ne fun m hm heq =>
        Cell.noConfusion ((hcenter m hm).symm.trans heq)
    exact (congrArg Belief.bearsHelper hkept).trans (h.bears i)
  surplus := hsurplus.trans h.surplus

/-- A cache is **stocked** with the keys of some containers that were prepared one after the other:
each key has one entry, the world keeps the snapshots of the entries and no others, and the
containers were counted as misses when their keys were new, and else as hits. -/
structure Stocked (keys : List UInt64) (b : Bench World) : Prop where
  nodup : (b.cache.entries.map Prod.fst).Nodup
  mem_iff : ∀ k, k ∈ b.cache.entries.map Prod.fst ↔ k ∈ keys
  kept : ∀ e ∈ b.cache.entries, ∃ found,
    b.site.world.snapshots[e.2.snapshot]? = some (.ofBlock found)
  owned : ∀ id snapshot, b.site.world.snapshots[id]? = some snapshot →
    ∃ e ∈ b.cache.entries, e.2.snapshot = id
  number : ∀ e ∈ b.cache.entries, e.2.snapshot.number < b.site.world.nextSnapshot
  stores : b.cache.stores = b.cache.entries.length
  misses : b.cache.misses = b.cache.entries.length
  uses : b.cache.hits + b.cache.misses = keys.length

namespace Stocked

variable {keys : List UInt64} {k : UInt64} {cache : Cache}

/-- A new cache is stocked with nothing, if there are no snapshots. -/
theorem new (h : ∀ id : SnapshotId, s.world.snapshots[id]? = none) : Stocked [] ⟨s, {}⟩ where
  nodup := List.nodup_nil
  mem_iff k := Iff.rfl
  kept e he := absurd he (by simp)
  owned id snapshot hget := absurd ((h id).symm.trans hget) (by simp)
  number e he := absurd he (by simp)
  stores := rfl
  misses := rfl
  uses := rfl

/-- Only the snapshots of the world matter. -/
theorem congr (h : Stocked keys ⟨s, cache⟩) (hs : SameSnapshots s.world s'.world) :
    Stocked keys ⟨s', cache⟩ where
  nodup := h.nodup
  mem_iff := h.mem_iff
  kept := by
    rw [hs.snapshots]
    exact h.kept
  owned := by
    rw [hs.snapshots]
    exact h.owned
  number := by
    rw [hs.next]
    exact h.number
  stores := h.stores
  misses := h.misses
  uses := h.uses

/-- A container whose key is in the cache is a hit. -/
theorem hit (h : Stocked keys ⟨s, cache⟩) (hk : k ∈ keys) :
    Stocked (keys ++ [k]) ⟨s, { cache with hits := cache.hits + 1 }⟩ where
  nodup := h.nodup
  mem_iff j := by
    rw [List.mem_append, List.mem_singleton, h.mem_iff j]
    constructor
    · exact .inl
    · rintro (hj | rfl)
      · exact hj
      · exact hk
  kept := h.kept
  owned := h.owned
  number := h.number
  stores := h.stores
  misses := h.misses
  uses := by
    have huses := h.uses
    simp only [List.length_append, List.length_singleton] at huses ⊢
    omega

/-- A container whose key is new is a miss, and then it is stored. -/
theorem stored (h : Stocked keys ⟨s, cache⟩) (hk : k ∉ keys) {id : SnapshotId} {w : World}
    {found : Option Block} (hw : World.Captured s.world w id (.ofBlock found)) (c : Container)
    (console : Console) :
    Stocked (keys ++ [k]) ⟨⟨console, w⟩,
      { cache with
        entries := cache.entries ++ [(k, ⟨id, c⟩)]
        misses := cache.misses + 1
        stores := cache.stores + 1 }⟩ where
  nodup := by
    rw [List.map_append, List.nodup_append]
    refine ⟨h.nodup, by simp, fun a ha b hb => ?_⟩
    obtain rfl := List.mem_singleton.mp hb
    rintro rfl
    exact hk ((h.mem_iff a).mp ha)
  mem_iff j := by
    rw [List.map_append, List.mem_append, h.mem_iff j, List.mem_append]
    rfl
  kept e he := by
    rcases List.mem_append.mp he with he | he
    · obtain ⟨found', hfound'⟩ := h.kept e he
      exact ⟨found', (hw.older (h.number e he)).trans hfound'⟩
    · obtain rfl := List.mem_singleton.mp he
      exact ⟨found, hw.kept⟩
  owned j snapshot hget := by
    by_cases hj : j = id
    · exact ⟨(k, ⟨id, c⟩), by simp, hj.symm⟩
    · rw [hw.snapshots, Std.HashMap.getElem?_insert] at hget
      simp only [beq_iff_eq, Ne.symm hj, if_false] at hget
      obtain ⟨e, he, hid⟩ := h.owned j snapshot hget
      exact ⟨e, List.mem_append_left _ he, hid⟩
  number e he := by
    rcases List.mem_append.mp he with he | he
    · exact (h.number e he).trans_le hw.next_le
    · obtain rfl := List.mem_singleton.mp he
      exact hw.number_lt
  stores := by
    have hstores := h.stores
    simp only [List.length_append, List.length_singleton] at hstores ⊢
    omega
  misses := by
    have hmisses := h.misses
    simp only [List.length_append, List.length_singleton] at hmisses ⊢
    omega
  uses := by
    have huses := h.uses
    simp only [List.length_append, List.length_singleton] at huses ⊢
    omega

/-- The keys in the cache are those that it is stocked with. -/
theorem get?_eq_none_iff (h : Stocked keys b) : b.cache.get? k = none ↔ k ∉ keys := by
  rw [← h.mem_iff k, Cache.get?, List.lookup_eq_none_iff, List.mem_map]
  constructor
  · rintro hall ⟨e, he, rfl⟩
    exact absurd (hall e he) (by simp)
  · intro hnot e he
    refine bne_iff_ne.mpr ?_
    rintro rfl
    exact hnot ⟨e, he, rfl⟩

end Stocked

/-! ### Preparing containers -/

/-- The **identity** of a container to prepare, in canonical spelling, if its states can be read. -/
def Preparation.identity? (p : Preparation) : Option Identity :=
  match BlockStates.parse p.states with
  | .ok states => some (Identity.canonical ⟨p.name, states, p.customName, p.facing⟩)
  | .error _ => none

/-- The states of a container to prepare can be read, and they are **free of quotes**. -/
def Preparation.QuoteFree (p : Preparation) : Prop :=
  ∃ states, BlockStates.parse p.states = .ok states ∧ states.QuoteFree

/-- States that were read and are free of quotes are read back from their text. -/
theorem BlockStates.parse_text_of_quoteFree {text : String} {states : BlockStates}
    (hparse : parse text = .ok states) (h : states.QuoteFree) : parse states.text = .ok states :=
  decode_of_quotable fun e he => ⟨key_ne_of_parse hparse e he, (h e he).1, (h e he).2⟩

/-- The plan of placing a container with states that are read back from their text. -/
theorem putPlan_container (console : Console) (i : Slot) {c : Container}
    (hread : BlockStates.parse c.states.text = .ok c.states) :
    putPlan console i (.container c) =
      ⟨.ok (), [⟨.slot i, .container c, Block.named? c.name c.states⟩]⟩ := by
  show blockPlan i (.container c) = _
  rw [blockPlan, Belief.states, hread, Belief.name]

section

variable {keys : List UInt64} {cache : Cache} {p : Preparation}

/-- A container with a key that is known is put back from the cache. -/
theorem yields_warmUp_of_mem {states : BlockStates} (hs : Prepared s)
    (hc : Stocked keys ⟨s, cache⟩) (hparse : BlockStates.parse p.states = .ok states)
    (hk : Identity.key ⟨p.name, states, p.customName, p.facing⟩ ∈ keys) :
    ∃ cache' s', Yields (Session.warmUp cache p) s cache' s' ∧ Prepared s' ∧
      Stocked (keys ++ [Identity.key ⟨p.name, states, p.customName, p.facing⟩]) ⟨s', cache'⟩ := by
  obtain ⟨entry, hget⟩ := Option.ne_none_iff_exists'.mp fun hnone => hc.get?_eq_none_iff.mp hnone hk
  obtain ⟨found, hkept⟩ := hc.kept _ (Cache.mem_of_get? hget)
  have hr := (World.respond_restore hkept s.console.center).mpr
    (hs.able.obliging.contains_failing .restore)
  have hload := yields_load_of_kept (b := ⟨s, cache⟩) hs.able.ready hget hr
  have hwrote := wrote_restore hkept hr entry.container
  have hagent := World.sameAgent_respond (a := .restore entry.snapshot s.console.center)
    (by simp [Action.kind]) s.world
  have hsame := World.spares (a := .restore entry.snapshot s.console.center) rfl s.world
  refine ⟨_, _, ?_, hs.of_wrote hwrote (by simp) (hs.able.of_wrote hwrote hagent) hagent.surplus,
    (hc.congr hsame).hit hk⟩
  rw [Session.warmUp, hparse]
  exact hload.onConsole.bind ⟨_, rfl⟩

/-- A container with a new key is built and stored. -/
theorem yields_warmUp_of_not_mem {states : BlockStates} (hs : Prepared s)
    (hc : Stocked keys ⟨s, cache⟩) (hparse : BlockStates.parse p.states = .ok states)
    (hquotes : states.QuoteFree)
    (hk : Identity.key ⟨p.name, states, p.customName, p.facing⟩ ∉ keys) :
    ∃ cache' s', Yields (Session.warmUp cache p) s cache' s' ∧ Prepared s' ∧
      Stocked (keys ++ [Identity.key ⟨p.name, states, p.customName, p.facing⟩]) ⟨s', cache'⟩ := by
  have hread : BlockStates.parse (Container.ofName p.name states).states.text =
      .ok (Container.ofName p.name states).states := by
    rw [Container.states_ofName]
    exact BlockStates.parse_text_of_quoteFree hparse hquotes
  -- The cache names the container as it was placed, and that name has the same key.
  have hkey : (Cache.identityOf (Container.ofName p.name states) p.customName p.facing).key =
      Identity.key ⟨p.name, states, p.customName, p.facing⟩ := by
    rw [Cache.identityOf, Container.name_ofName, Container.states_ofName]
    exact Identity.key_canonical ⟨p.name, states, p.customName, p.facing⟩
  have hget := hc.get?_eq_none_iff.mpr hk
  have hload := yields_load_of_absent (b := ⟨s, cache⟩) hs.able.ready hget
  rw [Session.warmUp, hparse]
  dsimp only [Belief.containerOf]
  generalize Container.ofName p.name states = c at hread hkey
  -- A miss leaves the site as it is, so the container is placed there.
  have hput := (follows_putInSlot (s := s) Session.warmupRequester Layout.centerSlot
    (.container c)).carriesOut hs.able
  have hsame : SameSnapshots s.world
      ((putInSlot Session.warmupRequester Layout.centerSlot (.container c)).run s).site.world :=
    Request.spares (r := .putInSlot Session.warmupRequester Layout.centerSlot (.container c)) rfl
      ⟨s, cache⟩
  rw [putPlan_container s.console Layout.centerSlot hread] at hput
  have hplaced := yields_of_result hput.result
  have hprepared := hs.of_wrote hput.wrote (by simp) hput.able hput.surplus
  have hslot := @Wrote.believed_last [] _ _ _ hput.wrote
  generalize ((putInSlot Session.warmupRequester Layout.centerSlot (.container c)).run s).site = s₁
    at hsame hplaced hprepared hslot
  -- What was placed is believed to be in the center, so it can be captured.
  obtain ⟨id, w, hcaptured, hagent, hstore⟩ := yields_store_of_absent
    (b := ⟨s₁, { cache with misses := cache.misses + 1 }⟩) hprepared.able.ready
    hprepared.able.obliging hslot ((congrArg cache.get? hkey).trans hget)
  have hwrote : Wrote [] s₁ { s₁ with world := w } := .of_world hcaptured.blockAt hcaptured.player
  refine ⟨_, _, hload.onConsole.bind (hplaced.onConsole.bind hstore.onConsole),
    hprepared.of_wrote hwrote (by simp) (hprepared.able.of_wrote hwrote hagent) hagent.surplus, ?_⟩
  rw [hkey]
  exact (hc.congr hsame).stored hk hcaptured c s₁.console

/-- Preparing a container whose states are free of quotes succeeds. -/
theorem yields_warmUp {i : Identity} (hs : Prepared s) (hc : Stocked keys ⟨s, cache⟩)
    (hp : p.QuoteFree) (hi : p.identity? = some i) :
    ∃ cache' s', Yields (Session.warmUp cache p) s cache' s' ∧ Prepared s' ∧
      Stocked (keys ++ [i.key]) ⟨s', cache'⟩ := by
  obtain ⟨states, hparse, hquotes⟩ := hp
  have hcanonical : Identity.canonical ⟨p.name, states, p.customName, p.facing⟩ = i := by
    simpa [Preparation.identity?, hparse] using hi
  rw [← hcanonical, Identity.key_canonical]
  by_cases hk : Identity.key ⟨p.name, states, p.customName, p.facing⟩ ∈ keys
  · exact yields_warmUp_of_mem hs hc hparse hk
  · exact yields_warmUp_of_not_mem hs hc hparse hquotes hk

/-- So does preparing any number of them, one after the other. -/
theorem yields_warmUpAll {ps : List Preparation} (hs : Prepared s) (hc : Stocked keys ⟨s, cache⟩)
    (hps : ∀ p ∈ ps, p.QuoteFree) :
    ∃ cache' s', Yields (Session.warmUpAll cache ps) s cache' s' ∧ Prepared s' ∧
      Stocked (keys ++ (ps.filterMap Preparation.identity?).map Identity.key) ⟨s', cache'⟩ := by
  induction ps generalizing s keys cache with
  | nil => exact ⟨cache, s, ⟨[], rfl⟩, hs, by simpa using hc⟩
  | cons p rest ih =>
    obtain ⟨hp, hrest⟩ := List.forall_mem_cons.mp hps
    obtain ⟨i, hi⟩ : ∃ i, p.identity? = some i := by
      obtain ⟨states, hparse, -⟩ := hp
      exact ⟨_, by rw [Preparation.identity?, hparse]⟩
    obtain ⟨cache₁, s₁, hfirst, hs₁, hc₁⟩ := yields_warmUp hs hc hp hi
    obtain ⟨cache', s', hothers, hs', hc'⟩ := ih hs₁ hc₁ hrest
    refine ⟨cache', s', hfirst.bind hothers, hs', ?_⟩
    rw [List.filterMap_cons_some hi, List.map_cons]
    simpa using hc'

end

/-! ### Counting -/

/-- If the keys of identities differ where the identities do, a cache that is stocked with them has
as many entries as there are different ones. -/
theorem Stocked.length_entries {is : List Identity} (h : Stocked (is.map Identity.key) b)
    (hkeys : Set.InjOn Identity.key {i | i ∈ is}) :
    b.cache.entries.length = is.dedup.length := by
  have hnodup : (is.dedup.map Identity.key).Nodup :=
    (List.nodup_dedup is).map_on fun i hi j hj heq =>
      hkeys (List.mem_dedup.mp hi) (List.mem_dedup.mp hj) heq
  have hperm : (b.cache.entries.map Prod.fst).Perm (is.dedup.map Identity.key) := by
    refine (List.perm_ext_iff_of_nodup h.nodup hnodup).mpr fun k => ?_
    simp only [h.mem_iff k, List.mem_map, List.mem_dedup]
  simpa using hperm.length_eq

end BlockConsole
