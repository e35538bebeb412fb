import BlockConsole.Proofs.Session.Warmup

/-!
# A session runs to its end

A session takes place in a new world, which refuses nothing. So its work area is laid out, if the
center is not too near to the origin, and it is `Prepared` for helpers however many containers are
prepared in the center: the anvil is placed in slot 1 and the loom in slot 2, and both open. What
is counted on the way is exact, and in the end the snapshots are gone (`run_succeeds`).
-/

namespace BlockConsole

open Work Console

variable {s s' : Site World}

/-! ### Laying out -/

/-- Over a world that refuses nothing and in which nothing was sent, laying out prepares the work
area. -/
theorem yields_layOut (hw : s.world.Obliging) (hfloor : PlainFloor s.console.settings)
    {center : Position} (hfar : ¬TooNear s.console.settings center) (hroom : HasRoom center)
    (hnew : s.world.surplus = 0) (dimension : Word) :
    ∃ s', Yields (layOut dimension center) s () s' ∧ Prepared s' ∧
      SameSnapshots s.world s'.world := by
  have hsafe : isUnsafeCenter s.console.settings center = false := by
    rwa [← Bool.not_eq_true, isUnsafeCenter_iff]
  obtain ⟨⟨⟨x, hok⟩, hobliging⟩, hsurplus⟩ := sends_buildArea
    (s := relocatedSite s dimension center) hw hfloor dimension center
  rw [← run_layOut_of_safe hsafe] at hok hobliging hsurplus
  obtain ⟨name, states, -, -, hlaid⟩ := laidOver_of_layOut hroom hok
  have hspares : SameSnapshots s.world ((layOut dimension center).run s).site.world :=
    Request.spares (r := .layOut dimension center) rfl ⟨s, {}⟩
  refine ⟨_, yields_of_result hok, ⟨able_of_laidOver hlaid hroom hobliging, fun i _ => hlaid.slot i,
    hlaid.bears, ?_⟩, hspares⟩
  rw [hsurplus]
  show s.world.surplus + 4 = 4
  rw [hnew, zero_add]

/-! ### Helpers -/

/-- A helper of some kind is **in a slot**, in memory and in the world. -/
structure HelperIn (kind : Helper) (i : Slot) (s : Site World) : Prop where
  believed : s.console.slot i = kind.belief (World.helperStates kind)
  found : foundIn s (.slot i) = some ⟨kind.blockName, World.helperStates kind⟩

section

variable {kind : Helper} {i : Slot}

/-- It stays there if nothing is written in the slot. -/
theorem HelperIn.of_wrote (h : HelperIn kind i s) {marks : List Mark} (hwrote : Wrote marks s s')
    (hroom : HasRoom s.console.center) (hne : ∀ m ∈ marks, m.cell ≠ .slot i) :
    HelperIn kind i s' :=
  ⟨(hwrote.believed_of_forall_ne hne).trans h.believed,
    (hwrote.foundIn_of_forall_ne hroom hne).trans h.found⟩

/-- A helper is placed in the first empty slot of the ring, if it needs no support there. -/
theorem yields_obtainHelper (h : Able s)
    (hnone : ∀ j ∈ Layout.slotsFrom false, kind.test (s.console.slot j) = false)
    (hfirst : s.console.search? Belief.isAir false = some i)
    (hbears : (s.console.neighbor i .down).bearsHelper = true) :
    ∃ s', Yields (obtainHelper kind) s i s' ∧ Able s' ∧ HelperIn kind i s' ∧
      (∃ b found, Wrote [⟨.slot i, b, found⟩] s s') ∧
      s'.world.surplus = s.world.surplus ∧ SameSnapshots s.world s'.world := by
  have hout := (follows_obtainHelper (s := s) kind).carriesOut h
  rw [obtainPlan_of_first hnone hfirst hbears] at hout
  have hwrote : Wrote ([] ++ [_]) s ((obtainHelper kind).run s).site := hout.wrote
  have hspares : SameSnapshots s.world ((obtainHelper kind).run s).site.world :=
    Request.spares (r := .obtainHelper kind) rfl ⟨s, {}⟩
  have hnamed : Block.named? kind.blockName (World.helperStates kind) =
      some ⟨kind.blockName, World.helperStates kind⟩ := by
    have hname := recognized_helper kind (World.helperStates kind)
    rw [Block.named?, hname.canonical, if_neg hname.ne_air]
  exact ⟨_, yields_of_result hout.result, hout.able,
    ⟨hwrote.believed_last, (hwrote.found_last h.room).trans hnamed⟩, ⟨_, _, hwrote⟩, hout.surplus,
    hspares⟩

/-- No side of a helper has to be cleared, and it opens for an agent that is near. -/
theorem openPlan_of_helper (h : HelperIn kind i s) : openPlan s i = ⟨.ok true, []⟩ := by
  obtain ⟨states, hopenable⟩ : ∃ states,
      (s.console.slot i).openable? = some (kind.blockName, states, none) := by
    rw [h.believed]
    cases kind <;> exact ⟨_, rfl⟩
  have hname := recognized_helper kind states
  have hopens :
      opensAt s.world.blockAt (s.console.slotPosition i) kind.blockName states = true := by
    have hfound : s.world.blockAt (s.console.slotPosition i) =
      some ⟨kind.blockName, World.helperStates kind⟩ := h.found
    simp only [opensAt, hname.canonical, hname.clearSide, hfound]
    simp
  simp only [openPlan, hopenable, sideMarks, blocksOf, List.map_nil, writeAll_nil, hopens]

/-- A helper opens. -/
theorem yields_openHelper (h : Able s) (hin : HelperIn kind i s) :
    ∃ s', Yields (Session.openHelper i) s true s' ∧ Able s' ∧ Wrote [] s s' ∧
      s'.world.surplus = s.world.surplus ∧ SameSnapshots s.world s'.world := by
  have hplan := openPlan_of_helper hin
  have hout := (follows_openSlot (s := s) i).carriesOut h
  rw [hplan] at hout
  have hspares : SameSnapshots s.world ((openSlot i).run s).site.world :=
    Request.spares (r := .openSlot i) rfl ⟨s, {}⟩
  refine ⟨_, ?_, hout.able, hout.wrote, hout.surplus, hspares⟩
  exact (yields_of_result hout.result).onConsole.bind ⟨[], rfl⟩

end

/-- In a prepared work area an anvil is placed in slot 1, and the rest of the ring stays empty. -/
theorem yields_anvil (h : Prepared s) :
    ∃ s', Yields (obtainHelper .anvil) s 1 s' ∧ Able s' ∧ HelperIn .anvil 1 s' ∧
      (∀ j ∈ Layout.slotsFrom false, j ≠ 1 → s'.console.slot j = .air) ∧
      (∀ j : Slot, (s'.console.neighbor j .down).bearsHelper = true) ∧
      s'.world.surplus = 4 ∧ SameSnapshots s.world s'.world := by
  have hnone : ∀ j ∈ Layout.slotsFrom false, Helper.anvil.test (s.console.slot j) = false := by
    intro j hj
    rw [h.ring j hj]
    rfl
  have hair : (s.console.slot 1).isAir = true := congrArg Belief.isAir (h.ring 1 (by decide))
  have hfirst : s.console.search? Belief.isAir false = some 1 := List.find?_cons_of_pos hair
  obtain ⟨s', hanvil, hable, hin, ⟨b, found, hwrote⟩, hsurplus, hspares⟩ :=
    yields_obtainHelper h.able hnone hfirst (h.bears 1)
  have hkept (cell : Cell) (hcell : cell ≠ .slot 1) :
      s'.console.believed cell = s.console.believed cell :=
    hwrote.believed_of_forall_ne (by simpa using hcell.symm)
  refine ⟨s', hanvil, hable, hin, fun j hj hne => ?_, fun j => ?_, hsurplus.trans h.surplus,
    hspares⟩
  · exact (hkept (.slot j) fun heq => hne (Cell.slot.inj heq)).trans (h.ring j hj)
  · exact (congrArg Belief.bearsHelper (hkept (.neighbor j .down) Cell.noConfusion)).trans
      (h.bears j)

/-- Then a loom is placed in slot 2. -/
theorem yields_loom (h : Able s) (hanvil : HelperIn .anvil 1 s)
    (hring : ∀ j ∈ Layout.slotsFrom false, j ≠ 1 → s.console.slot j = .air)
    (hbears : ∀ j : Slot, (s.console.neighbor j .down).bearsHelper = true) :
    ∃ s', Yields (obtainHelper .loom) s 2 s' ∧ Able s' ∧ HelperIn .anvil 1 s' ∧
      HelperIn .loom 2 s' ∧ s'.world.surplus = s.world.surplus ∧
      SameSnapshots s.world s'.world := by
  have hnone : ∀ j ∈ Layout.slotsFrom false, Helper.loom.test (s.console.slot j) = false := by
    intro j hj
    by_cases hone : j = 1
    · rw [hone, hanvil.believed]
      rfl
    · rw [hring j hj hone]
      rfl
  have hone : ¬(s.console.slot 1).isAir = true := by
    rw [hanvil.believed]
    decide
  have htwo : (s.console.slot 2).isAir = true :=
    congrArg Belief.isAir (hring 2 (by decide) (by decide))
  have hfirst : s.console.search? Belief.isAir false = some 2 :=
    (List.find?_cons_of_neg (p := fun j => (s.console.slot j).isAir) hone).trans
      (List.find?_cons_of_pos htwo)
  obtain ⟨s', hloom, hable, hin, ⟨b, found, hwrote⟩, hsurplus, hspares⟩ :=
    yields_obtainHelper h hnone hfirst (hbears 2)
  exact ⟨s', hloom, hable, hanvil.of_wrote hwrote h.room (by simp), hin, hsurplus, hspares⟩

/-- In the end both are opened. -/
theorem yields_helpers (h : Prepared s) :
    ∃ s₁ s₂ s₃ s₄, Yields (obtainHelper .anvil) s 1 s₁ ∧ Yields (obtainHelper .loom) s₁ 2 s₂ ∧
      Yields (Session.openHelper 1) s₂ true s₃ ∧ Yields (Session.openHelper 2) s₃ true s₄ ∧
      Able s₄ ∧ HelperIn .anvil 1 s₄ ∧ HelperIn .loom 2 s₄ ∧ s₄.world.surplus = 4 ∧
      SameSnapshots s.world s₄.world := by
  obtain ⟨s₁, hanvil, hable₁, hin₁, hring₁, hbears₁, hsurplus₁, hspares₁⟩ := yields_anvil h
  obtain ⟨s₂, hloom, hable₂, hin₂, hin₂', hsurplus₂, hspares₂⟩ :=
    yields_loom hable₁ hin₁ hring₁ hbears₁
  obtain ⟨s₃, hopen, hable₃, hwrote₃, hsurplus₃, hspares₃⟩ := yields_openHelper hable₂ hin₂
  have hin₃ : HelperIn .loom 2 s₃ := hin₂'.of_wrote hwrote₃ hable₂.room (by simp)
  obtain ⟨s₄, hopen', hable₄, hwrote₄, hsurplus₄, hspares₄⟩ := yields_openHelper hable₃ hin₃
  refine ⟨s₁, s₂, s₃, s₄, hanvil, hloom, hopen, hopen', hable₄,
    hin₂.of_wrote (hwrote₃.trans hwrote₄) hable₂.room (by simp),
    hin₃.of_wrote hwrote₄ hable₃.room (by simp), ?_,
    hspares₁.trans (hspares₂.trans (hspares₃.trans hspares₄))⟩
  rw [hsurplus₄, hsurplus₃, hsurplus₂, hsurplus₁]

/-! ### Deleting the snapshots -/

/-- Deleting the snapshots of some entries leaves the others, and nothing else is changed. -/
theorem yields_discardAll {ε : Type} (entries : List CacheEntry) (hw : s.world.Obliging) :
    ∃ s', Yields (Cache.discardAll entries : Work World ε Unit) s () s' ∧ Wrote [] s s' ∧
      ∀ id : SnapshotId, s'.world.snapshots[id]? =
        if ∃ entry ∈ entries, entry.snapshot = id then none else s.world.snapshots[id]? := by
  induction entries generalizing s with
  | nil => exact ⟨s, ⟨[], rfl⟩, .refl s, fun id => by simp⟩
  | cons entry rest ih =>
    have hsnapshots := World.snapshots_discard (hw.contains_failing .discard) entry.snapshot
    have hagent := World.sameAgent_respond (a := .discard entry.snapshot) (by simp [Action.kind])
      s.world
    obtain ⟨snapshots, halike⟩ := World.discard_alike s.world entry.snapshot
    have hfirst : Wrote [] s (siteAfter (.discard entry.snapshot) s) :=
      .of_world halike.blockAt hagent.player
    obtain ⟨s', hrest, hwrote, hkept⟩ :=
      ih (s := siteAfter (.discard entry.snapshot) s) (hagent.obliging hw)
    refine ⟨s', ?_, hfirst.after_nil hwrote, fun id => ?_⟩
    -- A snapshot that cannot be deleted is only worth a line in the log.
    · refine Yields.bind ⟨_, run_attempt _ s⟩ ?_
      cases (Environment.respond (.discard entry.snapshot) s.world).reply with
      | ok x => exact hrest
      | error e => exact Yields.bind ⟨_, rfl⟩ hrest
    · have hone : (siteAfter (.discard entry.snapshot) s).world.snapshots[id]? =
          if id = entry.snapshot then none else s.world.snapshots[id]? := hsnapshots id
      rw [hkept id, hone]
      by_cases hid : id = entry.snapshot
      · simp [hid]
      · simp [hid, Ne.symm hid]

/-- So the snapshots of a stocked cache are all deleted when it is emptied. -/
theorem yields_clear {ε : Type} {keys : List UInt64} {cache : Cache}
    (hc : Stocked keys ⟨s, cache⟩) (hw : s.world.Obliging) :
    ∃ s', Yields (cache.clear : Work World ε Cache) s { cache with entries := [] } s' ∧
      Wrote [] s s' ∧ s'.world.snapshots.isEmpty = true := by
  obtain ⟨s', hdiscard, hwrote, hsnapshots⟩ :=
    yields_discardAll (ε := ε) (cache.entries.map Prod.snd) hw
  refine ⟨s', hdiscard.bind ⟨[], rfl⟩, hwrote, ?_⟩
  refine Std.HashMap.isEmpty_iff_forall_not_mem.mpr fun id => ?_
  rw [Std.HashMap.mem_iff_isSome_getElem?, hsnapshots id]
  split
  · simp
  · next hnot =>
    cases hget : s.world.snapshots[id]? with
    | none => simp
    | some snapshot =>
      obtain ⟨e, he, hid⟩ := hc.owned id snapshot hget
      exact absurd ⟨e.2, List.mem_map_of_mem he, hid⟩ hnot

/-! ### The whole session -/

/-- The identities of the containers to prepare. -/
def SessionConfig.identities (config : SessionConfig) : List Identity :=
  config.warmup.filterMap Preparation.identity?

/-- All containers have an identity if their states can be read. -/
theorem length_identities {config : SessionConfig} (h : ∀ p ∈ config.warmup, p.QuoteFree) :
    config.identities.length = config.warmup.length := by
  rw [SessionConfig.identities, List.length_filterMap_eq_countP, List.countP_eq_length]
  intro p hp
  obtain ⟨states, hparse, -⟩ := h p hp
  simp [Preparation.identity?, hparse]

/-- A summary is **exact** for a configuration: the cache has one entry for each different
identity, each of which was missed and stored once and hit whenever it came again; the anvil is in
slot 1 and the loom in slot 2, and both opened; and four commands were sent besides teleports. -/
structure Session.Summary.Exact (m : Session.Summary) (config : SessionConfig) : Prop where
  entries : m.cache.entries.length = config.identities.dedup.length
  stores : m.cache.stores = config.identities.dedup.length
  misses : m.cache.misses = config.identities.dedup.length
  hits : m.cache.hits + config.identities.dedup.length = config.warmup.length
  anvil : m.anvil = (1, true)
  loom : m.loom = (2, true)
  commands : m.commandsSent = m.teleports + 4

/-- **A session runs to its end.** Let the center have room and not be too near to the origin, let
the floor block be plain, let the states of the containers to prepare be readable and free of
quotes, and let no two different identities among them share a key. Then the session succeeds with
an exact summary, the helpers are where the summary says, and no snapshot is left. -/
theorem run_succeeds (config : SessionConfig) (hfar : ¬TooNear config.console config.center)
    (hroom : HasRoom config.center) (hfloor : PlainFloor config.console)
    (hwarmup : ∀ p ∈ config.warmup, p.QuoteFree)
    (hkeys : Set.InjOn Identity.key {i | i ∈ config.identities}) :
    ∃ m, (Session.run config).result = .ok m ∧ m.Exact config ∧
      HelperIn .anvil 1 (Session.run config).site ∧ HelperIn .loom 2 (Session.run config).site ∧
      (Session.run config).site.world.snapshots.isEmpty = true := by
  have hobserve : Yields (addObserver : Work World Failure ObserverId)
      ⟨{ settings := config.console }, {}⟩ ⟨0⟩
      ⟨{ settings := config.console, observers := ⟨1, [⟨0⟩]⟩ }, {}⟩ := ⟨[], rfl⟩
  obtain ⟨s₁, hlayOut, hprepared, hspares⟩ :=
    yields_layOut (s := ⟨{ settings := config.console, observers := ⟨1, [⟨0⟩]⟩ }, {}⟩) ⟨rfl, rfl⟩
      hfloor hfar hroom rfl config.dimension
  have hnew : Stocked [] ⟨s₁, {}⟩ := .new fun id => by
    rw [hspares.snapshots]
    simp
  -- The cache is the same until it is emptied, since helpers have nothing to do with snapshots.
  obtain ⟨cache, s₂, hwarm, hprepared₂, hstocked⟩ := yields_warmUpAll hprepared hnew hwarmup
  change Stocked (config.identities.map Identity.key) _ at hstocked
  obtain ⟨s₃, s₄, s₅, s₆, hanvil, hloom, hopen, hopen', hable, hin, hin', hsurplus, hspares₂⟩ :=
    yields_helpers hprepared₂
  obtain ⟨s₇, hclear, hwrote, hempty⟩ :=
    yields_clear (ε := SessionError) (hstocked.congr hspares₂) hable.obliging
  have hjob : Yields (Session.job config) ⟨{ settings := config.console }, {}⟩
      ⟨(1, true), (2, true), s₆.console, cache, s₆.world.commandLog.size, s₆.world.teleports,
        s₆.world.blocks.size⟩ s₇ :=
    hobserve.onConsole.bind <| hlayOut.onConsole.bind <| hwarm.bind <| hanvil.onConsole.bind <|
      hloom.onConsole.bind <| hopen.bind <| hopen'.bind <| Yields.bind ⟨[], rfl⟩ <|
        Yields.bind ⟨[], rfl⟩ <| Yields.bind ⟨_, rfl⟩ <| hclear.bind ⟨[], rfl⟩
  obtain ⟨events, hrun⟩ := hjob
  rw [Session.run, hrun]
  refine ⟨_, rfl, ?_, hin.of_wrote hwrote hable.room (by simp),
    hin'.of_wrote hwrote hable.room (by simp), hempty⟩
  -- What is left is to count: as many keys as identities, and as many identities as containers.
  have hcount := hstocked.length_entries hkeys
  have hmisses := hstocked.misses.trans hcount
  have huses := hstocked.uses
  rw [List.length_map, length_identities hwarmup, hmisses] at huses
  refine ⟨hcount, hstocked.stores.trans hcount, hmisses, huses, rfl, rfl, ?_⟩
  rw [World.surplus] at hsurplus
  dsimp only
  omega

/-- A configuration with a chest in two spellings, and the same chest under a custom name. -/
def chestSession : SessionConfig where
  center := ⟨1000, 64, 1000⟩
  level := "info"
  console := { reachDistanceSq := -1 }
  warmup :=
    [{ name := "chest", states := "[facing_direction=2]" },
      { name := "minecraft:Chest", states := "[\"facing_direction\":2]" },
      { name := "chest", states := "[facing_direction=2]", customName := "loot" }]

/-- Of the three chests one is put back from the cache, although the agent teleports all the
time. -/
theorem run_succeeds_chestSession :
    ∃ m, (Session.run chestSession).result = .ok m ∧ m.cache.entries.length = 2 ∧
      m.cache.stores = 2 ∧ m.cache.misses = 2 ∧ m.cache.hits = 1 ∧ m.anvil = (1, true) ∧
      m.loom = (2, true) ∧ m.commandsSent = m.teleports + 4 ∧
      (Session.run chestSession).site.world.snapshots.isEmpty = true := by
  have hfar : ¬TooNear chestSession.console chestSession.center := by
    unfold TooNear
    decide +kernel
  have hroom : HasRoom chestSession.center := by constructor <;> decide
  have hfloor : PlainFloor chestSession.console := by
    unfold PlainFloor
    decide +kernel
  have hwarmup : ∀ p ∈ chestSession.warmup, p.QuoteFree := by
    have hread : ∀ p ∈ chestSession.warmup, BlockStates.parse p.states =
        .ok (.ofList [("facing_direction", .int 2)]) := by decide +kernel
    exact fun p hp => ⟨_, hread p hp, by decide +kernel⟩
  have hidentities : chestSession.identities =
      [⟨"minecraft:chest", .ofList [("facing_direction", .int 2)], "", none⟩,
        ⟨"minecraft:chest", .ofList [("facing_direction", .int 2)], "", none⟩,
        ⟨"minecraft:chest", .ofList [("facing_direction", .int 2)], "loot", none⟩] := by
    decide +kernel
  have hkeys : Set.InjOn Identity.key {i | i ∈ chestSession.identities} := by
    have hpairs : ∀ i ∈ chestSession.identities, ∀ j ∈ chestSession.identities,
        i.key = j.key → i = j := by
      rw [hidentities]
      decide +kernel
    exact fun i hi j hj => hpairs i hi j hj
  have hdifferent : chestSession.identities.dedup.length = 2 := by
    rw [hidentities]
    decide +kernel
  obtain ⟨m, hm, hexact, -, -, hempty⟩ := run_succeeds chestSession hfar hroom hfloor hwarmup hkeys
  have hhits := hexact.hits
  rw [hdifferent] at hhits
  refine ⟨m, hm, hexact.entries.trans hdifferent, hexact.stores.trans hdifferent,
    hexact.misses.trans hdifferent, Nat.add_right_cancel (m := 2) hhits, hexact.anvil, hexact.loom,
    hexact.commands, hempty⟩

end BlockConsole
