import BlockConsole.Proofs.Bench.LayOut
import BlockConsole.Proofs.Bench.Operation
import BlockConsole.Proofs.Cache.Outcome
import BlockConsole.Proofs.Console.Atomicity
import BlockConsole.Proofs.World.History

/-!
# Sound benches

A bench over a `World` is `Sound` if its console agrees with the world and every snapshot of its
cache shows the container that the cache says it does. The console may have moved, written cells
or laid out a new work area, and the cache may have put a snapshot back or captured a new one:
every request that is `Admissible` keeps the bench sound (`Bench.Sound.request`).

The console neither captures nor deletes. So every operation stays within the frame `sparing`, and
a request that neither stores into the cache nor empties it leaves all snapshots alone
(`Request.spares`).
-/

namespace BlockConsole

open Work Console

/-! ### Snapshots belong to the cache -/

/-- Sparing the snapshots, as a frame. -/
def sparing : Frame World where
  Allows s s' _ := SameSnapshots s.world s'.world
  quiet _ _ := ⟨rfl, rfl⟩
  trans h₁ h₂ := h₁.trans h₂

/-- The console takes no action that captures or deletes. -/
theorem sparing_covers : sparing.Covers fun _ _ => True where
  act a s ha := by
    have hspares : a.spares = true := by
      cases a <;> first | rfl | exact absurd ha (by simp [Action.ofCache])
    exact World.spares hspares s.world
  change _ _ _ _ := ⟨rfl, rfl⟩
  update _ _ _ := ⟨rfl, rfl⟩

namespace Request

/-- Whether a request changes which snapshots are kept. -/
def changesBook : Request → Bool
  | cacheStore .. => true
  | cacheClear => true
  | _ => false

/-- A request that neither stores into the cache nor empties it spares the snapshots. -/
theorem spares {r : Request} (h : r.changesBook = false) (b : Bench World) :
    SameSnapshots b.site.world (r.perform b).bench.site.world := by
  refine sparing_covers.perform (fun _ _ _ => ⟨rfl, rfl⟩) (fun _ => ⟨rfl, rfl⟩) b fun a s ha => ?_
  -- Of the actions of the cache only putting back is left.
  have hspares : a.spares = true := by
    unfold mayTake at ha
    split at ha
    · rfl
    · exact absurd h.symm Bool.false_ne_true
    · exact absurd h.symm Bool.false_ne_true
    · exact absurd ha Bool.false_ne_true
  exact World.spares hspares s.world

/-- It keeps the entries of the cache, too. -/
theorem entries_of_not_changesBook {r : Request} (h : r.changesBook = false) (b : Bench World) :
    (r.perform b).bench.cache.entries = b.cache.entries := by
  cases r with
  | cacheLoad i =>
    have hc := b.load_cases i
    generalize (cacheLoad i).perform b = t at hc ⊢
    cases hc <;> rfl
  | cacheStore => exact absurd h.symm Bool.false_ne_true
  | cacheClear => exact absurd h.symm Bool.false_ne_true
  | _ => rfl

end Request

variable {P : Container → Prop}

/-! ### Laying out -/

/-- A console that knows nothing agrees with every world. -/
theorem Agrees.of_blank {s : Site World} (h : Blank s.console) (hroom : HasRoom s.console.center) :
    Agrees P s where
  room := hroom
  cells hready := absurd (hready.symm.trans h.initialized) (by decide)
  idle _ := h.slot
  pose hready := absurd (hready.symm.trans h.initialized) (by decide)
  container i c hc := by
    rw [h.slot i] at hc
    exact absurd hc (by simp [Belief.unknown])

/-- A work area that was just laid out agrees with the world that was built. -/
theorem agrees_built {c : Console} {settings : Settings} {w w' : World}
    (hroom : HasRoom c.center) (hsettings : c.settings = settings)
    (hposition : c.position = c.center)
    (h : World.Alike (builtWorld settings c.center w) w') : Agrees P ⟨laidOut c, w'⟩ where
  room := hroom
  cells _ cell := by
    have hbelief := believed_laidOut c cell
    show ((laidOut c).believed cell).Describes (w'.blockAt (cell.position c.center))
    rw [hbelief, h.blockAt, blockAt_builtWorld, hsettings]
    cases hfloor : cell.isFloor with
    | true =>
      rw [if_pos rfl, if_pos ((mem_floorBox hroom cell).mpr hfloor)]
      exact describes_marker settings.floorBlock .empty
    | false =>
      have hnot : cell.position c.center ∉ (floorBox c.center).positions := by
        rw [mem_floorBox hroom cell, hfloor]
        decide
      rw [if_neg (by decide), if_neg hnot, if_pos ((mem_clearBox hroom cell).mpr hfloor)]
      rfl
  idle hidle := absurd (show true = false from hidle) (by decide)
  pose _ := by
    rw [h.player, (rebuilt_builtWorld settings c.center w).player]
    exact hposition
  container i d hd := by
    have hair : (laidOut c).slot i = .air := believed_laidOut c (.slot i)
    rw [hair] at hd
    exact absurd hd (by simp)

/-- However laying out ends, the console agrees with the world, and it has its settings still. -/
theorem agrees_layOut {s : Site World} {center : Position} (dimension : Word)
    (hroom : HasRoom center) (hfloor : PlainFloor s.console.settings) :
    Agrees P ((layOut dimension center).run s).site ∧
      ((layOut dimension center).run s).site.console.settings = s.console.settings := by
  have hblank : Blank (relocatedSite s dimension center).console := blank_relocated ..
  cases hsafe : isUnsafeCenter s.console.settings center with
  | true =>
    rw [run_layOut_refused hsafe]
    exact ⟨.of_blank hblank hroom, rfl⟩
  | false =>
    rw [run_layOut_of_safe hsafe]
    cases hr : ((buildArea s.console.settings dimension center).run
      (relocatedSite s dimension center)).result with
    | error e =>
      -- What was built before the failure does not matter, since nothing is believed of it.
      have hkept := kept_buildArea s.console.settings dimension center _ e hr
      have hblank' := hblank.of_kept hkept
      obtain ⟨p, -, hp⟩ := hkept
      refine ⟨.of_blank hblank' ?_, ?_⟩
      · rw [hp]
        exact hroom
      · rw [hp]
        rfl
    | ok x =>
      obtain ⟨hconsole, hworld⟩ := ends_buildArea hfloor ⟨⟨x, hr⟩, rfl⟩
      generalize ((buildArea s.console.settings dimension center).run
        (relocatedSite s dimension center)).site = s' at hconsole hworld
      obtain ⟨c', w'⟩ := s'
      obtain rfl : c' = _ := hconsole
      refine ⟨?_, rfl⟩
      exact agrees_built (c := (relocatedSite s dimension center).console.movedTo center) hroom rfl
        rfl hworld

/-! ### Sound benches -/

/-- An entry of the cache is **backed** by a world if its snapshot is kept there and shows the
container of the entry. -/
structure CacheEntry.Backed (P : Container → Prop) (w : World) (entry : CacheEntry) : Prop where
  snapshot : ∃ found, w.snapshots[entry.snapshot]? = some (.ofBlock found) ∧
    (Belief.container entry.container).Describes found
  container : P entry.container
  number : entry.snapshot.number < w.nextSnapshot

theorem CacheEntry.Backed.congr {w w' : World} {entry : CacheEntry} (h : entry.Backed P w)
    (hs : SameSnapshots w w') : entry.Backed P w' := by
  obtain ⟨snapshot, container, number⟩ := h
  exact ⟨by rwa [hs.snapshots], container, by rwa [hs.next]⟩

/-- A bench is **sound** if its console agrees with the world and every entry of its cache is
backed. Its settings never change, so the floor stays plain. -/
structure Bench.Sound (P : Container → Prop) (settings : Settings) (b : Bench World) : Prop where
  agrees : Agrees P b.site
  same : b.site.console.settings = settings
  floor : PlainFloor settings
  backed : ∀ e ∈ b.cache.entries, e.2.Backed P b.site.world

theorem Agrees.congr_world {s : Site World} {w : World} (h : Agrees P s)
    (hblocks : ∀ p, w.blockAt p = s.world.blockAt p) (hplayer : w.player = s.world.player) :
    Agrees P { s with world := w } where
  room := h.room
  cells hready c := by
    show (s.console.believed c).Describes (w.blockAt _)
    rw [hblocks]
    exact h.cells hready c
  idle := h.idle
  pose hready := (h.pose hready).trans hplayer.symm
  container := h.container

namespace Bench.Sound

variable {settings : Settings} {b : Bench World}

/-- Moves keep a bench sound. -/
theorem moves {s : Site World} (h : b.Sound P settings)
    (hm : Relation.ReflTransGen (Move P) b.site s) :
    Bench.Sound P settings { b with site := s } := by
  have hsteady := steady_of_moves hm
  refine ⟨h.agrees.moves hm, hsteady.settings.trans h.same, h.floor, fun e he => ?_⟩
  exact (h.backed e he).congr ⟨hsteady.snapshots, hsteady.nextSnapshot⟩

/-- Requests that are made up of moves keep a bench sound. -/
theorem onSite {α : Type} {w : Work World Failure α} (h : b.Sound P settings)
    (hw : Within (BlockConsole.moves P) w b.site) : (b.onSite w).bench.Sound P settings :=
  h.moves hw

end Bench.Sound

/-! ### The cache -/

/-- Putting a backed snapshot back is a move: it writes the center. -/
theorem move_of_restore {s : Site World} {entry : CacheEntry}
    (hready : s.console.initialized = true) (h : entry.Backed P s.world) {x : Unit}
    (hr : (World.respond (.restore entry.snapshot s.console.center) s.world).reply = .ok x) :
    Move P s
      ⟨s.console.apply (.slot Layout.centerSlot (.container entry.container)),
        (World.respond (.restore entry.snapshot s.console.center) s.world).world⟩ := by
  obtain ⟨snapshot, hget, halike⟩ := World.putBack_of_restore hr
  obtain ⟨found, hfound, hdescribes⟩ := h.snapshot
  obtain rfl : snapshot = .ofBlock found := Option.some.inj (hget.symm.trans hfound)
  have hback := World.rebuilt_putBack s.world (.ofBlock found) s.console.center
  refine .wrote ⟨by simp, by simp, by simp, halike.snapshots.trans hback.snapshots,
    halike.nextSnapshot.trans hback.nextSnapshot, fun hpose => ?_⟩ (.slot Layout.centerSlot) _ found
    (fun _ _ => hready) hdescribes ?_ (fun c => believed_apply _ (.slot Layout.centerSlot) c _)
    fun p => ?_
  · rw [apply_position, hpose, halike.player, hback.player]
  · intro c hc
    obtain rfl : entry.container = c := Belief.container.inj hc
    exact h.container
  · rw [halike.blockAt, World.blockAt_putBack_ofBlock, Cell.position_center]

namespace Bench.Sound

variable {settings : Settings} {b : Bench World}

/-- What counts of a cache are its entries. -/
theorem congr_cache {s : Site World} {cache : Cache}
    (h : Bench.Sound P settings ⟨s, b.cache⟩) (hentries : cache.entries = b.cache.entries) :
    Bench.Sound P settings ⟨s, cache⟩ :=
  ⟨h.agrees, h.same, h.floor, hentries ▸ h.backed⟩

/-- Loading puts a backed snapshot back, if anything. -/
theorem cacheLoad (h : b.Sound P settings) (i : Identity) :
    ((Request.cacheLoad i).perform b).bench.Sound P settings := by
  have hc := b.load_cases i
  generalize (Request.cacheLoad i).perform b = t at hc ⊢
  cases hc with
  | idle => exact h
  | missed => exact congr_cache h rfl
  | refused _ _ hr _ =>
    exact congr_cache (h.moves (.single (.of_alike (World.alike_of_error hr)))) rfl
  | @restored entry _ hready hget hr _ =>
    have hbacked := h.backed _ (Cache.mem_of_get? hget)
    exact congr_cache (h.moves (.single (move_of_restore hready hbacked hr))) rfl

/-- A snapshot that was just captured backs its entry, and the older ones stay. -/
theorem stored (h : b.Sound P settings) {key : UInt64} {c : Container} {id : SnapshotId}
    (hready : b.site.console.initialized = true)
    (hslot : b.site.console.slot Layout.centerSlot = .container c)
    (hr : (World.respond (.backup b.site.console.center b.site.console.center) b.site.world).reply =
      .ok id) {cache : Cache} (hcache : cache.entries = b.cache.entries ++ [(key, ⟨id, c⟩)]) :
    Bench.Sound P settings
      ⟨siteAfter (.backup b.site.console.center b.site.console.center) b.site, cache⟩ := by
  -- Memory and world agree on the center, so the snapshot shows what is believed of it.
  have hcaptured := World.captured_of_backup_self hr
  have hdescribes := h.agrees.cells hready (.slot Layout.centerSlot)
  rw [Cell.position_center] at hdescribes
  have hbelief : b.site.console.believed (.slot Layout.centerSlot) = .container c := hslot
  rw [hbelief] at hdescribes
  refine ⟨h.agrees.congr_world hcaptured.blockAt hcaptured.player, h.same, h.floor, fun e he => ?_⟩
  rw [hcache, List.mem_append, List.mem_singleton] at he
  rcases he with he | rfl
  · obtain ⟨⟨found, hfound, hdesc⟩, hP, hlt⟩ := h.backed e he
    have hkept := (hcaptured.older hlt).trans hfound
    exact ⟨⟨found, hkept, hdesc⟩, hP, hlt.trans_le hcaptured.next_le⟩
  · exact ⟨⟨_, hcaptured.kept, hdescribes⟩, h.agrees.container _ c hslot, hcaptured.number_lt⟩

/-- Storing captures the center, if anything. -/
theorem cacheStore (h : b.Sound P settings) (customName : String) (facing : Option Facing) :
    ((Request.cacheStore customName facing).perform b).bench.Sound P settings := by
  have hc := b.store_cases customName facing
  generalize (Request.cacheStore customName facing).perform b = t at hc ⊢
  cases hc with
  | idle | absent | present => exact h
  | refused _ _ _ hr => exact h.moves (.single (.of_alike (World.alike_of_error hr)))
  | captured hready hslot _ hr => exact h.stored hready hslot hr rfl

end Bench.Sound

/-- Deleting snapshots changes neither the console, nor the blocks, nor where the player is. -/
def discarding : Frame World where
  Allows s s' _ := ∃ snapshots, ∃ w, World.Alike { s.world with snapshots } w ∧
    s' = { s with world := w }
  quiet s _ := ⟨s.world.snapshots, s.world, .refl _, rfl⟩
  trans := by
    rintro s₁ s₂ s₃ es fs ⟨snapshots, w, hw, rfl⟩ ⟨snapshots', w', hw', rfl⟩
    exact ⟨snapshots', w', (hw.keep snapshots').trans hw', rfl⟩

theorem discarding_discardAll (entries : List CacheEntry) (s : Site World) :
    Within discarding (Cache.discardAll entries : Work World Failure Unit) s := by
  refine Cache.within_discardAll (fun id s => ?_) entries s
  obtain ⟨snapshots, halike⟩ := World.discard_alike s.world id
  exact ⟨snapshots, _, halike, rfl⟩

namespace Bench.Sound

variable {settings : Settings} {b : Bench World}

/-- Emptying the cache leaves nothing to be backed. -/
theorem cacheClear (h : b.Sound P settings) :
    (Request.cacheClear.perform b).bench.Sound P settings := by
  obtain ⟨snapshots, w, halike, hw⟩ :=
    discarding_discardAll (b.cache.entries.map Prod.snd) b.site
  rw [b.perform_cacheClear, hw]
  exact ⟨h.agrees.congr_world halike.blockAt halike.player, h.same, h.floor, by simp⟩

end Bench.Sound

/-! ### Requests -/

/-- A request is **admissible** if a center that it lays out around has room, what it puts into a
slot is placeable, and it does not record beliefs that nobody vouches for. -/
def Request.Admissible (P : Container → Prop) : Request → Prop
  | layOut _ center => HasRoom center
  | putInSlot _ _ belief => belief.Placeable P
  | recordSlot .. => False
  | recordNeighbor .. => False
  | _ => True

/-- Admissible requests keep a bench sound, whatever comes of them. -/
theorem Bench.Sound.request {settings : Settings} {b : Bench World} (h : b.Sound P settings)
    {r : Request} (hr : r.Admissible P) : (r.perform b).bench.Sound P settings := by
  cases r with
  | layOut dimension center =>
    obtain ⟨hagrees, hsettings⟩ :=
      agrees_layOut (P := P) (s := b.site) dimension hr (h.same ▸ h.floor)
    refine ⟨hagrees, hsettings.trans h.same, h.floor, fun e he => ?_⟩
    exact (h.backed e he).congr (Request.spares (r := .layOut dimension center) rfl b)
  | approach target => exact h.onSite (moves_approach target _)
  | obtainHelper kind => exact h.onSite (moves_obtainHelper kind)
  | placeHelper requester index kind floor =>
    exact h.onSite (moves_placeHelper requester index kind floor)
  | putInSlot requester index belief => exact h.onSite (moves_putInSlot requester index hr)
  | clearSlot requester index => exact h.onSite (moves_clearSlot requester index)
  | openSlot index => exact h.onSite (moves_openSlot index)
  | openSlotAt o => exact h.onSite (moves_openSlot _)
  | selectHotbar index => exact h.onSite (moves_selectHotbar index)
  | addObserver => exact h.onSite moves_addObserver
  | removeObserver id => exact h.onSite (moves_removeObserver id)
  | recordInventory requester index occupied =>
    exact h.onSite (moves_recordInventory requester index occupied)
  | recordSlot requester index belief => exact absurd hr id
  | recordNeighbor requester index f belief => exact absurd hr id
  | spareSlots includeCenter => exact h.onSite (within_requireSpareSlots includeCenter)
  | inventoryPlace excluding => exact h.onSite (within_requireInventoryPlace excluding)
  | search | claimable | cacheCheck => exact h
  | cacheLoad i => exact h.cacheLoad i
  | cacheStore customName facing => exact h.cacheStore customName facing
  | cacheClear => exact h.cacheClear

end BlockConsole
