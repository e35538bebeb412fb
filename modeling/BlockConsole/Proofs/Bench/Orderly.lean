import BlockConsole.Proofs.Bench.Footprint
import BlockConsole.Proofs.Bench.Turn

/-!
# What a request writes, whatever happened before

A bench that was used in any way is `Orderly`: a console that is ready knows where its agent is, and
a snapshot of the cache is of a single block (`Bench.Orderly.play`). So loading from the cache
writes the center at most, and every request but laying out writes marks that can be told from what
the request asks for (`Request.exists_wrote`): records write what they are told, and operations
on slots follow their plans. No turn changes the settings (`Bench.settings_play`).
-/

namespace BlockConsole

open Work Console

variable {s : Site World}

/-! ### Single requests -/

/-- Writing nothing, as a frame. -/
def unmarked : Frame World where
  Allows s s' _ := Wrote [] s s'
  quiet s _ := .refl s
  trans h₁ h₂ := h₁.after_nil h₂

/-- Work on a slot that there is not does nothing. -/
theorem site_eq_of_le {α : Type} {index : Nat} (h : 9 ≤ index)
    (f : Slot → Work World Failure α) :
    ((do requireReady; let i ← slotOf index; f i).run s).site = s := by
  cases hready : s.console.initialized with
  | false => rw [run_bind_of_error (run_requireReady_of_not hready)]
  | true =>
    rw [run_bind_of_ok (run_requireReady hready), run_bind_of_error (run_slotOf_of_le h s)]
    rfl

/-- Putting the snapshot of a single block back writes the center. -/
theorem wrote_restore {id : SnapshotId} {found : Option Block} {x : Unit}
    (hget : s.world.snapshots[id]? = some (.ofBlock found))
    (hr : (World.respond (.restore id s.console.center) s.world).reply = .ok x) (c : Container) :
    Wrote [⟨.slot Layout.centerSlot, .container c, found⟩] s
      ⟨s.console.apply (.slot Layout.centerSlot (.container c)),
        (World.respond (.restore id s.console.center) s.world).world⟩ := by
  obtain ⟨snapshot, hsnapshot, halike⟩ := World.putBack_of_restore hr
  obtain rfl : snapshot = .ofBlock found := Option.some.inj (hsnapshot.symm.trans hget)
  have hback := World.rebuilt_putBack s.world (.ofBlock found) s.console.center
  refine .mark (.slot Layout.centerSlot) _ found (halike.player.trans hback.player) fun p => ?_
  rw [halike.blockAt, World.blockAt_putBack_ofBlock, Cell.position_center]

/-- A record is a mark of a cell in which nothing changed. -/
theorem exists_wrote_record (requester : String) (index : Nat) (cell : Slot → Cell)
    (belief : Belief) :
    ∃ marks, (marks = [] ∨ ∃ i : Slot, i.val = index ∧ ∃ found, marks = [⟨cell i, belief, found⟩]) ∧
      Wrote marks s ((do
        let i ← slotOf index
        announce requester ((cell i).change belief) : Work World Failure Unit).run s).site := by
  rcases Nat.lt_or_ge index 9 with hlt | hge
  · rw [run_bind_of_ok (run_slotOf ⟨index, hlt⟩ s)]
    exact ⟨_, .inr ⟨⟨index, hlt⟩, rfl, _, rfl⟩, .recorded s (cell ⟨index, hlt⟩) belief⟩
  · rw [run_bind_of_error (run_slotOf_of_le hge s)]
    exact ⟨[], .inl rfl, .refl s⟩

theorem wrote_recordInventory (requester : String) (index : Nat) (occupied : Bool) :
    Within unmarked (recordInventory requester index occupied) s := by
  unfold recordInventory
  split
  · exact .of_console rfl rfl rfl rfl fun cell => by cases cell <;> rfl
  · exact within_refuse

theorem wrote_holdSlot (slot : Nat) : Within unmarked (Work.act (.holdSlot slot)) s := by
  rw [Within, run_act]
  show Wrote [] s (siteAfter (.holdSlot slot) s)
  cases hr : (World.respond (.holdSlot slot) s.world).reply with
  | error e => exact .of_alike (World.alike_of_error hr)
  | ok x =>
    have halike := World.held_of_holdSlot hr
    exact .of_world halike.blockAt halike.player

theorem wrote_selectHotbar (index : Nat) : Within unmarked (selectHotbar index) s := by
  refine within_selectHotbar fun _ => .bind (wrote_holdSlot index) fun _ _ => ?_
  exact .of_console rfl rfl rfl rfl fun cell => by cases cell <;> rfl

theorem wrote_discardAll (entries : List CacheEntry) (s : Site World) :
    Within unmarked (Cache.discardAll entries : Work World Failure Unit) s := by
  rw [Within]
  obtain ⟨snapshots, w, halike, hw⟩ := discarding_discardAll entries s
  rw [hw]
  exact .of_world halike.blockAt halike.player

/-! ### Orderly benches -/

/-- A bench is **orderly** if its console knows where the agent is, once it is ready, and every
snapshot that the world keeps for its cache is of a single block. -/
structure Bench.Orderly (b : Bench World) : Prop where
  pose : b.site.console.initialized = true → b.site.console.position = b.site.world.player
  single : ∀ e ∈ b.cache.entries, ∀ snapshot,
    b.site.world.snapshots[e.2.snapshot]? = some snapshot → ∃ found, snapshot = .ofBlock found
  number : ∀ e ∈ b.cache.entries, e.2.snapshot.number < b.site.world.nextSnapshot

/-- What a request, but for laying out, **may mark**. -/
def Request.MayMark (b : Bench World) (marks : List Mark) : Request → Prop
  | obtainHelper kind => marks <+: (obtainPlan b.site.console kind).marks
  | placeHelper _ index kind floor =>
    ∃ i : Slot, i.val = index ∧ marks <+: (helperPlan b.site.console.settings i kind floor).marks
  | putInSlot _ index belief =>
    ∃ i : Slot, i.val = index ∧ marks <+: (putPlan b.site.console i belief).marks
  | clearSlot _ index => ∃ i : Slot, i.val = index ∧ marks <+: (clearPlan i).marks
  | openSlot index => ∃ i : Slot, i.val = index ∧ marks <+: (openPlan b.site i).marks
  | openSlotAt o => marks <+: (openPlan b.site (Layout.slotAtOrCenter o)).marks
  | recordSlot _ index belief => ∃ i : Slot, i.val = index ∧ ∃ found,
    marks = [⟨.slot i, belief, found⟩]
  | recordNeighbor _ index f belief => ∃ i : Slot, i.val = index ∧ ∃ found,
    marks = [⟨.neighbor i f, belief, found⟩]
  | cacheLoad _ => ∃ c found, marks = [⟨.slot Layout.centerSlot, .container c, found⟩]
  | _ => False

/-- Work on a slot that follows a plan writes some of its marks, or nothing if there is no such
slot. -/
theorem exists_wrote_of_follows {α : Type} {index : Nat} {f : Slot → Work World Failure α}
    {plan : Slot → Plan α}
    (h : ∀ i : Slot, i.val = index →
      Follows (plan i) s ((do requireReady; let j ← slotOf index; f j).run s)) :
    ∃ marks, (marks = [] ∨ ∃ i : Slot, i.val = index ∧ marks <+: (plan i).marks) ∧
      Wrote marks s ((do requireReady; let j ← slotOf index; f j).run s).site := by
  rcases Nat.lt_or_ge index 9 with hlt | hge
  · obtain ⟨marks, hprefix, hwrote, -⟩ := (h ⟨index, hlt⟩ rfl).wrote
    exact ⟨marks, .inr ⟨⟨index, hlt⟩, rfl, hprefix⟩, hwrote⟩
  · rw [site_eq_of_le hge]
    exact ⟨[], .inl rfl, .refl s⟩

namespace Request

variable {b : Bench World}

/-- Loading from the cache of an orderly bench writes the center at most. -/
theorem exists_wrote_cacheLoad (h : b.Orderly) (i : Identity) :
    ∃ marks, (marks = [] ∨ (cacheLoad i).MayMark b marks) ∧
      Wrote marks b.site ((cacheLoad i).perform b).bench.site := by
  have hc := b.load_cases i
  generalize (cacheLoad i).perform b = t at hc ⊢
  cases hc with
  | idle | missed => exact ⟨[], .inl rfl, .refl b.site⟩
  | refused _ _ hr _ => exact ⟨[], .inl rfl, .of_alike (World.alike_of_error hr)⟩
  | @restored entry _ _ hget hr _ =>
    obtain ⟨snapshot, hkept, -⟩ := World.putBack_of_restore hr
    obtain ⟨found, rfl⟩ := h.single _ (Cache.mem_of_get? hget) snapshot hkept
    exact ⟨_, .inr ⟨entry.container, found, rfl⟩, wrote_restore hkept hr entry.container⟩

theorem wrote_cacheStore (customName : String) (facing : Option Facing) :
    Wrote [] b.site ((cacheStore customName facing).perform b).bench.site := by
  have hc := b.store_cases customName facing
  generalize (cacheStore customName facing).perform b = t at hc ⊢
  cases hc with
  | idle | absent | present => exact .refl b.site
  | refused _ _ _ hr => exact .of_alike (World.alike_of_error hr)
  | captured _ _ _ hr =>
    have hcaptured := World.captured_of_backup_self hr
    exact .of_world hcaptured.blockAt hcaptured.player

/-- Every request but laying out writes what it may mark, or nothing. -/
theorem exists_wrote {r : Request} (hlay : r.isLayOut = false) (h : b.Orderly) :
    ∃ marks, (marks = [] ∨ r.MayMark b marks) ∧ Wrote marks b.site (r.perform b).bench.site := by
  have hnone {s' : Site World} (hwrote : Wrote [] b.site s') :
      ∃ marks, (marks = [] ∨ r.MayMark b marks) ∧ Wrote marks b.site s' :=
    ⟨[], .inl rfl, hwrote⟩
  cases r with
  | layOut => exact absurd hlay.symm Bool.false_ne_true
  | approach target => exact hnone (wrote_approach target b.site)
  | search | claimable | cacheCheck => exact hnone (.refl b.site)
  | spareSlots includeCenter =>
    exact hnone (within_requireSpareSlots (F := unmarked) includeCenter)
  | inventoryPlace excluding => exact hnone (within_requireInventoryPlace (F := unmarked) excluding)
  | obtainHelper kind =>
    obtain ⟨marks, hprefix, hwrote, -⟩ := (follows_obtainHelper (s := b.site) kind).wrote
    exact ⟨marks, .inr hprefix, hwrote⟩
  | placeHelper requester index kind floor =>
    exact exists_wrote_of_follows fun i hi => hi ▸ follows_placeHelper requester i kind floor
  | putInSlot requester index belief =>
    exact exists_wrote_of_follows fun i hi => hi ▸ follows_putInSlot requester i belief
  | clearSlot requester index =>
    exact exists_wrote_of_follows fun i hi => hi ▸ follows_clearSlot requester i
  | openSlot index => exact exists_wrote_of_follows fun i hi => hi ▸ follows_openSlot i
  | openSlotAt o =>
    obtain ⟨marks, hprefix, hwrote, -⟩ :=
      (follows_openSlot (s := b.site) (Layout.slotAtOrCenter o)).wrote
    exact ⟨marks, .inr hprefix, hwrote⟩
  | addObserver => exact hnone (.of_console rfl rfl rfl rfl fun cell => by cases cell <;> rfl)
  | removeObserver id => exact hnone (.of_console rfl rfl rfl rfl fun cell => by cases cell <;> rfl)
  | recordInventory requester index occupied =>
    exact hnone (wrote_recordInventory requester index occupied)
  | recordSlot requester index belief => exact exists_wrote_record requester index .slot belief
  | recordNeighbor requester index f belief =>
    exact exists_wrote_record requester index (fun i => .neighbor i f) belief
  | selectHotbar index => exact hnone (wrote_selectHotbar index)
  | cacheLoad i => exact exists_wrote_cacheLoad h i
  | cacheStore customName facing => exact hnone (wrote_cacheStore customName facing)
  | cacheClear =>
    rw [b.perform_cacheClear]
    exact hnone (wrote_discardAll _ b.site)

end Request

/-! ### Whole runs -/

/-- However laying out ends, the console is on the way to the new work area, or over it. -/
theorem console_layOut (dimension : Word) (center : Position) (s : Site World) :
    ∃ p, ((layOut dimension center).run s).site.console =
        (s.console.relocated dimension center).movedTo p ∨
      ((layOut dimension center).run s).site.console =
        laidOut ((s.console.relocated dimension center).movedTo p) := by
  cases hsafe : isUnsafeCenter s.console.settings center with
  | true =>
    rw [run_layOut_refused hsafe]
    exact ⟨s.console.position, .inl rfl⟩
  | false =>
    cases hr : ((layOut dimension center).run s).result with
    | ok x =>
      obtain ⟨hconsole, -⟩ := ends_buildArea_read (ends_of_layOut hr)
      exact ⟨center, .inr hconsole⟩
    | error e =>
      rw [run_layOut_of_safe hsafe] at hr ⊢
      obtain ⟨p, -, hp⟩ := kept_buildArea s.console.settings dimension center _ e hr
      exact ⟨p, .inl hp⟩

/-- A console that is ready after laying out knows where its agent is. -/
theorem pose_layOut {dimension : Word} {center : Position}
    (h : ((layOut dimension center).run s).site.console.initialized = true) :
    ((layOut dimension center).run s).site.console.position =
      ((layOut dimension center).run s).site.world.player := by
  cases hr : ((layOut dimension center).run s).result with
  | error e => exact absurd (h.symm.trans (blank_of_layOut_error hr).initialized) (by decide)
  | ok x =>
    obtain ⟨hconsole, name, states, -, -, halike⟩ := ends_buildArea_read (ends_of_layOut hr)
    rw [hconsole, halike.player, (rebuilt_builtOver ..).player]
    rfl

/-- No request changes the settings. -/
theorem Request.settings_perform (r : Request) {b : Bench World} (h : b.Orderly) :
    (r.perform b).bench.site.console.settings = b.site.console.settings := by
  cases hlay : r.isLayOut with
  | true =>
    obtain ⟨dimension, center, rfl⟩ := Request.exists_layOut hlay
    obtain ⟨p, hconsole | hconsole⟩ := console_layOut dimension center b.site
    · exact Eq.trans (congrArg Console.settings hconsole) rfl
    · exact Eq.trans (congrArg Console.settings hconsole) rfl
  | false =>
    obtain ⟨marks, -, hwrote⟩ := Request.exists_wrote hlay h
    exact hwrote.settings

namespace Bench.Orderly

variable {b b' : Bench World}

/-- What changes neither the entries nor the snapshots keeps the snapshots of single blocks. -/
theorem of_sameSnapshots (h : b.Orderly) (hentries : b'.cache.entries = b.cache.entries)
    (hs : SameSnapshots b.site.world b'.site.world) (hpose : b'.site.console.initialized = true →
      b'.site.console.position = b'.site.world.player) : b'.Orderly where
  pose := hpose
  single := by
    rw [hentries, hs.snapshots]
    exact h.single
  number := by
    rw [hentries, hs.next]
    exact h.number

/-- A snapshot that was just captured is of a single block, and the older ones stay. -/
theorem captured (h : b.Orderly) {key : UInt64} {c : Container} {id : SnapshotId} {w : World}
    {found : Option Block} (hw : World.Captured b.site.world w id (.ofBlock found))
    {cache : Cache} (hcache : cache.entries = b.cache.entries ++ [(key, ⟨id, c⟩)]) :
    Bench.Orderly ⟨{ b.site with world := w }, cache⟩ where
  pose hready := (h.pose hready).trans hw.player.symm
  single e he snapshot hget := by
    rw [hcache, List.mem_append, List.mem_singleton] at he
    rcases he with he | rfl
    · exact h.single e he snapshot ((hw.older (h.number e he)).symm.trans hget)
    · exact ⟨found, Option.some.inj (hget.symm.trans hw.kept)⟩
  number e he := by
    rw [hcache, List.mem_append, List.mem_singleton] at he
    rcases he with he | rfl
    · exact (h.number e he).trans_le hw.next_le
    · exact hw.number_lt

/-- Whatever is requested, the bench stays orderly. -/
theorem request (h : b.Orderly) (r : Request) : (r.perform b).bench.Orderly := by
  -- Where the agent is depends on whether a work area is laid out, and what the cache keeps on
  -- whether the request is about the cache, so the two are told apart.
  have hpose : (r.perform b).bench.site.console.initialized = true →
      (r.perform b).bench.site.console.position = (r.perform b).bench.site.world.player := by
    cases hlay : r.isLayOut with
    | true =>
      obtain ⟨dimension, center, rfl⟩ := Request.exists_layOut hlay
      exact pose_layOut
    | false =>
      obtain ⟨marks, -, hwrote⟩ := Request.exists_wrote hlay h
      exact fun hready => hwrote.pose (h.pose (hwrote.initialized ▸ hready))
  cases hbook : r.changesBook with
  | false =>
    exact h.of_sameSnapshots (r.entries_of_not_changesBook hbook b) (r.spares hbook b) hpose
  | true =>
    cases r with
    | cacheStore customName facing =>
      have hc := b.store_cases customName facing
      generalize (Request.cacheStore customName facing).perform b = t at hc hpose ⊢
      cases hc with
      | idle | absent | present => exact h
      | refused _ _ _ hr =>
        exact h.of_sameSnapshots rfl (World.alike_of_error hr).sameSnapshots hpose
      | captured _ _ _ hr => exact h.captured (World.captured_of_backup_self hr) rfl
    | cacheClear =>
      rw [b.perform_cacheClear] at hpose ⊢
      exact ⟨hpose, by simp, by simp⟩
    | _ => exact absurd hbook Bool.false_ne_true

theorem after (h : b.Orderly) (t : Turn) : (b.after t).Orderly := by
  cases t with
  | request r => exact h.request r
  | fail kind => exact ⟨h.pose, h.single, h.number⟩
  | recover kind => exact ⟨h.pose, h.single, h.number⟩
  | loseTeleports lose => exact ⟨h.pose, h.single, h.number⟩
  | outside requester i f name states =>
    rw [after_outside]
    have hput := World.rebuilt_put b.site.world (b.site.console.slotPosition i + f.offset) name
      states
    refine h.of_sameSnapshots rfl hput.sameSnapshots fun hready => ?_
    exact (h.pose hready).trans hput.player.symm

/-- Whatever happens, a bench stays orderly. -/
theorem play (h : b.Orderly) (turns : List Turn) : (b.play turns).Orderly := by
  induction turns generalizing b with
  | nil => exact h
  | cons t rest ih => exact ih (h.after t)

theorem new (settings : Settings) (world : World) : (Bench.new settings world).Orderly where
  pose hready := absurd hready Bool.false_ne_true
  single := by simp [Bench.new]
  number := by simp [Bench.new]

end Bench.Orderly

/-- Whatever happens, the settings stay. -/
theorem Bench.settings_play {b : Bench World} (h : b.Orderly) (turns : List Turn) :
    (b.play turns).site.console.settings = b.site.console.settings := by
  induction turns generalizing b with
  | nil => rfl
  | cons t rest ih =>
    refine (ih (h.after t)).trans ?_
    cases t with
    | request r => exact r.settings_perform h
    | outside requester i f name states =>
      rw [Bench.after_outside]
      exact apply_settings ..
    | _ => rfl

end BlockConsole
