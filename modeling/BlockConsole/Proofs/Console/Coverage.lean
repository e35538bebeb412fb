import BlockConsole.Proofs.Cache.Outcome
import BlockConsole.Proofs.Console.LayOut

/-!
# What the operations of a console are made of

Every operation of a console is composed of approaches, of choices of a hotbar slot, of actions that
do not concern the agent, and of changes that are announced. A frame that allows all of these
`Hosts` the console, and then every operation but laying out is within it, whatever the environment
replies. Which beliefs may be written into which slots is a parameter (`Change.Fills`), and so is
who may announce a change: each operation says what it needs to write, and on whose behalf.

An approach and the choice of a hotbar slot are made of an action and a silent update of where the
agent stands or what it holds. A frame that allows each of these by itself `Admits` the console.
Adding and removing observers updates who listens. A frame `Covers` the console if it allows this
too, and all other silent updates, and every requester.
-/

namespace BlockConsole

open Work Console

/-- Whether an action is one of the cache, which alone deals with snapshots. -/
def Action.ofCache (a : Action) : Bool :=
  match a with
  | backup .. => true
  | restore .. => true
  | discard _ => true
  | _ => false

/-- Whether an action may concern the agent, that is where it stands and what it holds. -/
def Action.concernsAgent (a : Action) : Bool :=
  match a with
  | send .. => true
  | holdSlot _ => true
  | _ => false

/-- A change **fills** slots only with beliefs that are allowed there. -/
def Change.Fills (allowed : Slot → Belief → Prop) : Change → Prop
  | slot i belief => allowed i belief
  | _ => True

/-- Two consoles **remember** the same if they differ at most in what changes without being
announced. -/
structure Console.SameMemory (c c' : Console) : Prop where
  slots : c'.slots = c.slots
  neighbors : c'.neighbors = c.neighbors
  inventory : c'.inventory = c.inventory

/-- The helper that a belief is in, if it is in one. -/
def Belief.helper? : Belief → Option Helper
  | anvil _ => some .anvil
  | loom => some .loom
  | _ => none

variable {W : Type} [Environment W]

/-- A frame **covers** the console if it allows its actions, the announced changes that fill slots
as allowed, and the silent updates. -/
structure Frame.Covers (F : Frame W) (allowed : Slot → Belief → Prop) : Prop where
  act : ∀ (a : Action) (s : Site W), a.ofCache = false →
    F.Allows s (siteAfter a s) (actEvents a s.world)
  change : ∀ (requester : String) (change : Change) (s : Site W), change.Fills allowed →
    Within F (announce requester change : Work W Failure Unit) s
  update : ∀ (g : Console → Console) (s : Site W), (∀ c, Console.SameMemory c (g c)) →
    Within F (Work.update g : Work W Failure Unit) s

/-- A frame **admits** the operations of a console if it allows its actions, the changes that fill
slots as allowed and are announced on behalf of those who may speak, and the silent updates of where
the agent stands and what it holds. -/
structure Frame.Admits (F : Frame W) (speaks : String → Prop) (allowed : Slot → Belief → Prop) :
    Prop where
  act : ∀ (a : Action) (s : Site W), a.ofCache = false →
    F.Allows s (siteAfter a s) (actEvents a s.world)
  change : ∀ (requester : String) (change : Change) (s : Site W), speaks requester →
    change.Fills allowed → Within F (announce requester change : Work W Failure Unit) s
  move : ∀ (p : Position) (s : Site W),
    Within F (Work.update fun c => { c with position := p } : Work W Failure Unit) s
  hold : ∀ (slot : Nat) (s : Site W),
    Within F (Work.update fun c => { c with hotbarSlot := slot } : Work W Failure Unit) s

/-- A frame **hosts** the operations of a console if it allows its actions that do not concern the
agent, the changes that fill slots as allowed and are announced on behalf of those who may speak,
and on the whole an approach and the choice of a hotbar slot. -/
structure Frame.Hosts (F : Frame W) (speaks : String → Prop) (allowed : Slot → Belief → Prop) :
    Prop where
  act : ∀ (a : Action) (s : Site W), a.ofCache = false → a.concernsAgent = false →
    F.Allows s (siteAfter a s) (actEvents a s.world)
  change : ∀ (requester : String) (change : Change) (s : Site W), speaks requester →
    change.Fills allowed → Within F (announce requester change : Work W Failure Unit) s
  approach : ∀ (target : Position) (s : Site W), Within F (Console.approach target) s
  selectHotbar : ∀ (index : Nat) (s : Site W), Within F (Console.selectHotbar index) s

theorem Frame.Covers.admits {F : Frame W} {allowed : Slot → Belief → Prop} (hF : F.Covers allowed) :
    F.Admits (fun _ => True) allowed where
  act := hF.act
  change requester change s _ := hF.change requester change s
  move _ s := hF.update _ s fun _ => ⟨rfl, rfl, rfl⟩
  hold _ s := hF.update _ s fun _ => ⟨rfl, rfl, rfl⟩

namespace Frame.Admits

variable {F : Frame W} {speaks : String → Prop} {allowed : Slot → Belief → Prop}
  (hF : F.Admits speaks allowed)

include hF

theorem takeAction (a : Action) (s : Site W) (ha : a.ofCache = false) :
    Within F (Work.act a) s := by
  rw [Within, run_act]
  exact hF.act a s ha

theorem sendChecked (c : Command) (timeout : Nat) (s : Site W) :
    Within F (Work.sendChecked c timeout) s := by
  rw [Within, run_sendChecked]
  exact hF.act (.send c timeout) s rfl

theorem teleport (target : Position) (s : Site W) : Within F (Console.teleport target) s := by
  exact within_read (.bind (hF.sendChecked _ _ s) fun _ _ => hF.move target _)

theorem approach (target : Position) (s : Site W) : Within F (Console.approach target) s :=
  within_approach (hF.teleport target) s

theorem selectHotbar (index : Nat) (s : Site W) : Within F (Console.selectHotbar index) s :=
  within_selectHotbar fun _ => .bind (hF.takeAction _ _ rfl) fun _ _ => hF.hold index _

theorem hosts : F.Hosts speaks allowed where
  act a s ha _ := hF.act a s ha
  change := hF.change
  approach := hF.approach
  selectHotbar := hF.selectHotbar

/-- Building a work area is within the frame if this allows to believe in it at the end. -/
theorem buildArea (settings : Settings) (dimension : Word) (center : Position) (s : Site W)
    (hlaidOut : ∀ s : Site W, Within F (Work.update laidOut : Work W Failure Unit) s) :
    Within F (buildArea settings dimension center) s :=
  .bind within_log fun _ _ => .bind within_logAll fun _ _ =>
    .bind (hF.sendChecked _ _ _) fun _ _ => .bind (hF.teleport _ _) fun _ _ =>
    .bind (hF.sendChecked _ _ _) fun _ _ => .bind (hF.sendChecked _ _ _) fun _ _ =>
    .bind (hF.sendChecked _ _ _) fun _ _ => .bind (hF.takeAction _ _ rfl) fun _ _ =>
    .bind (hlaidOut _) fun _ _ => within_log

theorem layOut {dimension : Word} {center : Position} {s : Site W}
    (hforget : F.Allows s (relocatedSite s dimension center) [])
    (hlaidOut : ∀ s : Site W, Within F (Work.update laidOut : Work W Failure Unit) s) :
    Within F (Console.layOut dimension center) s :=
  within_layOut hforget (hF.buildArea _ dimension center _ hlaidOut)

end Frame.Admits

namespace Frame.Hosts

variable {F : Frame W} {speaks : String → Prop} {allowed : Slot → Belief → Prop}
  (hF : F.Hosts speaks allowed)

include hF

theorem takeAction (a : Action) (s : Site W) (ha : a.ofCache = false)
    (hagent : a.concernsAgent = false) : Within F (Work.act a) s := by
  rw [Within, run_act]
  exact hF.act a s ha hagent

theorem placeHelper {requester : String} {index : Nat} {kind : Helper} (floor : Bool) (s : Site W)
    (hwho : speaks requester)
    (hkind : ∀ (i : Slot) (states : BlockStates), i.val = index → allowed i (kind.belief states)) :
    Within F (Console.placeHelper requester index kind floor) s := by
  refine within_ready fun _ => within_slot fun i hi => within_read ?_
  refine .bind (hF.approach _ s) fun _ _ => .bind (hF.takeAction _ _ rfl rfl) fun states _ => ?_
  refine .bind within_log fun _ _ => ?_
  have hslot (s : Site W) :
      Within F (announce requester (.slot i (kind.belief states)) : Work W Failure Unit) s :=
    hF.change requester _ s hwho (hkind i states hi)
  cases floor with
  | false => exact hslot _
  | true => exact .bind (hF.change requester _ _ hwho trivial) fun _ _ => hslot _

theorem clearSlot {requester : String} {index : Nat} (s : Site W) (hwho : speaks requester)
    (hair : ∀ i : Slot, i.val = index → allowed i .air) :
    Within F (Console.clearSlot requester index) s := by
  refine within_ready fun _ => within_slot fun i hi => within_read ?_
  refine .bind (hF.approach _ s) fun _ _ => .bind (hF.takeAction _ _ rfl rfl) fun _ _ => ?_
  exact hF.change requester _ _ hwho (hair i hi)

theorem placeBlock {requester : String} {i : Slot} {b : Belief} (s : Site W)
    (hwho : speaks requester) (hb : allowed i b) :
    Within F (Console.placeBlock requester i b) s := by
  refine within_read (.bind (hF.approach _ s) fun _ _ => ?_)
  refine .bind (hF.takeAction _ _ rfl rfl) fun _ _ => .bind within_log fun _ _ => ?_
  exact hF.change requester _ _ hwho hb

/-- A helper may be placed with other states than those of the belief in it. -/
theorem putInSlot {requester : String} {index : Nat} {b : Belief} (s : Site W)
    (hwho : speaks requester)
    (hkind : ∀ (i : Slot) (kind : Helper) (states : BlockStates), i.val = index →
      b.helper? = some kind → allowed i (kind.belief states))
    (hb : ∀ i : Slot, i.val = index → b.helper? = none → allowed i b) :
    Within F (Console.putInSlot requester index b) s := by
  refine within_ready fun _ => within_slot fun i hi => within_read ?_
  match b with
  | .air => exact hF.clearSlot s hwho fun j hj => hb j hj rfl
  | .anvil _ => exact hF.placeHelper _ s hwho fun j states hj => hkind j .anvil states hj rfl
  | .loom => exact hF.placeHelper _ s hwho fun j states hj => hkind j .loom states hj rfl
  | .marker _ => exact within_refuse
  | .other false _ _ => exact within_refuse
  | .other true _ _ => exact hF.placeBlock s hwho (hb i hi rfl)
  | .container _ => exact hF.placeBlock s hwho (hb i hi rfl)

/-- A helper is placed only where a search did not find one. -/
theorem obtainHelper {kind : Helper} (s : Site W) (hwho : speaks Console.requester)
    (hkind : ∀ (i : Slot) (states : BlockStates), s.console.search? kind.test false = none →
      s.console.claimable? false = some i → allowed i (kind.belief states)) :
    Within F (Console.obtainHelper kind) s := by
  refine within_ready fun _ => within_read ?_
  cases hsearch : s.console.search? kind.test false with
  | some i => exact within_pure
  | none =>
    dsimp only
    cases hclaim : s.console.claimable? false with
    | none => exact within_fail
    | some i =>
      refine .bind (hF.placeHelper _ s hwho fun j states hj => ?_) fun _ _ => within_pure
      obtain rfl : j = i := Fin.ext hj
      exact hkind j states hsearch hclaim

theorem clearNeighbor (i : Slot) (f : Facing) (s : Site W) (hwho : speaks Console.requester) :
    Within F (Console.clearNeighbor i f) s := by
  refine within_read ?_
  split
  · exact within_pure
  · exact .bind (hF.approach _ s) fun _ _ => .bind (hF.takeAction _ _ rfl rfl) fun _ _ =>
      .bind (hF.change _ _ _ hwho trivial) fun _ _ => within_log

theorem openAt (i : Slot) (pos : Position) (name : String) (states : BlockStates) (s : Site W) :
    Within F (Console.openAt i pos name states) s := by
  refine .bind (hF.approach pos s) fun _ _ => .bind (hF.takeAction _ _ rfl rfl) fun opened _ => ?_
  cases opened with
  | false => exact .bind within_log fun _ _ => within_pure
  | true => exact within_pure

theorem openSlot (index : Nat) (s : Site W) (hwho : speaks Console.requester) :
    Within F (Console.openSlot index) s := by
  refine within_ready fun _ => within_slot fun i _ => within_read ?_
  cases (s.console.slot i).openable? with
  | none => exact within_refuse
  | some what =>
    obtain ⟨name, states, side⟩ := what
    cases side with
    | none => exact hF.openAt i _ name states s
    | some f => exact .bind (hF.clearNeighbor i f s hwho) fun _ _ => hF.openAt i _ name states _

theorem recordInventory {requester : String} (index : Nat) (occupied : Bool) (s : Site W)
    (hwho : speaks requester) :
    Within F (Console.recordInventory requester index occupied) s := by
  unfold Console.recordInventory
  split
  · exact hF.change requester _ s hwho trivial
  · exact within_refuse

theorem recordSlot {requester : String} {index : Nat} {b : Belief} (s : Site W)
    (hwho : speaks requester) (hb : ∀ i : Slot, i.val = index → allowed i b) :
    Within F (Console.recordSlot requester index b) s :=
  within_slot fun i hi => hF.change requester _ s hwho (hb i hi)

theorem recordNeighbor {requester : String} (index : Nat) (f : Facing) (b : Belief) (s : Site W)
    (hwho : speaks requester) : Within F (Console.recordNeighbor requester index f b) s :=
  within_slot fun _ _ => hF.change requester _ s hwho trivial

/-! ### The cache -/

theorem load (cache : Cache) (i : Identity) (s : Site W) (hwho : speaks Cache.requester)
    (hrestore : ∀ (id : SnapshotId) (pos : Position) (s : Site W),
      F.Allows s (siteAfter (.restore id pos) s) (actEvents (.restore id pos) s.world))
    (hcenter : ∀ c : Container, allowed Layout.centerSlot (.container c)) :
    Within F (cache.load i) s := by
  refine within_ready fun _ => ?_
  dsimp only
  cases cache.get? i.key with
  | none => exact .bind within_log fun _ _ => within_pure
  | some entry =>
    have hattempt : Within F (Work.attempt (.restore entry.snapshot s.console.center) :
        Work W Failure _) s := hrestore _ _ s
    refine within_read (.bind hattempt fun reply _ => ?_)
    cases reply with
    | error e => exact .bind within_log fun _ _ => within_pure
    | ok x =>
      refine .bind (hF.change _ _ _ hwho (hcenter entry.container)) fun _ _ => ?_
      exact .bind within_log fun _ _ => within_pure

end Frame.Hosts

/-- Storing takes only one action. -/
theorem Cache.within_store {F : Frame W} (cache : Cache) (customName : String)
    (facing : Option Facing) (s : Site W)
    (hbackup : ∀ (start stop : Position) (s : Site W),
      F.Allows s (siteAfter (.backup start stop) s) (actEvents (.backup start stop) s.world)) :
    Within F (cache.store customName facing) s := by
  refine within_ready fun _ => within_read ?_
  cases (s.console.slot Layout.centerSlot).container? with
  | none => exact within_refuse
  | some c =>
    dsimp only
    split
    · exact within_pure
    · have hact : Within F (Work.act (.backup s.console.center s.console.center)) s := by
        rw [Within, run_act]
        exact hbackup _ _ s
      exact .bind hact fun _ _ => .bind within_log fun _ _ => within_pure

/-! ### Requests -/

namespace Request

/-- Whether a request may take an action of the cache. -/
def mayTake : Request → Action → Bool
  | cacheLoad _, .restore .. => true
  | cacheStore .., .backup .. => true
  | cacheClear, .discard _ => true
  | _, _ => false

/-- What a request, but for laying out, **may fill** a slot with. -/
def MayFill (c : Console) (i : Slot) (b : Belief) : Request → Prop
  | placeHelper _ index kind _ => i.val = index ∧ ∃ states, b = kind.belief states
  | putInSlot _ index belief => i.val = index ∧
      match belief.helper? with
      | some kind => ∃ states, b = kind.belief states
      | none => b = belief
  | clearSlot _ index => i.val = index ∧ b = .air
  | recordSlot _ index belief => i.val = index ∧ b = belief
  | obtainHelper kind => c.search? kind.test false = none ∧ c.claimable? false = some i ∧
      ∃ states, b = kind.belief states
  | cacheLoad _ => i = Layout.centerSlot ∧ ∃ container, b = .container container
  | _ => False

/-- Whether a request is to lay out a work area. -/
def isLayOut : Request → Bool
  | layOut .. => true
  | _ => false

theorem exists_layOut {r : Request} (h : r.isLayOut = true) :
    ∃ dimension center, r = .layOut dimension center := by
  cases r with
  | layOut dimension center => exact ⟨dimension, center, rfl⟩
  | _ => exact absurd h Bool.false_ne_true

/-- On whose **behalf** a request announces changes, if it announces any. -/
def speaker? : Request → Option String
  | placeHelper requester .. => some requester
  | putInSlot requester .. => some requester
  | clearSlot requester _ => some requester
  | recordInventory requester .. => some requester
  | recordSlot requester .. => some requester
  | recordNeighbor requester .. => some requester
  | obtainHelper _ => some Console.requester
  | openSlot _ => some Console.requester
  | openSlotAt _ => some Console.requester
  | cacheLoad _ => some Cache.requester
  | _ => none

/-- Whether a request is about who listens. -/
def concernsObservers : Request → Bool
  | addObserver => true
  | removeObserver _ => true
  | _ => false

end Request

omit [Environment W] in
/-- Work that yields a new cache is within a frame wherever it is without the cache. -/
theorem Bench.within_onCache {F : Frame W} {α : Type} {b : Bench W}
    {w : Work W Failure (α × Cache)} (h : Within F w b.site) :
    F.Allows b.site (b.onCache w).bench.site (b.onCache w).events := by
  have honCache : (b.onCache w).bench.site = (w.run b.site).site ∧
      (b.onCache w).events = (w.run b.site).events := by
    unfold onCache
    dsimp only
    split <;> exact ⟨rfl, rfl⟩
  rw [honCache.1, honCache.2]
  exact h

/-- A request other than laying out is within every frame that hosts the operations of the console,
if the frame also allows the actions of the cache that the request may take, and to update who
listens if the request is about that. -/
theorem Frame.Hosts.request {F : Frame W} {speaks : String → Prop}
    {allowed : Slot → Belief → Prop} (hF : F.Hosts speaks allowed) {r : Request} (b : Bench W)
    (hlay : r.isLayOut = false) (hwho : ∀ requester, r.speaker? = some requester → speaks requester)
    (hfill : ∀ i belief, r.MayFill b.site.console i belief → allowed i belief)
    (htake : ∀ (a : Action) (s : Site W), r.mayTake a = true →
      F.Allows s (siteAfter a s) (actEvents a s.world))
    (hlisten : r.concernsObservers = true → ∀ (o : Observers) (s : Site W),
      Within F (Work.update fun c => { c with observers := o } : Work W Failure Unit) s) :
    F.Allows b.site (r.perform b).bench.site (r.perform b).events := by
  cases r with
  | layOut => exact absurd hlay.symm Bool.false_ne_true
  | approach target => exact hF.approach target b.site
  | search | claimable | cacheCheck => exact F.refl b.site
  | spareSlots includeCenter => exact within_requireSpareSlots includeCenter
  | inventoryPlace excluding => exact within_requireInventoryPlace excluding
  | obtainHelper kind =>
    exact hF.obtainHelper b.site (hwho _ rfl) fun i states hsearch hclaim =>
      hfill i _ ⟨hsearch, hclaim, states, rfl⟩
  | placeHelper requester index kind floor =>
    exact hF.placeHelper floor b.site (hwho _ rfl) fun i states hi => hfill i _ ⟨hi, states, rfl⟩
  | putInSlot requester index belief =>
    refine hF.putInSlot b.site (hwho _ rfl) (fun i kind states hi hkind => hfill i _ ⟨hi, ?_⟩)
      fun i hi hnone => hfill i _ ⟨hi, ?_⟩
    · rw [hkind]
      exact ⟨states, rfl⟩
    · rw [hnone]
  | clearSlot requester index =>
    exact hF.clearSlot b.site (hwho _ rfl) fun i hi => hfill i _ ⟨hi, rfl⟩
  | openSlot index => exact hF.openSlot index b.site (hwho _ rfl)
  | openSlotAt o => exact hF.openSlot _ b.site (hwho _ rfl)
  | addObserver =>
    exact within_read (f := fun c => do Work.update _; pure c.observers.add.1)
      (.bind (hlisten rfl _ b.site) fun _ _ => within_pure)
  | removeObserver id =>
    exact within_read (f := fun c => do Work.update _; pure (c.observers.remove id).1)
      (.bind (hlisten rfl _ b.site) fun _ _ => within_pure)
  | recordInventory requester index occupied =>
    exact hF.recordInventory index occupied b.site (hwho _ rfl)
  | recordSlot requester index belief =>
    exact hF.recordSlot b.site (hwho _ rfl) fun i hi => hfill i _ ⟨hi, rfl⟩
  | recordNeighbor requester index f belief =>
    exact hF.recordNeighbor index f belief b.site (hwho _ rfl)
  | selectHotbar index => exact hF.selectHotbar index b.site
  | cacheLoad i =>
    exact Bench.within_onCache (hF.load b.cache i b.site (hwho _ rfl)
      (fun id pos s => htake _ s rfl) fun c => hfill _ _ ⟨rfl, c, rfl⟩)
  | cacheStore customName facing =>
    refine Bench.within_onCache (.bind ?_ fun _ _ => within_pure)
    exact Cache.within_store b.cache customName facing b.site fun start stop s => htake _ s rfl
  | cacheClear =>
    have hdiscard := Cache.within_discardAll (ε := Failure) (fun id s => htake (.discard id) s rfl)
      (b.cache.entries.map Prod.snd) b.site
    exact Bench.within_onCache (.bind (.bind hdiscard fun _ _ => within_pure)
      fun _ _ => within_pure)

/-- So is it within every frame that covers the console. -/
theorem Frame.Covers.request {F : Frame W} {allowed : Slot → Belief → Prop} (hF : F.Covers allowed)
    {r : Request} (b : Bench W) (hlay : r.isLayOut = false)
    (hfill : ∀ i belief, r.MayFill b.site.console i belief → allowed i belief)
    (htake : ∀ (a : Action) (s : Site W), r.mayTake a = true →
      F.Allows s (siteAfter a s) (actEvents a s.world)) :
    F.Allows b.site (r.perform b).bench.site (r.perform b).events :=
  hF.admits.hosts.request b hlay (fun _ _ => trivial) hfill htake fun _ _ s =>
    hF.update _ s fun _ => ⟨rfl, rfl, rfl⟩

/-- Laying out is no exception if the frame also allows to forget everything and to believe in a
work area that was just laid out. -/
theorem Frame.Covers.perform {F : Frame W} (hF : F.Covers fun _ _ => True)
    (hforget : ∀ (s : Site W) (dimension : Word) (center : Position),
      F.Allows s (relocatedSite s dimension center) [])
    (hlaidOut : ∀ s : Site W, Within F (Work.update laidOut : Work W Failure Unit) s)
    {r : Request} (b : Bench W)
    (htake : ∀ (a : Action) (s : Site W), r.mayTake a = true →
      F.Allows s (siteAfter a s) (actEvents a s.world)) :
    F.Allows b.site (r.perform b).bench.site (r.perform b).events := by
  cases hlay : r.isLayOut with
  | false => exact hF.request b hlay (fun _ _ _ => trivial) htake
  | true =>
    obtain ⟨dimension, center, rfl⟩ := Request.exists_layOut hlay
    exact hF.admits.layOut (hforget b.site dimension center) hlaidOut

end BlockConsole
