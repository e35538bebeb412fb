import BlockConsole.Proofs.Console.Coverage
import BlockConsole.Proofs.Console.LayOut

/-!
# Failed requests leave no trace

An environment may refuse any action at any time. Whatever it does, a request that fails with an
action error leaves the memory of the console as it was, except that the agent may have moved, and
then by a teleport that the environment acknowledged (`Kept`). Opening a slot may also have cleared
the side that the container in the slot needs, if the environment acknowledged that
(`SideCleared`). The cache keeps its entries, also when a snapshot cannot be put back. Laying out is
different: when it fails, the console is not usable and knows nothing.

`kept` and `keptButSide` are these two relations as frames. Both are tidy, so everything follows
from the lemmas about tidy frames.
-/

namespace BlockConsole

open Work Console

variable {W : Type}

/-! ### What may be left behind -/

/-- Among some events, a teleport to a position was acknowledged as a success. -/
def Teleported (events : List Event) (p : Position) : Prop :=
  ∃ timeout a, Event.acted (.send (.teleport p) timeout) (.ok a) ∈ events ∧ a.isSuccess = true

/-- Among some events, the placement of air at a position was acknowledged. -/
def Emptied (events : List Event) (p : Position) : Prop :=
  Event.acted (.placeBlock p BlockName.air BlockStates.empty.text) (.ok ()) ∈ events

theorem Teleported.mono {es fs : List Event} {p : Position} (h : Teleported es p)
    (hsub : ∀ e ∈ es, e ∈ fs) : Teleported fs p := by
  obtain ⟨timeout, a, hmem, hok⟩ := h
  exact ⟨timeout, a, hsub _ hmem, hok⟩

/-- A position where the agent of a console may stand after some events: where it stood, or where
an acknowledged teleport brought it. -/
def Strayed (c : Console) (events : List Event) (p : Position) : Prop :=
  p = c.position ∨ Teleported events p

theorem Strayed.trans {c : Console} {es fs : List Event} {p q : Position} (h₁ : Strayed c es p)
    (h₂ : Strayed (c.movedTo p) fs q) : Strayed c (es ++ fs) q := by
  rcases h₂ with rfl | h₂
  · exact h₁.imp_right fun h => h.mono fun _ => List.mem_append_left fs
  · exact .inr (h₂.mono fun _ => List.mem_append_right es)

/-- The console is **kept**: nothing but its position has changed, and that only by acknowledged
teleports. -/
def Kept (s s' : Site W) (events : List Event) : Prop :=
  ∃ p, Strayed s.console events p ∧ s'.console = s.console.movedTo p

/-- The side of a slot was **cleared**: the console is kept but for that neighbor, which became air,
and the environment acknowledged that it placed air there. -/
def SideCleared (i : Slot) (f : Facing) (s s' : Site W) (events : List Event) : Prop :=
  ∃ p, Strayed s.console events p ∧
    s'.console = (s.console.movedTo p).apply (.neighbor i f .air) ∧
    Emptied events (s.console.slotPosition i + f.offset)

/-- Keeping the console, as a frame. -/
def kept (W : Type) : Frame W where
  Allows := Kept
  quiet s _ := ⟨s.console.position, .inl rfl, rfl⟩
  trans := by
    rintro s₁ s₂ s₃ es fs ⟨p, hp, h₁⟩ ⟨q, hq, h₂⟩
    rw [h₁] at hq h₂
    exact ⟨q, hp.trans hq, h₂⟩

/-- Clearing a neighbor twice is clearing it once. -/
theorem Console.apply_neighbor_idem (c : Console) (i : Slot) (f : Facing) (b : Belief) :
    (c.apply (.neighbor i f b)).apply (.neighbor i f b) = c.apply (.neighbor i f b) := by
  simp [Console.apply]

/-- Keeping the console, or clearing a side of a slot, as a frame. -/
def keptButSide (W : Type) (i : Slot) (f : Facing) : Frame W where
  Allows s s' events := Kept s s' events ∨ SideCleared i f s s' events
  quiet s _ := .inl ⟨s.console.position, .inl rfl, rfl⟩
  trans := by
    intro s₁ s₂ s₃ es fs h₁ h₂
    rcases h₁ with h₁ | ⟨p, hp, h₁, he₁⟩
    · obtain ⟨p, hp, h₁'⟩ := id h₁
      refine h₂.imp ((kept W).trans h₁) ?_
      rintro ⟨q, hq, h₂, he₂⟩
      rw [h₁'] at hq h₂ he₂
      exact ⟨q, hp.trans hq, h₂, List.mem_append_right es he₂⟩
    · -- The side was cleared before, and may be cleared once more.
      have hend : ∃ q, Strayed (s₁.console.movedTo p) fs q ∧
          s₃.console = (s₁.console.movedTo q).apply (.neighbor i f .air) := by
        rcases h₂ with ⟨q, hq, h₂⟩ | ⟨q, hq, h₂, -⟩
        · rw [h₁] at hq h₂
          exact ⟨q, hq, h₂⟩
        · rw [h₁] at hq h₂
          exact ⟨q, hq, h₂.trans (apply_neighbor_idem (s₁.console.movedTo q) i f .air)⟩
      obtain ⟨q, hq, h₃⟩ := hend
      exact .inr ⟨q, hp.trans hq, h₃, List.mem_append_left fs he₁⟩

theorem Blank.of_kept {s s' : Site W} {events : List Event} (h : Blank s.console)
    (hk : Kept s s' events) : Blank s'.console := by
  obtain ⟨p, -, hp⟩ := hk
  rw [hp]
  exact ⟨h.initialized, h.slot, h.neighbor, h.inventory⟩

/-! ### Both frames are tidy -/

variable [Environment W]

/-- Taking an action leaves the console alone. -/
theorem kept_siteAfter (a : Action) (s : Site W) (events : List Event) :
    Kept s (siteAfter a s) events :=
  ⟨s.console.position, .inl rfl, rfl⟩

theorem kept_act (a : Action) (s : Site W) : Within (kept W) (act a) s := by
  rw [Within, run_act]
  exact kept_siteAfter a s _

theorem kept_sendChecked (c : Command) (timeout : Nat) (s : Site W) :
    Within (kept W) (sendChecked c timeout) s := by
  rw [Within, run_sendChecked]
  exact kept_siteAfter _ s _

/-- A teleport that counts as a success was acknowledged as one. -/
theorem teleported_of_outcome {s : Site W} {target : Position} {a : Acknowledgment}
    (h : teleportOutcome s target = .ok a) :
    Teleported (actEvents (teleportAction s target) s.world) target := by
  cases hr : (Environment.respond (teleportAction s target) s.world).reply with
  | error e =>
    rw [teleportOutcome, hr] at h
    simp [Command.outcome] at h
  | ok a' =>
    rw [teleportOutcome, hr] at h
    simp only [Command.outcome] at h
    split at h
    · next hok =>
      exact ⟨s.console.settings.teleportTimeout, a', acted_mem_actEvents hr, hok⟩
    · simp at h

theorem kept_teleport (target : Position) (s : Site W) :
    Within (kept W) (teleport target) s := by
  rw [Within]
  cases h : teleportOutcome s target with
  | error e =>
    rw [run_teleport_of_error h]
    exact kept_siteAfter _ s _
  | ok a =>
    rw [run_teleport_of_ok h]
    exact ⟨target, .inr (teleported_of_outcome h), rfl⟩

theorem kept_approach (target : Position) (s : Site W) :
    Within (kept W) (approach target) s :=
  within_approach (kept_teleport target) s

theorem kept_tidy : (kept W).Tidy where
  approach := kept_approach
  act a s := (kept_act a s).failsWithin

theorem keptButSide_tidy (i : Slot) (f : Facing) : (keptButSide W i f).Tidy where
  approach target s := .inl (kept_approach target s)
  act a s _ _ := .inl (kept_act a s)

/-- Clearing a side of a slot stays within its frame. -/
theorem keptButSide_clearNeighbor (i : Slot) (f : Facing) (s : Site W) :
    Within (keptButSide W i f) (clearNeighbor i f) s := by
  rw [Within, clearNeighbor, run_bind_of_ok (run_console s)]
  dsimp only [Outcome.after_nil]
  split
  · exact (keptButSide W i f).refl s
  · have happ := kept_approach (s.console.slotPosition i + f.offset) s
    refine approach_act_cases (fun o => (keptButSide W i f).Allows s o.site o.events) ?_ ?_ ?_
    · intro e s₁ es h
      rw [Within, h] at happ
      exact .inl happ
    · intro e s₁ es h _
      rw [Within, h] at happ
      exact .inl ((kept W).trans happ (kept_siteAfter _ s₁ _))
    · intro x s₁ es h hr
      rw [Within, h] at happ
      obtain ⟨p, hp, h₁⟩ : Kept s s₁ es := happ
      have hact := acted_mem_actEvents hr
      rw [run_bind_of_ok (run_announce ..), run_log]
      refine .inr ⟨p, ?_, ?_, ?_⟩
      · exact hp.imp_right fun ht => ht.mono fun e he =>
          List.mem_append_left _ (List.mem_append_left _ he)
      · simp [h₁]
      · exact List.mem_append_left _ (List.mem_append_right _ hact)

/-! ### Laying out -/

/-- Until the very end, building a work area changes nothing in the console but its position. -/
theorem kept_buildArea (settings : Settings) (dimension : Word) (center : Position) (s : Site W) :
    FailsWithin (kept W) (buildArea settings dimension center) s :=
  .bind within_log fun _ _ => .bind within_logAll fun _ _ =>
    .bind (kept_sendChecked _ _ _) fun _ _ => .bind (kept_teleport _ _) fun _ _ =>
    .bind (kept_sendChecked _ _ _) fun _ _ => .bind (kept_sendChecked _ _ _) fun _ _ =>
    .bind (kept_sendChecked _ _ _) fun _ _ => .bind (kept_act _ _) fun _ _ =>
    (total_update.bind fun _ => total_log).failsWithin _

theorem blank_of_layOut_error {s : Site W} {dimension : Word} {center : Position} {e : Failure}
    (h : ((layOut dimension center).run s).result = .error e) :
    Blank ((layOut dimension center).run s).site.console := by
  have hblank : Blank (relocatedSite s dimension center).console := blank_relocated ..
  cases hsafe : isUnsafeCenter s.console.settings center with
  | true =>
    rw [run_layOut_refused hsafe]
    exact hblank
  | false =>
    rw [run_layOut_of_safe hsafe] at h ⊢
    exact hblank.of_kept (kept_buildArea _ _ _ _ e h)

/-! ### Requests -/

/-- The number of the slot that a request is to open. -/
def Request.opened? : Request → Option Nat
  | openSlot index => some index
  | openSlotAt o => some (Layout.slotAtOrCenter o).val
  | _ => none

omit [Environment W] in
/-- If the work of a request fails within a frame, then the request does, and the cache stays. -/
theorem Bench.failed_onSite {F : Frame W} {b : Bench W} {α : Type} {w : Work W Failure α}
    {e : Failure} (hw : FailsWithin F w b.site) (h : (b.onSite w).result = .error e) :
    (b.onSite w).bench.cache = b.cache ∧
      F.Allows b.site (b.onSite w).bench.site (b.onSite w).events :=
  ⟨rfl, hw e h⟩

/-- A request other than laying out and opening fails within the frame of keeping the console. -/
theorem Request.kept_of_error {b : Bench W} {r : Request} {e : Failure}
    (hlay : r.isLayOut = false) (hopen : r.opened? = none)
    (h : (r.perform b).result = .error e) :
    (r.perform b).bench.cache = b.cache ∧
      Kept b.site (r.perform b).bench.site (r.perform b).events := by
  have ht := kept_tidy (W := W)
  cases r with
  | layOut => simp [isLayOut] at hlay
  | openSlot => simp [opened?] at hopen
  | openSlotAt => simp [opened?] at hopen
  | approach target => exact Bench.failed_onSite (kept_approach target _).failsWithin h
  | obtainHelper kind => exact Bench.failed_onSite (ht.obtainHelper kind _) h
  | placeHelper requester index kind floor =>
    exact Bench.failed_onSite (ht.placeHelper requester index kind floor _) h
  | putInSlot requester index belief =>
    exact Bench.failed_onSite (ht.putInSlot requester index belief _) h
  | clearSlot requester index => exact Bench.failed_onSite (ht.clearSlot requester index _) h
  | selectHotbar index => exact Bench.failed_onSite (ht.selectHotbar index _) h
  | cacheStore customName facing =>
    have hc := b.store_cases customName facing
    generalize (cacheStore customName facing).perform b = t at hc h ⊢
    cases hc with
    | idle | absent => exact ⟨rfl, (kept W).refl b.site⟩
    | refused => exact ⟨rfl, kept_siteAfter _ b.site _⟩
    | present | captured => exact absurd h (by simp)
  | cacheLoad i =>
    have hc := b.load_cases i
    generalize (cacheLoad i).perform b = t at hc h ⊢
    cases hc with
    | idle => exact ⟨rfl, (kept W).refl b.site⟩
    | missed | refused | restored => exact absurd h (by simp)
  | cacheClear =>
    rw [b.perform_cacheClear] at h
    exact absurd h (by simp)
  | search | claimable | cacheCheck => simp [perform] at h
  | addObserver => exact absurd h (total_addObserver _ e)
  | removeObserver id => exact absurd h (total_removeObserver id _ e)
  | spareSlots includeCenter =>
    exact Bench.failed_onSite (F := kept W) (within_requireSpareSlots includeCenter).failsWithin h
  | recordInventory requester index occupied =>
    exact Bench.failed_onSite (F := kept W)
      (failsWithin_recordInventory requester index occupied) h
  | recordSlot requester index belief =>
    exact Bench.failed_onSite (F := kept W) (failsWithin_recordSlot requester index belief) h
  | recordNeighbor requester index f belief =>
    exact Bench.failed_onSite (F := kept W)
      (failsWithin_recordNeighbor requester index f belief) h
  | inventoryPlace excluding =>
    exact Bench.failed_onSite (F := kept W) (within_requireInventoryPlace excluding).failsWithin h

/-- A side of a slot that was cleared on the way to opening the container there. -/
def OpeningCleared (b : Bench W) (index : Nat) (t : Bench W) (events : List Event) : Prop :=
  ∃ (i : Slot) (c : Container) (f : Facing), i.val = index ∧
    b.site.console.slot i = .container c ∧ c.clearSide? = some f ∧
    SideCleared i f b.site t.site events

/-- Opening a slot fails within the frame of keeping the console, but for the side that the
container in the slot needs. -/
theorem openSlot_kept_of_error {b : Bench W} {index : Nat} {e : Failure}
    (h : (b.onSite (Console.openSlot index)).result = .error e) :
    Kept b.site (b.onSite (Console.openSlot index)).bench.site
        (b.onSite (Console.openSlot index)).events ∨
      OpeningCleared b index (b.onSite (Console.openSlot index)).bench
        (b.onSite (Console.openSlot index)).events := by
  -- The frame names the side to clear; where there is none, any side will do.
  by_cases hside : ∃ (i : Slot) (c : Container) (f : Facing), i.val = index ∧
      b.site.console.slot i = .container c ∧ c.clearSide? = some f
  · obtain ⟨i, c, f, hi, hc, hf⟩ := hside
    have hwork : FailsWithin (keptButSide W i f) (Console.openSlot index) b.site := by
      refine (keptButSide_tidy i f).openSlot fun i' c' f' hi' hc' hf' => ?_
      obtain rfl : i' = i := Fin.ext (hi'.trans hi.symm)
      obtain rfl : c' = c := by rw [hc] at hc'; exact (Belief.container.inj hc').symm
      obtain rfl : f' = f := by rw [hf] at hf'; exact (Option.some.inj hf').symm
      exact keptButSide_clearNeighbor i' f' b.site
    rcases (Bench.failed_onSite hwork h).2 with hk | hk
    · exact .inl hk
    · exact .inr ⟨i, c, f, hi, hc, hf, hk⟩
  · have hwork : FailsWithin (kept W) (Console.openSlot index) b.site :=
      kept_tidy.openSlot fun i c f hi hc hf => absurd ⟨i, c, f, hi, hc, hf⟩ hside
    exact .inl (Bench.failed_onSite hwork h).2

/-- Loading that finds nothing to put back, or fails to put it back, keeps the console and the
entries of the cache. -/
theorem kept_of_load_false {b : Bench W} {i : Identity}
    (h : ((Request.cacheLoad i).perform b).result = .ok false) :
    ((Request.cacheLoad i).perform b).bench.cache.entries = b.cache.entries ∧
      Kept b.site ((Request.cacheLoad i).perform b).bench.site
        ((Request.cacheLoad i).perform b).events := by
  have hc := b.load_cases i
  generalize (Request.cacheLoad i).perform b = t at hc h ⊢
  cases hc with
  | missed => exact ⟨rfl, (kept W).quiet _ [_]⟩
  | refused => exact ⟨rfl, kept_siteAfter _ b.site _⟩
  | idle | restored => exact absurd h (by simp)

/-- **Failed requests leave no trace**, whatever the environment does. With an action error, a
request other than laying out and opening leaves the cache as it is and keeps the console; opening
may also have cleared the side that the container needs; loading without success keeps the console
and the entries of the cache; and after any failure to lay out, the console knows nothing. -/
theorem failed_request_leaves (b : Bench W) :
    (∀ (r : Request) (e : ActionError), r.isLayOut = false → r.opened? = none →
      (r.perform b).result = .error (.error (.action e)) →
        (r.perform b).bench.cache = b.cache ∧
        Kept b.site (r.perform b).bench.site (r.perform b).events) ∧
    (∀ (r : Request) (index : Nat) (e : ActionError), r.opened? = some index →
      (r.perform b).result = .error (.error (.action e)) →
        (r.perform b).bench.cache = b.cache ∧
        (Kept b.site (r.perform b).bench.site (r.perform b).events ∨
          OpeningCleared b index (r.perform b).bench (r.perform b).events)) ∧
    (∀ i : Identity, ((Request.cacheLoad i).perform b).result = .ok false →
        ((Request.cacheLoad i).perform b).bench.cache.entries = b.cache.entries ∧
        Kept b.site ((Request.cacheLoad i).perform b).bench.site
          ((Request.cacheLoad i).perform b).events) ∧
    (∀ (dimension : Word) (center : Position) (e : Failure),
      ((Request.layOut dimension center).perform b).result = .error e →
        Blank ((Request.layOut dimension center).perform b).bench.site.console) := by
  refine ⟨fun r e hlay hopen h => Request.kept_of_error hlay hopen h, ?_,
    fun i h => kept_of_load_false h, fun dimension center e h => blank_of_layOut_error h⟩
  intro r index e hopen h
  cases r with
  | openSlot index' =>
    obtain rfl : index' = index := Option.some.inj hopen
    exact ⟨rfl, openSlot_kept_of_error h⟩
  | openSlotAt o =>
    obtain rfl : (Layout.slotAtOrCenter o).val = index := Option.some.inj hopen
    exact ⟨rfl, openSlot_kept_of_error h⟩
  | _ => simp [Request.opened?] at hopen

/-! ### An environment where nothing opens -/

/-- The only state of an environment that does as it is told, except that nothing ever opens. -/
inductive Jammed where
  | jammed

namespace Jammed

/-- The error of opening anything. -/
def stuck : ActionError := .rejected "open_container" "jammed"

instance : Environment Jammed where
  respond a w :=
    match a with
    | .placeBlock .. => ⟨.ok (), w, []⟩
    | .setHelper .. => ⟨.ok .empty, w, []⟩
    | .openContainer .. => ⟨.error stuck, w, []⟩
    | .holdSlot _ => ⟨.ok (), w, []⟩
    | .send .. => ⟨.ok (.success ""), w, []⟩
    | .backup .. => ⟨.ok ⟨1⟩, w, []⟩
    | .restore .. => ⟨.ok (), w, []⟩
    | .discard _ => ⟨.ok (), w, []⟩

/-- A chest in the center, with nothing known of the place above it, and the agent far away. -/
def bench : Bench Jammed where
  site.console :=
    { settings := {}
      initialized := true
      position := ⟨100, 0, 0⟩
      slots := (Vector.replicate 9 .unknown).set 0
        (.container ⟨"minecraft:chest", .empty, true, none⟩) }
  site.world := .jammed

end Jammed

/-- The agent teleports and clears the place above the chest before the chest turns out to be
stuck. -/
theorem failed_request_leaves_jammed_chest :
    ((Request.openSlot 0).perform Jammed.bench).result = .error (.error (.action Jammed.stuck)) ∧
      ((Request.openSlot 0).perform Jammed.bench).bench.cache = Jammed.bench.cache ∧
      (Kept Jammed.bench.site ((Request.openSlot 0).perform Jammed.bench).bench.site
          ((Request.openSlot 0).perform Jammed.bench).events ∨
        OpeningCleared Jammed.bench 0 ((Request.openSlot 0).perform Jammed.bench).bench
          ((Request.openSlot 0).perform Jammed.bench).events) :=
  have h : ((Request.openSlot 0).perform Jammed.bench).result =
      .error (.error (.action Jammed.stuck)) := by rfl
  ⟨h, (failed_request_leaves Jammed.bench).2.1 (.openSlot 0) 0 Jammed.stuck rfl h⟩

end BlockConsole
