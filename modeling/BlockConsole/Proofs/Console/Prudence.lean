import BlockConsole.Proofs.Console.Idleness

/-!
# Preconditions come first

An operation that is refused over a precondition must not have done anything by then. Operations
check at several levels: putting a block into a slot clears the slot or places a helper, which
approach the slot, and each of these asks anew whether there is a work area. Work is `Committed` if
no precondition can fail any more, and `Prudent` if it has no effect where one does. Checks are
prudent, and prudent work that only committed work follows is prudent (`Work.Prudent.bind`). So each
operation is prudent, because all that comes after its own checks is committed
(`Request.prudent_perform`).
-/

namespace BlockConsole

open Work Console

variable {W : Type}

/-! ### Committed and prudent work -/

namespace Work

variable {α β : Type} {w : Work W Failure α} {f : α → Work W Failure β} {s : Site W}

/-- Work is **committed** at a site if it does not fail there over a precondition. -/
def Committed (w : Work W Failure α) (s : Site W) : Prop :=
  ∀ e : ConsoleError, (w.run s).result = .error (.error e) → e.isPrecondition = false

/-- Work is **prudent** at a site if it has no effect should it fail there over a precondition. -/
def Prudent (w : Work W Failure α) (s : Site W) : Prop :=
  ∀ e : ConsoleError, (w.run s).result = .error (.error e) → e.isPrecondition = true →
    (w.run s).site = s ∧ (w.run s).events = []

theorem Total.committed (h : Total w) (s : Site W) : Committed w s := fun _ he => absurd he (h s _)

theorem Committed.prudent (h : Committed w s) : Prudent w s :=
  fun e he hpre => absurd ((h e he).symm.trans hpre) Bool.false_ne_true

theorem Committed.bind (hw : Committed w s)
    (hf : ∀ a, (w.run s).result = .ok a → Committed (f a) (w.run s).site) :
    Committed (w >>= f) s := by
  intro e
  rw [run_bind]
  cases h : (w.run s).result with
  | error e' =>
    rintro ⟨⟩
    exact hw e h
  | ok a => exact hf a h e

/-- Prudent work, followed by committed work. -/
theorem Prudent.bind (hw : Prudent w s)
    (hf : ∀ a, (w.run s).result = .ok a → Committed (f a) (w.run s).site) :
    Prudent (w >>= f) s := by
  intro e
  rw [run_bind]
  cases h : (w.run s).result with
  | error e' =>
    rintro ⟨⟩ hpre
    exact hw e h hpre
  | ok a => exact fun he hpre => absurd ((hf a h e he).symm.trans hpre) Bool.false_ne_true

theorem prudent_read {f : Console → Work W Failure α} (h : Prudent (f s.console) s) :
    Prudent (Work.console >>= f) s := by
  rw [Prudent, run_bind_of_ok (run_console s)]
  exact h

theorem committed_read {f : Console → Work W Failure α} (h : Committed (f s.console) s) :
    Committed (Work.console >>= f) s := by
  rw [Committed, run_bind_of_ok (run_console s)]
  exact h

theorem prudent_refuse (e : ConsoleError) : Prudent (refuse e : Work W Failure α) s :=
  fun _ _ _ => ⟨rfl, rfl⟩

theorem committed_broken (invariant : BrokenInvariant) :
    Committed (fail (.broken invariant) : Work W Failure α) s := by simp [Committed]

end Work

/-! ### The operations of the console -/

namespace Console

variable {s : Site W}

theorem prudent_ready {α : Type} {f : Unit → Work W Failure α}
    (h : s.console.initialized = true → Prudent (f ()) s) : Prudent (requireReady >>= f) s := by
  cases hready : s.console.initialized with
  | false =>
    rw [Prudent, run_bind_of_error (run_requireReady_of_not hready)]
    exact fun _ _ _ => ⟨rfl, rfl⟩
  | true =>
    rw [Prudent, run_bind_of_ok (run_requireReady hready)]
    exact h hready

theorem committed_ready {α : Type} {f : Unit → Work W Failure α}
    (hready : s.console.initialized = true) (h : Committed (f ()) s) :
    Committed (requireReady >>= f) s := by
  rw [Committed, run_bind_of_ok (run_requireReady hready)]
  exact h

theorem prudent_slot {α : Type} {index : Nat} {f : Slot → Work W Failure α}
    (h : ∀ i : Slot, i.val = index → Prudent (f i) s) : Prudent (slotOf index >>= f) s := by
  rcases Nat.lt_or_ge index 9 with hlt | hge
  · rw [Prudent, run_bind_of_ok (run_slotOf ⟨index, hlt⟩ s)]
    exact h ⟨index, hlt⟩ rfl
  · rw [Prudent, run_bind_of_error (run_slotOf_of_le hge s)]
    exact fun _ _ _ => ⟨rfl, rfl⟩

theorem committed_requireSpareSlots (includeCenter : Bool) :
    Committed (requireSpareSlots includeCenter) s := by
  refine committed_read ?_
  split
  · exact committed_broken _
  · exact total_pure.committed s

theorem committed_requireInventoryPlace (excluding : List Nat) :
    Committed (requireInventoryPlace excluding) s := by
  refine committed_read ?_
  split
  · exact total_pure.committed s
  · exact committed_broken _

theorem prudent_recordInventory (requester : String) (index : Nat) (occupied : Bool) :
    Prudent (recordInventory requester index occupied) s := by
  unfold recordInventory
  split
  · exact (total_announce.committed s).prudent
  · exact prudent_refuse _

theorem prudent_recordSlot (requester : String) (index : Nat) (belief : Belief) :
    Prudent (recordSlot requester index belief) s :=
  prudent_slot fun _ _ => (total_announce.committed s).prudent

theorem prudent_recordNeighbor (requester : String) (index : Nat) (f : Facing) (belief : Belief) :
    Prudent (recordNeighbor requester index f belief) s :=
  prudent_slot fun _ _ => (total_announce.committed s).prudent

variable [Environment W]

/-- The error of an action is no precondition. -/
theorem isPrecondition_of_mapError {α : Type} {reply : Except ActionError α} {e : ConsoleError}
    (h : reply.mapError (fun cause => Failure.error (.action cause)) = .error (.error e)) :
    e.isPrecondition = false := by
  cases reply with
  | error cause =>
    injection h with h
    injection h with h
    rw [← h]
    rfl
  | ok x => exact absurd h (by simp)

theorem committed_act (a : Action) : Committed (act a) s := by
  intro e he
  rw [run_act] at he
  exact isPrecondition_of_mapError he

theorem committed_sendChecked (c : Command) (timeout : Nat) :
    Committed (sendChecked c timeout) s := by
  intro e he
  rw [run_sendChecked] at he
  exact isPrecondition_of_mapError he

theorem committed_teleport (target : Position) : Committed (teleport target) s :=
  committed_read (.bind (committed_sendChecked _ _) fun _ _ => total_update.committed _)

/-- A console with a work area has met the only precondition of an approach. -/
theorem committed_approach (hready : s.console.initialized = true) (target : Position) :
    Committed (approach target) s := by
  refine committed_ready hready (committed_read ?_)
  dsimp only
  split
  · exact total_pure.committed s
  · exact .bind (total_log.committed s) fun _ _ => committed_teleport target

theorem prudent_approach (target : Position) : Prudent (approach target) s := by
  cases hready : s.console.initialized with
  | false =>
    rw [Prudent, run_approach_of_not hready]
    exact fun _ _ _ => ⟨rfl, rfl⟩
  | true => exact (committed_approach hready target).prudent

/-- An approach to a target and an action there, followed by work that never fails. -/
theorem committed_approach_act {α : Type} {target : Position} {a : Action}
    {f : a.Reply → Work W Failure α} (hready : s.console.initialized = true)
    (hf : ∀ x, Total (f x)) :
    Committed (do approach target; let x ← Work.act a; f x) s :=
  .bind (committed_approach hready target) fun _ _ =>
    .bind (committed_act a) fun x _ => (hf x).committed _

theorem prudent_placeHelper (requester : String) (index : Nat) (kind : Helper) (floor : Bool) :
    Prudent (placeHelper requester index kind floor) s := by
  refine prudent_ready fun hready => prudent_slot fun i _ => prudent_read ?_
  refine (committed_approach_act hready fun states => ?_).prudent
  refine total_log.bind fun _ => ?_
  cases floor with
  | false => exact total_announce
  | true => exact total_announce.bind fun _ => total_announce

theorem prudent_clearSlot (requester : String) (index : Nat) :
    Prudent (clearSlot requester index) s :=
  prudent_ready fun hready => prudent_slot fun _ _ => prudent_read
    (committed_approach_act hready fun _ => total_announce).prudent

theorem committed_placeBlock (hready : s.console.initialized = true) (requester : String) (i : Slot)
    (belief : Belief) : Committed (placeBlock requester i belief) s :=
  committed_read (committed_approach_act hready fun _ => total_log.bind fun _ => total_announce)

/-- The slot is cleared or the helper is placed by operations that check once more. -/
theorem prudent_putInSlot (requester : String) (index : Nat) (belief : Belief) :
    Prudent (putInSlot requester index belief) s := by
  refine prudent_ready fun hready => prudent_slot fun i _ => prudent_read ?_
  match belief with
  | .air => exact prudent_clearSlot requester index
  | .anvil _ => exact prudent_placeHelper requester index .anvil _
  | .loom => exact prudent_placeHelper requester index .loom _
  | .marker _ => exact prudent_refuse _
  | .other false _ _ => exact prudent_refuse _
  | .other true _ _ => exact (committed_placeBlock hready requester i _).prudent
  | .container _ => exact (committed_placeBlock hready requester i _).prudent

/-- The helper is placed by an operation that checks once more, and then there is only its slot to
answer with. -/
theorem prudent_obtainHelper (kind : Helper) : Prudent (obtainHelper kind) s := by
  refine prudent_ready fun _ => prudent_read ?_
  split
  · exact (total_pure.committed s).prudent
  · split
    · exact (committed_broken _).prudent
    · exact .bind (prudent_placeHelper _ _ kind _) fun _ _ => total_pure.committed _

theorem committed_clearNeighbor (hready : s.console.initialized = true) (i : Slot) (f : Facing) :
    Committed (clearNeighbor i f) s := by
  refine committed_read ?_
  split
  · exact total_pure.committed s
  · exact committed_approach_act hready fun _ => total_announce.bind fun _ => total_log

theorem committed_openAt (hready : s.console.initialized = true) (i : Slot) (pos : Position)
    (name : String) (states : BlockStates) : Committed (openAt i pos name states) s := by
  refine committed_approach_act hready fun opened => ?_
  cases opened with
  | false => exact total_log.bind fun _ => total_pure
  | true => exact total_pure

/-- The approach to what is to be opened finds the work area as it was before the side was
cleared. -/
theorem prudent_openSlot (index : Nat) : Prudent (openSlot index) s := by
  refine prudent_ready fun hready => prudent_slot fun i _ => prudent_read ?_
  cases (s.console.slot i).openable? with
  | none => exact prudent_refuse _
  | some what =>
    obtain ⟨name, states, side⟩ := what
    cases side with
    | none => exact (committed_openAt hready i _ name states).prudent
    | some f =>
      -- Clearing the side has acted, so from here on nothing may be refused.
      have hstill : ((clearNeighbor i f).run s).site.console.initialized = true :=
        (settled_admits.hosts.clearNeighbor i f s trivial).trans hready
      refine (Committed.bind (committed_clearNeighbor hready i f) fun _ _ => ?_).prudent
      exact committed_openAt hstill i _ name states

theorem prudent_selectHotbar (index : Nat) : Prudent (selectHotbar index) s := by
  unfold selectHotbar
  split
  · exact prudent_refuse _
  · refine prudent_read ?_
    split
    · exact (total_pure.committed s).prudent
    · exact (Committed.bind (committed_act _) fun _ _ => total_update.committed _).prudent

/-- Once a center was found to be safe, laying out is committed. -/
theorem committed_buildArea (settings : Settings) (dimension : Word) (center : Position) :
    Committed (buildArea settings dimension center) s :=
  .bind (total_log.committed _) fun _ _ => .bind (by simp [Committed]) fun _ _ =>
    .bind (committed_sendChecked _ _) fun _ _ => .bind (committed_teleport _) fun _ _ =>
    .bind (committed_sendChecked _ _) fun _ _ => .bind (committed_sendChecked _ _) fun _ _ =>
    .bind (committed_sendChecked _ _) fun _ _ => .bind (committed_act _) fun _ _ =>
    (total_update.bind fun _ => total_log).committed _

end Console

/-! ### Requests -/

variable [Environment W]

omit [Environment W] in
theorem Bench.prudent_onSite {α : Type} {b : Bench W} {w : Work W Failure α}
    (hw : Prudent w b.site) {e : ConsoleError} (he : (b.onSite w).result = .error (.error e))
    (hpre : e.isPrecondition = true) : (b.onSite w).bench = b ∧ (b.onSite w).events = [] := by
  obtain ⟨hsite, hevents⟩ := hw e he hpre
  exact ⟨congrArg (fun s => { b with site := s }) hsite, hevents⟩

omit [Environment W] in
/-- Committed work never gets as far as that. -/
theorem Work.Committed.not_precondition {α : Type} {w : Work W Failure α} {s : Site W}
    (hw : Committed w s) {e : ConsoleError} (he : (w.run s).result = .error (.error e)) :
    e.isPrecondition ≠ true := by
  rw [hw e he]
  exact Bool.false_ne_true

/-- A request other than laying out that fails over a precondition has no effect. -/
theorem Request.prudent_perform {b : Bench W} {r : Request} {e : ConsoleError}
    (hlay : r.isLayOut = false) (he : (r.perform b).result = .error (.error e))
    (hpre : e.isPrecondition = true) : (r.perform b).bench = b ∧ (r.perform b).events = [] := by
  cases r with
  | layOut => exact absurd hlay.symm Bool.false_ne_true
  | approach target => exact Bench.prudent_onSite (prudent_approach target) he hpre
  | search | claimable | cacheCheck => exact ⟨rfl, rfl⟩
  | spareSlots includeCenter =>
    exact Bench.prudent_onSite (committed_requireSpareSlots includeCenter).prudent he hpre
  | inventoryPlace excluding =>
    exact Bench.prudent_onSite (committed_requireInventoryPlace excluding).prudent he hpre
  | obtainHelper kind => exact Bench.prudent_onSite (prudent_obtainHelper kind) he hpre
  | placeHelper requester index kind floor =>
    exact Bench.prudent_onSite (prudent_placeHelper requester index kind floor) he hpre
  | putInSlot requester index belief =>
    exact Bench.prudent_onSite (prudent_putInSlot requester index belief) he hpre
  | clearSlot requester index =>
    exact Bench.prudent_onSite (prudent_clearSlot requester index) he hpre
  | openSlot index => exact Bench.prudent_onSite (prudent_openSlot index) he hpre
  | openSlotAt o => exact Bench.prudent_onSite (prudent_openSlot _) he hpre
  | addObserver => exact absurd he (total_addObserver _ _)
  | removeObserver id => exact absurd he (total_removeObserver id _ _)
  | recordInventory requester index occupied =>
    exact Bench.prudent_onSite (prudent_recordInventory requester index occupied) he hpre
  | recordSlot requester index belief =>
    exact Bench.prudent_onSite (prudent_recordSlot requester index belief) he hpre
  | recordNeighbor requester index f belief =>
    exact Bench.prudent_onSite (prudent_recordNeighbor requester index f belief) he hpre
  | selectHotbar index => exact Bench.prudent_onSite (prudent_selectHotbar index) he hpre
  | cacheLoad i =>
    have hc := b.load_cases i
    generalize (cacheLoad i).perform b = t at hc he ⊢
    cases hc with
    | idle => exact ⟨rfl, rfl⟩
    | missed | refused | restored => exact absurd he (by simp)
  | cacheStore customName facing =>
    have hc := b.store_cases customName facing
    generalize (cacheStore customName facing).perform b = t at hc he ⊢
    cases hc with
    | idle | absent => exact ⟨rfl, rfl⟩
    | refused =>
      -- The one action failed, which is no precondition.
      obtain rfl := Failure.error.inj (Except.error.inj he)
      exact absurd hpre Bool.false_ne_true
    | present | captured => exact absurd he (by simp)
  | cacheClear =>
    rw [b.perform_cacheClear] at he
    exact absurd he (by simp)

/-- Laying out fails over a precondition only before the first action, with all forgotten. -/
theorem layOut_of_precondition {s : Site W} {dimension : Word} {center : Position}
    {e : ConsoleError} (he : ((layOut dimension center).run s).result = .error (.error e))
    (hpre : e.isPrecondition = true) :
    ((layOut dimension center).run s).site = relocatedSite s dimension center ∧
      ((layOut dimension center).run s).events = [] := by
  cases hsafe : isUnsafeCenter s.console.settings center with
  | true =>
    rw [run_layOut_refused hsafe]
    exact ⟨rfl, rfl⟩
  | false =>
    rw [run_layOut_of_safe hsafe] at he
    exact absurd hpre ((committed_buildArea _ dimension center).not_precondition he)

/-- **Preconditions come first.** Over any environment, from any bench and with any arguments, a
request that fails over a precondition took no action, told no observer and said nothing. It leaves
the environment and the cache as they were, and the console, too, unless it was to lay out a work
area; in that case the console knows nothing and is idle. -/
theorem precondition_errors_have_no_effect (b : Bench W) (r : Request) (e : ConsoleError)
    (he : (r.perform b).result = .error (.error e)) (hpre : e.isPrecondition = true) :
    (r.perform b).events = [] ∧ (r.perform b).bench.site.world = b.site.world ∧
      (r.perform b).bench.cache = b.cache ∧
      (r.isLayOut = false → (r.perform b).bench.site.console = b.site.console) ∧
      (r.isLayOut = true → Blank (r.perform b).bench.site.console) := by
  cases hlay : r.isLayOut with
  | false =>
    obtain ⟨hbench, hevents⟩ := Request.prudent_perform hlay he hpre
    rw [hbench]
    exact ⟨hevents, rfl, rfl, fun _ => rfl, fun h => absurd h Bool.false_ne_true⟩
  | true =>
    obtain ⟨dimension, center, rfl⟩ := Request.exists_layOut hlay
    obtain ⟨hsite, hevents⟩ := layOut_of_precondition he hpre
    refine ⟨hevents, Eq.trans (congrArg Site.world hsite) rfl, rfl,
      fun h => absurd h.symm Bool.false_ne_true, fun _ => blank_of_layOut_error he⟩

/-- A floor marker is refused by a console with a work area, and a center near the origin of the
world costs the console what it knows. -/
theorem precondition_errors_have_no_effect_jammed :
    ((Request.putInSlot "user" 3 (.marker "stone")).perform Jammed.bench).result =
        .error (.error (.notPlaceable "stone")) ∧
      ((Request.putInSlot "user" 3 (.marker "stone")).perform Jammed.bench).events = [] ∧
      ((Request.layOut 0 .origin).perform Jammed.bench).result =
        .error (.error (.unsafeCenter .origin 256)) ∧
      Blank ((Request.layOut 0 .origin).perform Jammed.bench).bench.site.console := by
  have hmarker : ((Request.putInSlot "user" 3 (.marker "stone")).perform Jammed.bench).result =
      .error (.error (.notPlaceable "stone")) := by rfl
  have hcenter : ((Request.layOut 0 .origin).perform Jammed.bench).result =
      .error (.error (.unsafeCenter .origin 256)) := by rfl
  obtain ⟨hevents, -⟩ := precondition_errors_have_no_effect _ _ _ hmarker rfl
  obtain ⟨-, -, -, -, hblank⟩ := precondition_errors_have_no_effect _ _ _ hcenter rfl
  exact ⟨hmarker, hevents, hcenter, hblank rfl⟩

end BlockConsole
