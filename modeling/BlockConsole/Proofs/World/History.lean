import BlockConsole.Proofs.World.Respond

/-!
# The history of a world

Capturing and deleting are the only actions that touch the snapshots of a world (`World.spares`).
A `World.Step` is an action or a change that no action makes, and `World.steps` takes steps one
after the other. Each step leaves the snapshots alone, captures one under the next number, or
deletes one (`World.booked`). So a number that was given stays with its snapshot until that is
deleted (`World.getElem?_steps`), and is given to no other one (`World.pairwise_taken`).

`World.snapshots_faithful` says what this comes to in every world that has a history: a captured
box can be copied to any place with room for it, whatever happens in the meantime, and what was
deleted stays deleted. A refused action is no exception to the last, but it does not tell
(`World.refused_before_sought`).
-/

namespace BlockConsole

/-! ### Actions that spare the snapshots -/

/-- Two worlds have the **same snapshots**, and give the next one the same number. -/
structure SameSnapshots (w w' : World) : Prop where
  snapshots : w'.snapshots = w.snapshots
  next : w'.nextSnapshot = w.nextSnapshot

namespace World

theorem Alike.sameSnapshots {w w' : World} (h : Alike w w') : SameSnapshots w w' :=
  ⟨h.snapshots, h.nextSnapshot⟩

theorem Rebuilt.sameSnapshots {w w' : World} (h : Rebuilt w w') : SameSnapshots w w' :=
  ⟨h.snapshots, h.nextSnapshot⟩

theorem Reworked.sameSnapshots {w w' : World} (h : Reworked w w') : SameSnapshots w w' := by
  obtain ⟨_, _, _, rfl⟩ := h
  exact ⟨rfl, rfl⟩

end World

theorem SameSnapshots.trans {w w' w'' : World} (h : SameSnapshots w w')
    (h' : SameSnapshots w' w'') : SameSnapshots w w'' :=
  ⟨h'.snapshots.trans h.snapshots, h'.next.trans h.next⟩

/-- Whether an action **spares** the snapshots. -/
def Action.spares (a : Action) : Bool :=
  a.kind != .backup && a.kind != .discard

namespace World

theorem sameSnapshots_after (w : World) (c : Command) : SameSnapshots w (w.after c) := by
  cases c with
  | fill start stop block states => exact (rebuilt_putAll w _ block states).sameSnapshots
  | setBlock pos block states => exact (rebuilt_put w pos block states).sameSnapshots
  | teleport target => exact ⟨rfl, rfl⟩
  | gameMode mode => exact ⟨rfl, rfl⟩
  | clearInventory => exact ⟨rfl, rfl⟩

/-- A command spares the snapshots, whatever its text is read as. -/
theorem sameSnapshots_send (w : World) (c : Command) (timeout : Nat) :
    SameSnapshots w (w.respondSend c timeout).world := by
  have hlogged (v : World) (text : Array String) : SameSnapshots v { v with commandLog := text } :=
    ⟨rfl, rfl⟩
  unfold respondSend
  dsimp only
  cases Command.parse c.text with
  | error e => exact hlogged w _
  | ok parsed =>
    refine (hlogged w (w.commandLog.push c.text)).trans ?_
    rcases apply_cases { w with commandLog := w.commandLog.push c.text } c.text timeout parsed with
      ⟨_, -, -, halike⟩ | ⟨-, hsame⟩
    · exact (sameSnapshots_after _ parsed).trans halike.sameSnapshots
    · dsimp only
      rw [hsame]
      exact ⟨rfl, rfl⟩

/-- Actions other than capturing and deleting spare the snapshots. -/
theorem spares {a : Action} (h : a.spares = true) (w : World) :
    SameSnapshots w (respond a w).world := by
  cases hfail : w.failing.contains a.kind with
  | true =>
    rw [respond_of_failing hfail]
    exact (alike_count w _).sameSnapshots
  | false =>
    cases a with
    | placeBlock | setHelper | openContainer | restore =>
      exact (reworked_respond rfl w).sameSnapshots
    | holdSlot slot =>
      rw [respond_of_not_failing hfail]
      show SameSnapshots w ((w.count .holdSlot).respondHold slot).world
      rw [respondHold]
      split <;> exact ⟨rfl, rfl⟩
    | send c timeout =>
      rw [respond_of_not_failing hfail]
      exact (alike_count w _).sameSnapshots.trans (sameSnapshots_send _ c timeout)
    | backup | discard => exact absurd h Bool.false_ne_true

/-! ### Steps -/

/-- A **step** in the history of a world: an action, or a change that no action makes. -/
inductive Step where
  | act (a : Action)
  | put (p : Position) (name : String) (states : BlockStates)
  | fail (kind : Action.Kind)
  | recover (kind : Action.Kind)
  | loseTeleports (lose : Bool)
  | resetAccount

/-- The world after a step. -/
def step (w : World) : Step → World
  | .act a => (respond a w).world
  | .put p name states => w.put p name states
  | .fail kind => w.fail kind
  | .recover kind => w.recover kind
  | .loseTeleports lose => w.loseTeleports lose
  | .resetAccount => w.resetAccount

/-- The world after some steps, one after the other. -/
def steps (w : World) (history : List Step) : World :=
  history.foldl step w

/-- The number that a step gives to a snapshot, if it captures one. -/
def taken? (w : World) : Step → Option SnapshotId
  | .act (.backup start stop) => (respond (.backup start stop) w).reply.toOption
  | _ => none

/-- A step **deletes** a snapshot if it asks to and the world does not refuse. -/
def Deletes (w : World) (id : SnapshotId) (s : Step) : Prop :=
  s = .act (.discard id) ∧ (respond (.discard id) w).reply = .ok ()

/-- The numbers that are given to snapshots in the course of some steps. -/
def taken (w : World) : List Step → List SnapshotId
  | [] => []
  | s :: rest => (w.taken? s).toList ++ (w.step s).taken rest

/-- Some steps **keep** a snapshot if none of them deletes it. -/
def Keeps (w : World) (id : SnapshotId) : List Step → Prop
  | [] => True
  | s :: rest => ¬w.Deletes id s ∧ (w.step s).Keeps id rest

/-- What a step that leads to `w'` has done to the snapshots. -/
inductive Booked (w : World) (s : Step) (w' : World) : Prop where
  | spared (h : SameSnapshots w w') (htaken : w.taken? s = none)
  | captured (id : SnapshotId) (snapshot : Snapshot) (h : Captured w w' id snapshot)
    (htaken : w.taken? s = some id)
  | deleted (id : SnapshotId) (hdeletes : w.Deletes id s)
    (h : SameSnapshots { w with snapshots := w.snapshots.erase id } w')
    (htaken : w.taken? s = none)

/-- A step spares the snapshots, captures one or deletes one. -/
theorem booked (w : World) (s : Step) : Booked w s (w.step s) := by
  cases s with
  | act a =>
    cases a with
    | backup start stop =>
      cases h : (respond (.backup start stop) w).reply with
      | ok id => exact .captured id _ (captured_of_backup h) (by simp [taken?, h, Except.toOption])
      | error e =>
        exact .spared (alike_of_error h).sameSnapshots (by simp [taken?, h, Except.toOption])
    | discard id =>
      cases h : (respond (.discard id) w).reply with
      | ok x => exact .deleted id ⟨rfl, h⟩ (erased_of_discard h).2.sameSnapshots rfl
      | error e => exact .spared (alike_of_error h).sameSnapshots rfl
    | placeBlock | setHelper | openContainer | holdSlot | send | restore =>
      exact .spared (spares rfl w) rfl
  | put p name states => exact .spared (rebuilt_put w p name states).sameSnapshots rfl
  | fail | recover | loseTeleports | resetAccount => exact .spared ⟨rfl, rfl⟩ rfl

variable {w : World} {id : SnapshotId}

/-- Numbers that were given stay given. -/
theorem next_le_step (w : World) (s : Step) : w.nextSnapshot ≤ (w.step s).nextSnapshot := by
  cases w.booked s with
  | spared h => exact Nat.le_of_eq h.next.symm
  | captured _ _ h => exact h.next_le
  | deleted _ _ h => exact Nat.le_of_eq h.next.symm

/-- A step that does not delete a snapshot leaves what it finds under its number. -/
theorem getElem?_step (hid : id.number < w.nextSnapshot) {s : Step} (hs : ¬w.Deletes id s) :
    (w.step s).snapshots[id]? = w.snapshots[id]? := by
  cases w.booked s with
  | spared h => rw [h.snapshots]
  | captured _ _ h => exact h.older hid
  | deleted id' hdeletes h =>
    have hne : id' ≠ id := by
      rintro rfl
      exact hs hdeletes
    rw [h.snapshots, Std.HashMap.getElem?_erase]
    simp [hne]

/-- Steps that keep a snapshot leave it as it was captured. -/
theorem getElem?_steps (hid : id.number < w.nextSnapshot) {later : List Step}
    (hkeeps : w.Keeps id later) : (w.steps later).snapshots[id]? = w.snapshots[id]? := by
  induction later generalizing w with
  | nil => rfl
  | cons s rest ih =>
    obtain ⟨hs, hrest⟩ := hkeeps
    have hlt := hid.trans_le (w.next_le_step s)
    exact (ih hlt hrest).trans (getElem?_step hid hs)

/-- Where there is no snapshot, there is none to be deleted, and none comes back. -/
theorem getElem?_steps_of_none (hid : id.number < w.nextSnapshot)
    (hnone : w.snapshots[id]? = none) (later : List Step) :
    (w.steps later).snapshots[id]? = none := by
  induction later generalizing w with
  | nil => exact hnone
  | cons s rest ih =>
    -- A step that deletes a snapshot has found it.
    have hs : ¬w.Deletes id s := by
      rintro ⟨-, hreply⟩
      have hmem := (erased_of_discard hreply).1
      rw [Std.HashMap.contains_eq_isSome_getElem?, hnone] at hmem
      exact absurd hmem Bool.false_ne_true
    exact ih (hid.trans_le (w.next_le_step s)) ((getElem?_step hid hs).trans hnone)

/-- The numbers that are given grow. -/
theorem pairwise_taken (w : World) (history : List Step) :
    (∀ id ∈ w.taken history, w.nextSnapshot ≤ id.number) ∧
      (w.taken history).Pairwise (·.number < ·.number) := by
  induction history generalizing w with
  | nil => exact ⟨by simp [taken], .nil⟩
  | cons s rest ih =>
    obtain ⟨hle, hpairwise⟩ := ih (w.step s)
    have hrest : ∀ id ∈ (w.step s).taken rest, w.nextSnapshot ≤ id.number :=
      fun id hid => (w.next_le_step s).trans (hle id hid)
    have hspared (htaken : w.taken? s = none) : w.taken (s :: rest) = (w.step s).taken rest := by
      rw [taken, htaken]
      rfl
    cases w.booked s with
    | spared _ htaken | deleted _ _ _ htaken =>
      rw [hspared htaken]
      exact ⟨hrest, hpairwise⟩
    | captured id _ h htaken =>
      have hcons : w.taken (s :: rest) = id :: (w.step s).taken rest := by
        rw [taken, htaken]
        rfl
      rw [hcons, List.forall_mem_cons, List.pairwise_cons]
      exact ⟨⟨Nat.le_of_eq h.number.symm, hrest⟩,
        fun id' hid' => h.number_lt.trans_le (hle id' hid'), hpairwise⟩

/-! ### Worlds with a history -/

/-- A world is **numbered** if no snapshot is kept under a number that is yet to be given. -/
def Numbered (w : World) : Prop :=
  ∀ id : SnapshotId, w.nextSnapshot ≤ id.number → w.snapshots[id]? = none

theorem Numbered.step (h : w.Numbered) (s : Step) : (w.step s).Numbered := by
  intro id hid
  have hold := h id ((w.next_le_step s).trans hid)
  cases w.booked s with
  | spared hs => rw [hs.snapshots, hold]
  | captured id' _ hs =>
    have hne : id' ≠ id := by
      rintro rfl
      exact absurd hs.number_lt (Nat.not_lt.mpr hid)
    rw [hs.snapshots, Std.HashMap.getElem?_insert, hold]
    simp [hne]
  | deleted id' _ hs =>
    rw [hs.snapshots, Std.HashMap.getElem?_erase, hold]
    simp

theorem Numbered.steps (h : w.Numbered) (history : List Step) : (w.steps history).Numbered := by
  induction history generalizing w with
  | nil => exact h
  | cons s rest ih => exact ih (h.step s)

/-- A new world has no snapshots. -/
theorem numbered_new : ({} : World).Numbered := fun _ _ => Std.HashMap.getElem?_empty

/-- **Snapshots are faithful and never confused.** Consider a world that steps have led to from a
new one. A box that is captured in it can be put back at any place with room for it, as long as the
steps in between keep the snapshot and the world does not refuse; that copies the box as it was
when it was captured. No two captures of the history were given one number. And once a snapshot is
deleted, no step brings it back. -/
theorem snapshots_faithful (history : List Step) (hw : w = ({} : World).steps history) :
    (∀ (start stop : Position) (id : SnapshotId), start.Spanned stop →
      (respond (.backup start stop) w).reply = .ok id →
      ∀ later, (w.step (.act (.backup start stop))).Keeps id later →
      ∀ w', w' = (w.step (.act (.backup start stop))).steps later →
      ∀ pos, pos.HasRoomFor (Box.ofCorners start stop).extent →
        ((respond (.restore id pos) w').reply = .ok () ↔
          w'.failing.contains Action.Kind.restore = false) ∧
        ((respond (.restore id pos) w').reply = .ok () →
          Copied w (.ofCorners start stop) pos w' (respond (.restore id pos) w').world)) ∧
    (({} : World).taken history).Nodup ∧
    (∀ id : SnapshotId, (respond (.discard id) w).reply = .ok () →
      ∀ later w', w' = (w.step (.act (.discard id))).steps later → ∀ pos,
        (respond (.restore id pos) w').reply = .error (w'.absence .restore id) ∧
        (respond (.discard id) w').reply = .error (w'.absence .discard id)) := by
  have hnumbered : w.Numbered := hw ▸ numbered_new.steps history
  refine ⟨?_, ?_, ?_⟩
  · intro start stop id hspan hbackup later hkeeps w' hw' pos hroom
    have hcaptured : Captured w (w.step (.act (.backup start stop))) id
        (w.capture (.ofCorners start stop)) := captured_of_backup hbackup
    have hkept : w'.snapshots[id]? = some (w.capture (.ofCorners start stop)) := by
      rw [hw', getElem?_steps hcaptured.number_lt hkeeps]
      exact hcaptured.kept
    refine ⟨respond_restore hkept pos, fun hrestore => ?_⟩
    obtain ⟨snapshot, hsnapshot, halike⟩ := putBack_of_restore hrestore
    obtain rfl := Option.some.inj (hkept.symm.trans hsnapshot)
    have hcopied := copied_putBack w w' hspan hroom
    exact ⟨fun o ho => (halike.blockAt _).trans (hcopied.inside o ho),
      fun q hq => (halike.blockAt q).trans (hcopied.outside q hq)⟩
  · have hpairwise := (pairwise_taken {} history).2
    refine hpairwise.imp fun {id id'} hlt heq => ?_
    rw [heq] at hlt
    exact Nat.lt_irrefl _ hlt
  · intro id hdiscard later w' hw' pos
    obtain ⟨hmem, halike⟩ := erased_of_discard hdiscard
    -- What was deleted was kept, so its number is not given again.
    have hid : id.number < w.nextSnapshot := by
      refine Nat.not_le.mp fun hle => ?_
      rw [Std.HashMap.contains_eq_isSome_getElem?, hnumbered id hle] at hmem
      exact absurd hmem Bool.false_ne_true
    have hnone : (w.step (.act (.discard id))).snapshots[id]? = none := by
      rw [step, halike.snapshots, Std.HashMap.getElem?_erase]
      simp
    have habsent := getElem?_steps_of_none (hid.trans_le (w.next_le_step _)) hnone later
    rw [← hw'] at habsent
    exact respond_of_absent habsent pos

/-- A history in which a chest is put and the origin is captured. -/
def chestHistory : List Step :=
  [.put ⟨5, 64, 5⟩ "chest" .empty, .act (.backup .origin .origin)]

/-- What happens next: the chest is taken away, dirt is put beside it, and both places are
captured. -/
def dirtHistory : List Step :=
  [.put ⟨5, 64, 5⟩ "air" .empty, .put ⟨6, 64, 5⟩ "dirt" .empty,
    .act (.backup ⟨5, 64, 5⟩ ⟨6, 64, 5⟩)]

theorem snapshots_faithful_chestHistory :
    ∃ w w', w = ({} : World).steps chestHistory ∧
      w' = (w.step (.act (.backup ⟨6, 65, 5⟩ ⟨5, 64, 6⟩))).steps dirtHistory ∧
      Copied w (.ofCorners ⟨6, 65, 5⟩ ⟨5, 64, 6⟩) ⟨6, 64, 5⟩ w'
        (respond (.restore ⟨2⟩ ⟨6, 64, 5⟩) w').world ∧
      (({} : World).taken chestHistory).Nodup ∧
      (respond (.discard ⟨1⟩) w).reply = .ok () ∧
      (respond (.restore ⟨1⟩ .origin) (w.step (.act (.discard ⟨1⟩)))).reply =
        .error (.unknownSnapshot ⟨1⟩) := by
  have hspan : Position.Spanned ⟨6, 65, 5⟩ ⟨5, 64, 6⟩ := by constructor <;> decide
  have hroom : Position.HasRoomFor ⟨6, 64, 5⟩
      (Box.ofCorners ⟨6, 65, 5⟩ ⟨5, 64, 6⟩).extent := by constructor <;> decide
  obtain ⟨w, hw⟩ : ∃ w, w = ({} : World).steps chestHistory := ⟨_, rfl⟩
  have hfailing : w.failing = [] := by
    rw [hw]
    decide +kernel
  have hbackup : (respond (.backup ⟨6, 65, 5⟩ ⟨5, 64, 6⟩) w).reply = .ok ⟨2⟩ := by
    rw [hw]
    rfl
  have hkeeps : (w.step (.act (.backup ⟨6, 65, 5⟩ ⟨5, 64, 6⟩))).Keeps ⟨2⟩ dirtHistory := by
    refine ⟨?_, ?_, ?_, trivial⟩ <;> exact fun hdeletes => absurd hdeletes.1 (by simp)
  have hlater : ((w.step (.act (.backup ⟨6, 65, 5⟩ ⟨5, 64, 6⟩))).steps
      dirtHistory).failing.contains Action.Kind.restore = false := by
    rw [hw]
    decide +kernel
  obtain ⟨hcopy, htaken, hdeleted⟩ := snapshots_faithful chestHistory hw
  obtain ⟨hreply, hcopied⟩ := hcopy _ _ _ hspan hbackup dirtHistory hkeeps _ rfl _ hroom
  -- The first snapshot is kept, so the world deletes it, and still refuses nothing.
  have hfirst : (respond (.backup .origin .origin)
      (({} : World).step (.put ⟨5, 64, 5⟩ "chest" .empty))).reply = .ok ⟨1⟩ := rfl
  obtain ⟨snapshot, hkept⟩ : ∃ snapshot, w.snapshots[(⟨1⟩ : SnapshotId)]? = some snapshot := by
    rw [hw]
    exact ⟨_, (captured_of_backup hfirst).kept⟩
  have hdiscard := (respond_discard hkept).mpr (by rw [hfailing]; rfl)
  have hgone := (hdeleted ⟨1⟩ hdiscard [] _ rfl .origin).1
  obtain ⟨snapshots, halike⟩ := discard_alike w ⟨1⟩
  have hnotFailing : (w.step (.act (.discard ⟨1⟩))).failing = [] := halike.failing.trans hfailing
  rw [absence, steps, List.foldl_nil, hnotFailing] at hgone
  exact ⟨w, _, hw, rfl, hcopied (hreply.mpr hlater), htaken, hdiscard, hgone⟩

/-- A world that refuses to put snapshots back says so without looking for the snapshot, so the
reply does not tell that it was deleted. -/
theorem refused_before_sought :
    ∃ w : World, w = ({} : World).steps [.act (.backup .origin .origin)] ∧
      ({} : World).taken [.act (.backup .origin .origin)] = [⟨1⟩] ∧
      (respond (.discard ⟨1⟩) w).reply = .ok () ∧
      (respond (.restore ⟨1⟩ .origin)
          (w.steps [.act (.discard ⟨1⟩), .fail .restore])).reply ≠ .error (.unknownSnapshot ⟨1⟩) ∧
      (respond (.restore ⟨1⟩ .origin)
          (w.steps [.act (.discard ⟨1⟩), .fail .restore])).reply =
        .error (.rejected "revert_snapshot" "injected failure") := by
  have hfirst : (respond (.backup .origin .origin) ({} : World)).reply = .ok ⟨1⟩ := rfl
  have hdiscard := (respond_discard (captured_of_backup hfirst).kept).mpr rfl
  have hrefused (w : World) : (respond (.restore ⟨1⟩ .origin) (w.fail .restore)).reply =
      .error (.rejected "revert_snapshot" "injected failure") := rfl
  refine ⟨_, rfl, rfl, hdiscard, fun h => ?_, hrefused _⟩
  exact absurd ((hrefused _).symm.trans h) (by simp)

end World

end BlockConsole
