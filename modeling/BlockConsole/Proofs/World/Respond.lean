import BlockConsole.Proofs.Command.Parser
import BlockConsole.Proofs.World.Snapshot

/-!
# What the replies of a world stand for

A world that replies with an error has done nothing but count the action (`alike_of_error`), and
so has one that acknowledges a command without success (`alike_of_outcome_error`). The other
lemmas say, action by action, what a world has become that replied otherwise. A command counts as
what its text is read as, which is the command itself wherever it can be read back.

`respond_placeBlock`, `respond_openContainer` and `respond_restore` say when a world does as it is
told. Whether it does or not, an action that builds changes nothing but blocks (`reworked_respond`).
-/

namespace BlockConsole.World

variable {w w' : World}

/-! ### Worlds that are alike do alike -/

theorem resetAccount_put (w : World) (p : Position) (name : String) (states : BlockStates) :
    (w.put p name states).resetAccount = w.resetAccount.put p name states := by
  simp only [put]
  split <;> rfl

theorem Alike.put (h : Alike w w') (p : Position) (name : String) (states : BlockStates) :
    Alike (w.put p name states) (w'.put p name states) := by
  rw [Alike, resetAccount_put, resetAccount_put, h]

theorem Alike.putAll (h : Alike w w') (ps : List Position) (name : String)
    (states : BlockStates) : Alike (w.putAll ps name states) (w'.putAll ps name states) := by
  induction ps generalizing w w' with
  | nil => exact h
  | cons p ps ih =>
    rw [putAll_cons, putAll_cons]
    exact ih (h.put p name states)

theorem Alike.hold (h : Alike w w') (slot : Nat) :
    Alike { w with held := slot } { w' with held := slot } := by
  have heq := congrArg (fun v : World => { v with held := slot }) h
  exact heq

theorem Alike.keep (h : Alike w w') (snapshots : Std.HashMap SnapshotId Snapshot) :
    Alike { w with snapshots } { w' with snapshots } := by
  have heq := congrArg (fun v : World => { v with snapshots }) h
  exact heq

/-! ### Refused actions -/

theorem respond_of_failing {a : Action} (h : w.failing.contains a.kind = true) :
    respond a w = ⟨.error (.rejected a.kind.name "injected failure"), w.count a.kind, []⟩ := by
  simp only [respond, h, if_true]

theorem respond_of_not_failing {a : Action} (h : w.failing.contains a.kind = false) :
    respond a w = (w.count a.kind).perform a := by
  simp only [respond, h, Bool.false_eq_true, if_false]

/-- An action that was not refused was performed. -/
theorem respond_of_ok {a : Action} {x : a.Reply} (h : (respond a w).reply = .ok x) :
    respond a w = (w.count a.kind).perform a := by
  cases hfail : w.failing.contains a.kind with
  | true =>
    rw [respond_of_failing hfail] at h
    exact absurd h (by simp)
  | false => exact respond_of_not_failing hfail

/-! ### Commands -/

/-- The world after a command. -/
def after (w : World) : Command → World
  | .teleport target => { w with player := target }
  | .gameMode mode => { w with gameMode := mode }
  | .fill start stop block states =>
    w.putAll (Box.ofCorners start stop).positions block states
  | .setBlock pos block states => w.put pos block states
  | .clearInventory => w

theorem Alike.after (h : Alike w w') (c : Command) : Alike (w.after c) (w'.after c) := by
  cases c with
  | teleport target =>
    have heq := congrArg (fun v : World => { v with player := target }) h
    exact heq
  | gameMode mode =>
    have heq := congrArg (fun v : World => { v with gameMode := mode }) h
    exact heq
  | fill start stop block states => exact h.putAll _ block states
  | setBlock pos block states => exact h.put pos block states
  | clearInventory => exact h

/-- Applying a command either succeeds or leaves the world alone. -/
theorem apply_cases (w : World) (text : String) (timeout : Nat) (c : Command) :
    (∃ a, (w.apply text timeout c).1 = .ok a ∧ a.isSuccess = true ∧
        Alike (w.after c) (w.apply text timeout c).2) ∨
      ((∃ e, c.outcome (w.apply text timeout c).1 = .error e) ∧
        (w.apply text timeout c).2 = w) := by
  cases c with
  | teleport target =>
    simp only [apply]
    split
    · exact .inr ⟨⟨_, rfl⟩, rfl⟩
    · exact .inl ⟨_, rfl, rfl, rfl⟩
  | fill start stop block states =>
    simp only [apply]
    split
    · exact .inr ⟨⟨_, rfl⟩, rfl⟩
    · exact .inl ⟨_, rfl, rfl, rfl⟩
  | gameMode mode => exact .inl ⟨_, rfl, rfl, rfl⟩
  | setBlock pos block states =>
    simp only [apply, after]
    exact .inl ⟨_, rfl, rfl, Alike.refl (w.put pos block states)⟩
  | clearInventory => exact .inl ⟨_, rfl, rfl, rfl⟩

/-- The world in which a command was logged. -/
def logged (w : World) (c : Command) : World :=
  { w.count .send with commandLog := w.commandLog.push c.text }

theorem alike_logged (w : World) (c : Command) : Alike w (w.logged c) := rfl

/-- What is applied is what the text of a command is read as. -/
theorem respond_send_of_parse {c read : Command} (hparse : Command.parse c.text = .ok read)
    (timeout : Nat) (h : w.failing.contains Action.Kind.send = false) :
    respond (.send c timeout) w =
      ⟨((w.logged c).apply c.text timeout read).1, ((w.logged c).apply c.text timeout read).2,
        []⟩ := by
  rw [respond_of_not_failing h]
  show (w.count .send).respondSend c timeout = _
  simp only [respondSend, hparse]
  rfl

/-- A command that can be read back is applied as it is. -/
theorem respond_send {c : Command} (hc : c.Readable) (timeout : Nat)
    (h : w.failing.contains Action.Kind.send = false) :
    respond (.send c timeout) w =
      ⟨((w.logged c).apply c.text timeout c).1, ((w.logged c).apply c.text timeout c).2, []⟩ :=
  respond_send_of_parse (Command.parse_text hc) timeout h

/-- A command whose text is not read is an error, and nothing is applied. -/
theorem respond_send_of_unread {c : Command} {e : CommandError}
    (hparse : Command.parse c.text = .error e) (timeout : Nat)
    (h : w.failing.contains Action.Kind.send = false) :
    (∃ cause, (respond (.send c timeout) w).reply = .error (.transport cause)) ∧
      (respond (.send c timeout) w).world = w.logged c := by
  have hresp : respond (.send c timeout) w = (w.count .send).respondSend c timeout :=
    respond_of_not_failing h
  simp only [hresp, respondSend, hparse]
  exact ⟨⟨_, rfl⟩, rfl⟩

/-- A command that succeeds was read, and what it was read as has been applied. -/
theorem exists_read_of_outcome_ok {c : Command} {timeout : Nat} {a : Acknowledgment}
    (h : c.outcome (respond (.send c timeout) w).reply = .ok a) :
    ∃ read, Command.parse c.text = .ok read ∧
      Alike (w.after read) (respond (.send c timeout) w).world := by
  cases hfail : w.failing.contains Action.Kind.send with
  | true =>
    rw [respond_of_failing hfail] at h
    exact absurd h (by simp [Command.outcome])
  | false =>
    cases hparse : Command.parse c.text with
    | error e =>
      obtain ⟨⟨cause, hcause⟩, -⟩ := respond_send_of_unread hparse timeout hfail
      rw [hcause] at h
      exact absurd h (by simp [Command.outcome])
    | ok read =>
      rw [respond_send_of_parse hparse timeout hfail] at h ⊢
      rcases apply_cases (w.logged c) c.text timeout read with ⟨_, -, -, halike⟩ | ⟨⟨e, he⟩, -⟩
      · exact ⟨read, rfl, ((alike_logged w c).after read).trans halike⟩
      · -- Whether a reply counts as success does not depend on the command.
        have hok : read.outcome ((w.logged c).apply c.text timeout read).1 = .ok a :=
          Command.outcome_eq_ok_iff.mpr (Command.outcome_eq_ok_iff.mp h)
        exact absurd (hok.symm.trans he) (by simp)

/-- A command that succeeds has been applied. -/
theorem after_of_outcome_ok {c : Command} (hc : c.Readable) {timeout : Nat} {a : Acknowledgment}
    (h : c.outcome (respond (.send c timeout) w).reply = .ok a) :
    Alike (w.after c) (respond (.send c timeout) w).world := by
  obtain ⟨read, hread, halike⟩ := exists_read_of_outcome_ok h
  obtain rfl : c = read := Except.ok.inj ((Command.parse_text hc).symm.trans hread)
  exact halike

/-- A command without success has changed nothing. -/
theorem alike_of_outcome_error {c : Command} {timeout : Nat} {e : ActionError}
    (h : c.outcome (respond (.send c timeout) w).reply = .error e) :
    Alike w (respond (.send c timeout) w).world := by
  cases hfail : w.failing.contains Action.Kind.send with
  | true =>
    rw [respond_of_failing hfail]
    exact alike_count w _
  | false =>
    cases hparse : Command.parse c.text with
    | error cause =>
      rw [(respond_send_of_unread hparse timeout hfail).2]
      exact alike_logged w c
    | ok read =>
      rw [respond_send_of_parse hparse timeout hfail] at h ⊢
      rcases apply_cases (w.logged c) c.text timeout read with ⟨a, ha, hok, -⟩ | ⟨-, hsame⟩
      · exact absurd (h.symm.trans (Command.outcome_eq_ok_iff.mpr ⟨ha, hok⟩)) (by simp)
      · rw [hsame]
        exact alike_logged w c

/-! ### Blocks, helpers and containers -/

theorem respondPlaceBlock_eq {text : String} {states : BlockStates}
    (hstates : BlockStates.parse text = .ok states) (w : World) (pos : Position) (name : String) :
    w.respondPlaceBlock pos name text =
      ⟨.ok (), w.put pos (BlockName.canonical name) states,
        [⟨.trace, .world, (Command.placeNamed pos name states).text⟩]⟩ := by
  have hok (m : String) : (Acknowledgment.success m).isSuccess = true := rfl
  simp only [respondPlaceBlock, hstates, Command.placeNamed, apply, hok, if_true]

/-- Placing a block with states that can be read. -/
theorem respond_placeBlock {text : String} {states : BlockStates}
    (hstates : BlockStates.parse text = .ok states) (pos : Position) (name : String)
    (h : w.failing.contains Action.Kind.placeBlock = false) :
    (respond (.placeBlock pos name text) w).reply = .ok () ∧
      Alike (w.put pos (BlockName.canonical name) states)
        (respond (.placeBlock pos name text) w).world := by
  have hresp : respond (.placeBlock pos name text) w =
      (w.count .placeBlock).respondPlaceBlock pos name text := respond_of_not_failing h
  rw [hresp, respondPlaceBlock_eq hstates]
  dsimp only
  exact ⟨rfl, (alike_count w .placeBlock).put pos (BlockName.canonical name) states⟩

theorem put_of_placeBlock {text : String} {states : BlockStates}
    (hstates : BlockStates.parse text = .ok states) {pos : Position} {name : String} {x : Unit}
    (h : (respond (.placeBlock pos name text) w).reply = .ok x) :
    Alike (w.put pos (BlockName.canonical name) states)
      (respond (.placeBlock pos name text) w).world := by
  cases hfail : w.failing.contains Action.Kind.placeBlock with
  | true =>
    rw [respond_of_failing hfail] at h
    exact absurd h (by simp)
  | false => exact (respond_placeBlock hstates pos name hfail).2

/-- The world with the support block of a helper under a position. -/
def supported (w : World) (pos : Position) : Option String → World
  | some name => w.put (pos + Facing.down.offset) name .empty
  | none => w

theorem rebuilt_supported (w : World) (pos : Position) (support : Option String) :
    Rebuilt w (w.supported pos support) := by
  cases support with
  | none => exact ⟨w.blocks, rfl⟩
  | some name =>
    rw [supported]
    exact rebuilt_put w _ name .empty

theorem respondSetHelper_eq (w : World) (pos : Position) (kind : Helper)
    (support : Option String) :
    w.respondSetHelper pos kind support =
      ⟨.ok (helperStates kind),
        { w.supported pos support with lastSupport := support }.put pos kind.blockName
          (helperStates kind), []⟩ := by
  cases support <;> rfl

theorem put_of_setHelper {pos : Position} {kind : Helper} {support : Option String}
    {states : BlockStates} (h : (respond (.setHelper pos kind support) w).reply = .ok states) :
    states = helperStates kind ∧
      Alike ((w.supported pos support).put pos kind.blockName (helperStates kind))
        (respond (.setHelper pos kind support) w).world := by
  have hresp : respond (.setHelper pos kind support) w =
      (w.count .setHelper).respondSetHelper pos kind support := respond_of_ok h
  rw [hresp, respondSetHelper_eq] at h ⊢
  dsimp only at h ⊢
  have hsupported :
      Alike (w.supported pos support) ((w.count .setHelper).supported pos support) := by
    cases support with
    | none => exact alike_count w .setHelper
    | some name => exact (alike_count w .setHelper).put _ name .empty
  have hnoted : Alike ((w.count .setHelper).supported pos support)
      { (w.count .setHelper).supported pos support with lastSupport := support } := rfl
  exact ⟨(Except.ok.inj h).symm, (hsupported.trans hnoted).put pos kind.blockName _⟩

/-- Whether a container opens does not depend on the account. -/
theorem Alike.obstacle? (h : Alike w w') (pos : Position) (name : String) (states : BlockStates) :
    w'.obstacle? pos name states = w.obstacle? pos name states := by
  have hblock : w'.blockAt = w.blockAt := funext h.blockAt
  rw [World.obstacle?, World.obstacle?, hblock, h.player]

/-- A container opens exactly if nothing is in its way. -/
theorem respond_openContainer (pos : Position) (name : String) (states : BlockStates)
    (h : w.failing.contains Action.Kind.openContainer = false) :
    (respond (.openContainer pos name states) w).reply =
      .ok (w.obstacle? pos name states).isNone := by
  have hresp : respond (.openContainer pos name states) w =
      (w.count .openContainer).respondOpen pos name states := respond_of_not_failing h
  rw [hresp, respondOpen, (alike_count w .openContainer).obstacle?]
  cases w.obstacle? pos name states <;> rfl

/-- Opening changes nothing. -/
theorem alike_openContainer (w : World) (pos : Position) (name : String) (states : BlockStates) :
    Alike w (respond (.openContainer pos name states) w).world := by
  cases hfail : w.failing.contains Action.Kind.openContainer with
  | true =>
    rw [respond_of_failing hfail]
    exact alike_count w _
  | false =>
    rw [respond_of_not_failing hfail]
    show Alike w ((w.count .openContainer).respondOpen pos name states).world
    rw [respondOpen]
    cases (w.count .openContainer).obstacle? pos name states <;> exact alike_count w _

theorem held_of_holdSlot {slot : Nat} {x : Unit} (h : (respond (.holdSlot slot) w).reply = .ok x) :
    Alike { w with held := slot } (respond (.holdSlot slot) w).world := by
  have hresp : respond (.holdSlot slot) w = (w.count .holdSlot).respondHold slot :=
    respond_of_ok h
  rw [hresp, respondHold] at h ⊢
  split at h
  · next hlt =>
    rw [if_pos hlt]
    rfl
  · exact absurd h (by simp)

/-! ### Snapshots -/

/-- A world `w'` has **captured** a snapshot: it is kept under the next number, and nothing else has
changed in which a later action could tell the worlds apart. -/
structure Captured (w w' : World) (id : SnapshotId) (snapshot : Snapshot) : Prop where
  number : id.number = w.nextSnapshot
  snapshots : w'.snapshots = w.snapshots.insert id snapshot
  next : w'.nextSnapshot = w.nextSnapshot + 1
  blockAt : ∀ p, w'.blockAt p = w.blockAt p
  player : w'.player = w.player

namespace Captured

variable {id : SnapshotId} {snapshot : Snapshot} (h : Captured w w' id snapshot)

include h

theorem kept : w'.snapshots[id]? = some snapshot := by
  rw [h.snapshots, Std.HashMap.getElem?_insert_self]

/-- The older snapshots stay. -/
theorem older {k : SnapshotId} (hk : k.number < w.nextSnapshot) :
    w'.snapshots[k]? = w.snapshots[k]? := by
  have hne : id ≠ k := by
    rintro rfl
    rw [h.number] at hk
    exact Nat.lt_irrefl _ hk
  rw [h.snapshots, Std.HashMap.getElem?_insert]
  simp [hne]

theorem number_lt : id.number < w'.nextSnapshot := by
  rw [h.number, h.next]
  exact Nat.lt_succ_self _

theorem next_le : w.nextSnapshot ≤ w'.nextSnapshot := by
  rw [h.next]
  exact Nat.le_succ _

end Captured

/-- Capturing captures the box between the corners. -/
theorem captured_of_backup {start stop : Position} {id : SnapshotId}
    (h : (respond (.backup start stop) w).reply = .ok id) :
    Captured w (respond (.backup start stop) w).world id (w.capture (.ofCorners start stop)) := by
  have hresp : respond (.backup start stop) w = (w.count .backup).respondBackup start stop :=
    respond_of_ok h
  rw [hresp] at h ⊢
  obtain rfl : ⟨w.nextSnapshot⟩ = id := Except.ok.inj h
  exact ⟨rfl, rfl, rfl, fun _ => rfl, rfl⟩

/-- Any box is captured unless the world refuses to. -/
theorem respond_backup (start stop : Position)
    (h : w.failing.contains Action.Kind.backup = false) :
    ∃ id, (respond (.backup start stop) w).reply = .ok id := by
  have hresp : respond (.backup start stop) w = (w.count .backup).respondBackup start stop :=
    respond_of_not_failing h
  rw [hresp]
  exact ⟨_, rfl⟩

/-- Capturing a single position captures what is found there. -/
theorem captured_of_backup_self {p : Position} {id : SnapshotId}
    (h : (respond (.backup p p) w).reply = .ok id) :
    Captured w (respond (.backup p p) w).world id (.ofBlock (w.blockAt p)) := by
  have hcaptured := captured_of_backup h
  rwa [capture_self] at hcaptured

/-- A snapshot that is kept is put back unless the world refuses to. -/
theorem respond_restore {id : SnapshotId} {snapshot : Snapshot}
    (hget : w.snapshots[id]? = some snapshot) (p : Position) :
    (respond (.restore id p) w).reply = .ok () ↔
      w.failing.contains Action.Kind.restore = false := by
  cases hfail : w.failing.contains Action.Kind.restore with
  | true => simp [respond_of_failing (a := .restore id p) hfail]
  | false =>
    have hresp : respond (.restore id p) w = (w.count .restore).respondRestore id p :=
      respond_of_not_failing hfail
    have hcount : (w.count .restore).snapshots[id]? = some snapshot := hget
    rw [hresp, respondRestore, hcount]
    simp

theorem putBack_of_restore {id : SnapshotId} {pos : Position} {x : Unit}
    (h : (respond (.restore id pos) w).reply = .ok x) :
    ∃ snapshot, w.snapshots[id]? = some snapshot ∧
      Alike (w.putBack snapshot pos) (respond (.restore id pos) w).world := by
  have hresp : respond (.restore id pos) w = (w.count .restore).respondRestore id pos :=
    respond_of_ok h
  have hsnapshots : (w.count .restore).snapshots = w.snapshots := rfl
  rw [hresp, respondRestore, hsnapshots] at h ⊢
  cases hget : w.snapshots[id]? with
  | none =>
    rw [hget] at h
    exact absurd h (by simp)
  | some snapshot => exact ⟨snapshot, rfl, rfl⟩

/-- A snapshot that was deleted had been kept. -/
theorem erased_of_discard {id : SnapshotId} {x : Unit}
    (h : (respond (.discard id) w).reply = .ok x) :
    w.snapshots.contains id = true ∧
      Alike { w with snapshots := w.snapshots.erase id } (respond (.discard id) w).world := by
  have hresp : respond (.discard id) w = (w.count .discard).respondDiscard id := respond_of_ok h
  have hsnapshots : (w.count .discard).snapshots = w.snapshots := rfl
  rw [hresp, respondDiscard, hsnapshots] at h ⊢
  cases hmem : w.snapshots.contains id with
  | true => exact ⟨rfl, rfl⟩
  | false =>
    rw [hmem] at h
    exact absurd h (by simp)

/-- A snapshot that is kept is deleted unless the world refuses to. -/
theorem respond_discard {id : SnapshotId} {snapshot : Snapshot}
    (hget : w.snapshots[id]? = some snapshot) :
    (respond (.discard id) w).reply = .ok () ↔
      w.failing.contains Action.Kind.discard = false := by
  cases hfail : w.failing.contains Action.Kind.discard with
  | true => simp [respond_of_failing (a := .discard id) hfail]
  | false =>
    have hresp : respond (.discard id) w = (w.count .discard).respondDiscard id :=
      respond_of_not_failing hfail
    have hcount : (w.count .discard).snapshots.contains id = true := by
      rw [Std.HashMap.contains_eq_isSome_getElem?]
      exact Option.isSome_of_eq_some hget
    rw [hresp, respondDiscard, if_pos hcount]
    simp

/-- The error of an action on a snapshot that is not kept: an action that is refused does not look
for it. -/
def absence (w : World) (kind : Action.Kind) (id : SnapshotId) : ActionError :=
  if w.failing.contains kind then .rejected kind.name "injected failure" else .unknownSnapshot id

/-- A snapshot that is not kept can be neither put back nor deleted. -/
theorem respond_of_absent {id : SnapshotId} (hget : w.snapshots[id]? = none) (pos : Position) :
    (respond (.restore id pos) w).reply = .error (w.absence .restore id) ∧
      (respond (.discard id) w).reply = .error (w.absence .discard id) := by
  have hmem : w.snapshots.contains id = false := by
    rw [Std.HashMap.contains_eq_isSome_getElem?, hget]
    rfl
  constructor
  · cases hfail : w.failing.contains Action.Kind.restore with
    | true => rw [respond_of_failing hfail, absence, if_pos hfail]; rfl
    | false =>
      have hresp : respond (.restore id pos) w = (w.count .restore).respondRestore id pos :=
        respond_of_not_failing hfail
      have hcount : (w.count .restore).snapshots[id]? = none := hget
      rw [hresp, respondRestore, hcount, absence, hfail]
      rfl
  · cases hfail : w.failing.contains Action.Kind.discard with
    | true => rw [respond_of_failing hfail, absence, if_pos hfail]; rfl
    | false =>
      have hresp : respond (.discard id) w = (w.count .discard).respondDiscard id :=
        respond_of_not_failing hfail
      have hcount : (w.count .discard).snapshots.contains id = false := hmem
      rw [hresp, respondDiscard, hcount, absence, hfail]
      rfl

/-- Whether or not a snapshot was kept, it is not once it was to be deleted, unless the world
refuses to. -/
theorem snapshots_discard (h : w.failing.contains Action.Kind.discard = false)
    (id k : SnapshotId) :
    (respond (.discard id) w).world.snapshots[k]? = if k = id then none else w.snapshots[k]? := by
  have hresp : respond (.discard id) w = (w.count .discard).respondDiscard id :=
    respond_of_not_failing h
  have hsnapshots : (w.count .discard).snapshots = w.snapshots := rfl
  rw [hresp, respondDiscard, hsnapshots]
  cases hmem : w.snapshots.contains id with
  | true =>
    show (w.snapshots.erase id)[k]? = _
    rw [Std.HashMap.getElem?_erase]
    by_cases hk : k = id
    · simp [hk]
    · simp [hk, Ne.symm hk]
  | false =>
    show w.snapshots[k]? = _
    split
    · next hk =>
      rw [hk]
      rw [Std.HashMap.contains_eq_isSome_getElem?] at hmem
      simpa using hmem
    · rfl

/-! ### Errors -/

/-- A world that replies with an error has done nothing but count the action. -/
theorem alike_of_error {a : Action} {e : ActionError} (h : (respond a w).reply = .error e) :
    Alike w (respond a w).world := by
  cases hfail : w.failing.contains a.kind with
  | true =>
    rw [respond_of_failing hfail]
    exact alike_count w _
  | false =>
    have hresp := respond_of_not_failing hfail
    rw [hresp] at h ⊢
    cases a with
    | placeBlock pos name text =>
      simp only [perform] at h ⊢
      cases hstates : BlockStates.parse text with
      | error cause =>
        simp only [respondPlaceBlock, hstates]
        exact alike_count w _
      | ok states =>
        rw [respondPlaceBlock_eq hstates] at h
        exact absurd h (by simp)
    | setHelper pos kind support => exact absurd h (by simp [perform, respondSetHelper])
    | openContainer pos name states =>
      rw [← hresp]
      exact alike_openContainer w pos name states
    | holdSlot slot =>
      simp only [perform, respondHold] at h ⊢
      split
      · next hlt => exact absurd h (by simp [hlt])
      · exact alike_count w _
    | send c timeout =>
      simp only [perform, respondSend] at h ⊢
      cases hparse : Command.parse c.text with
      | error cause => exact alike_logged w c
      | ok parsed =>
        rw [hparse] at h
        rcases apply_cases (w.logged c) c.text timeout parsed with ⟨a, ha, -, -⟩ | ⟨-, hsame⟩
        · exact absurd (h.symm.trans ha) (by simp)
        · -- The command had no effect, so logging it is all that has happened.
          have halike := alike_logged w c
          rw [← hsame] at halike
          exact halike
    | backup start stop => exact absurd h (by simp [perform, respondBackup])
    | restore id pos =>
      simp only [perform, respondRestore] at h ⊢
      cases hget : (w.count (Action.restore id pos).kind).snapshots[id]? with
      | none => exact alike_count w _
      | some snapshot =>
        rw [hget] at h
        exact absurd h (by simp)
    | discard id =>
      simp only [perform, respondDiscard] at h ⊢
      split
      · next hmem => exact absurd h (by simp [hmem])
      · exact alike_count w _

/-- Deleting a snapshot changes nothing but the snapshots. -/
theorem discard_alike (w : World) (id : SnapshotId) :
    ∃ snapshots, Alike { w with snapshots } (respond (.discard id) w).world := by
  cases h : (respond (.discard id) w).reply with
  | ok x => exact ⟨_, (erased_of_discard h).2⟩
  | error e => exact ⟨w.snapshots, alike_of_error h⟩

/-! ### Actions that build -/

/-- A world is **reworked** if nothing has changed but its blocks and the account of the actions
that are no commands. -/
def Reworked (w w' : World) : Prop :=
  ∃ blocks calls lastSupport, w' = { w with blocks, calls, lastSupport }

theorem Reworked.trans {w'' : World} (h : Reworked w w') (h' : Reworked w' w'') :
    Reworked w w'' := by
  obtain ⟨_, _, _, rfl⟩ := h
  obtain ⟨_, _, _, rfl⟩ := h'
  exact ⟨_, _, _, rfl⟩

theorem Rebuilt.reworked (h : Rebuilt w w') : Reworked w w' := by
  obtain ⟨blocks, rfl⟩ := h
  exact ⟨blocks, _, _, rfl⟩

/-- Whether an action **builds**: it may change blocks, and nothing else. -/
def builds : Action → Bool
  | .placeBlock .. | .setHelper .. | .openContainer .. | .restore .. => true
  | _ => false

/-- Building reworks a world, whatever comes of it. -/
theorem reworked_respond {a : Action} (h : builds a = true) (w : World) :
    Reworked w (respond a w).world := by
  have hcount : Reworked w (w.count a.kind) := ⟨_, _, _, rfl⟩
  refine hcount.trans ?_
  cases hfail : w.failing.contains a.kind with
  | true =>
    rw [respond_of_failing hfail]
    exact ⟨_, _, _, rfl⟩
  | false =>
    rw [respond_of_not_failing hfail]
    generalize w.count a.kind = v
    cases a with
    | placeBlock pos name text =>
      show Reworked v (v.respondPlaceBlock pos name text).world
      cases hstates : BlockStates.parse text with
      | error e =>
        simp only [respondPlaceBlock, hstates]
        exact ⟨_, _, _, rfl⟩
      | ok states =>
        rw [respondPlaceBlock_eq hstates]
        dsimp only
        exact (rebuilt_put v pos (BlockName.canonical name) states).reworked
    | setHelper pos kind support =>
      show Reworked v (v.respondSetHelper pos kind support).world
      rw [respondSetHelper_eq]
      dsimp only
      have hsupported := (rebuilt_supported v pos support).reworked
      generalize v.supported pos support = u at hsupported
      have hnoted : Reworked u { u with lastSupport := support } := ⟨_, _, _, rfl⟩
      exact (hsupported.trans hnoted).trans (rebuilt_put _ pos _ _).reworked
    | openContainer pos name states =>
      show Reworked v (v.respondOpen pos name states).world
      rw [respondOpen]
      split <;> exact ⟨_, _, _, rfl⟩
    | restore id pos =>
      show Reworked v (v.respondRestore id pos).world
      rw [respondRestore]
      split
      · exact ⟨_, _, _, rfl⟩
      · exact (rebuilt_putBack v _ pos).reworked
    | holdSlot | send | backup | discard => exact absurd h Bool.false_ne_true

end BlockConsole.World
