import BlockConsole.Command.Parser
import BlockConsole.Log
import BlockConsole.Text.Number

/-!
# Actions and environments

The console reaches the world through an `Action` at a time and waits for the reply, whose type
depends on the action (`Action.Reply`). An `Environment` is anything that replies to actions: it
has states of its own, so its replies may depend on all that went before, and it may refuse any
action with an `ActionError`. Nothing else is assumed of it.

`Environment.sendChecked` sends a command and turns an acknowledgment without success into an
error.
-/

namespace BlockConsole

/-! ### Helpers and snapshots -/

/-- A **helper**: a block that the console places by an action of its own. -/
inductive Helper where
  | anvil
  | loom
deriving DecidableEq

namespace Helper

/-- The name of the block. -/
def blockName : Helper → String
  | anvil => BlockName.anvil
  | loom => BlockName.loom

end Helper

/-- The **number of a snapshot** that an environment took. -/
structure SnapshotId where
  number : Nat
deriving DecidableEq, Hashable

/-- A snapshot as it is named in messages. -/
def SnapshotId.text (id : SnapshotId) : String :=
  "snapshot#" ++ Text.natText id.number

/-! ### Errors -/

/-- Why an **action failed**. -/
inductive ActionError where
  /-- No acknowledgment came within so many milliseconds. -/
  | timeout (action : String) (waited : Nat)
  | rejected (action : String) (reason : String)
  /-- A command was acknowledged without success. -/
  | commandFailed (command : String) (message : String)
  | unknownSnapshot (id : SnapshotId)
  | transport (cause : String)
deriving DecidableEq

/-- The wording of an error. -/
def ActionError.message : ActionError → String
  | timeout action waited =>
    "timed out after " ++ Text.durationText waited ++ " waiting for " ++ action
  | rejected action reason => action ++ " rejected: " ++ reason
  | commandFailed command message => "command \x60" ++ command ++ "\x60 failed: " ++ message
  | unknownSnapshot id => "unknown " ++ id.text
  | transport cause => "transport error: " ++ cause

/-! ### Actions -/

/-- An **action**: a request to the world. -/
inductive Action where
  /-- Places a block with a name and the text of its states. -/
  | placeBlock (pos : Position) (name states : String)
  /-- Places a helper, and first a block of the given name under it. -/
  | setHelper (pos : Position) (kind : Helper) (support : Option String)
  /-- Opens the container that should be at a position. -/
  | openContainer (pos : Position) (name : String) (states : BlockStates)
  /-- Takes the content of a hotbar slot in hand. -/
  | holdSlot (slot : Nat)
  /-- Sends a command and waits so many milliseconds for its acknowledgment. -/
  | send (command : Command) (timeout : Nat)
  /-- Captures the box between two corners. -/
  | backup (start stop : Position)
  /-- Puts a captured box back with its lowest corner at a position. -/
  | restore (id : SnapshotId) (pos : Position)
  /-- Deletes a snapshot. -/
  | discard (id : SnapshotId)

/-- What a successful action replies with. -/
@[reducible] def Action.Reply : Action → Type
  | .placeBlock .. => Unit
  | .setHelper .. => BlockStates
  | .openContainer .. => Bool
  | .holdSlot _ => Unit
  | .send .. => Acknowledgment
  | .backup .. => SnapshotId
  | .restore .. => Unit
  | .discard _ => Unit

/-! ### Environments -/

/-- What comes of an action: the reply, the state of the environment after it, and what the
environment had to say meanwhile. -/
structure Response (W α : Type) where
  reply : Except ActionError α
  world : W
  log : List LogEntry

/-- An **environment** with states `W` replies to every action in every state. -/
class Environment (W : Type) where
  respond : (action : Action) → W → Response W action.Reply

/-- The outcome of a command: an acknowledgment without success is an error. -/
def Command.outcome (c : Command) :
    Except ActionError Acknowledgment → Except ActionError Acknowledgment
  | .ok a => if a.isSuccess then .ok a else .error (.commandFailed c.text a.summary)
  | .error e => .error e

/-- A command is successful if its reply says so. -/
theorem Command.outcome_eq_ok_iff {c : Command} {reply : Except ActionError Acknowledgment}
    {a : Acknowledgment} : c.outcome reply = .ok a ↔ reply = .ok a ∧ a.isSuccess = true := by
  cases reply with
  | error e => simp [outcome]
  | ok b =>
    simp only [outcome]
    split
    · next hb => exact ⟨fun h => ⟨h, Except.ok.inj h ▸ hb⟩, fun h => h.1⟩
    · next hb => exact ⟨fun h => absurd h (by simp), fun h => absurd (Except.ok.inj h.1 ▸ h.2) hb⟩

/-- Sends a command and insists on success. -/
def Environment.sendChecked {W : Type} [Environment W] (c : Command) (timeout : Nat) (w : W) :
    Response W Acknowledgment :=
  let r := respond (.send c timeout) w
  { r with reply := c.outcome r.reply }

end BlockConsole
