import BlockConsole.Action
import BlockConsole.Block.Belief
import Std.Data.HashMap

/-!
# A world in memory

A `World` is an environment that needs no game. It holds the blocks that are not air, where the
player stands, the game mode, the hotbar slot in hand and the snapshots that were taken. It keeps
account of the actions it received, and on demand it refuses all actions of one kind or loses the
acknowledgments of teleports (`World.fail`, `World.loseTeleports`).
-/

namespace BlockConsole

/-- A **block** in the world: its canonical name and its states. -/
structure Block where
  name : String
  states : BlockStates
deriving DecidableEq

/-- What is found at a position, as reports show it. -/
def Block.inspect : Option Block → String
  | none => "None"
  | some b => "Some((" ++ Text.quoted b.name ++ ", " ++ b.states.inspect ++ "))"

/-- The **kinds** of actions, as they are counted. -/
inductive Action.Kind where
  | placeBlock
  | setHelper
  | openContainer
  | holdSlot
  | send
  | backup
  | restore
  | discard
deriving DecidableEq

namespace Action.Kind

/-- The name of a kind of actions. -/
def name : Action.Kind → String
  | placeBlock => "place_block"
  | setHelper => "set_helper_block"
  | openContainer => "open_container"
  | holdSlot => "change_held_slot"
  | send => "send_command"
  | backup => "backup_region"
  | restore => "revert_snapshot"
  | discard => "delete_snapshot"

/-- The kinds of actions. -/
def all : List Action.Kind :=
  [placeBlock, setHelper, openContainer, holdSlot, send, backup, restore, discard]

end Action.Kind

/-- The kind of an action. -/
def Action.kind : Action → Action.Kind
  | .placeBlock .. => .placeBlock
  | .setHelper .. => .setHelper
  | .openContainer .. => .openContainer
  | .holdSlot _ => .holdSlot
  | .send .. => .send
  | .backup .. => .backup
  | .restore .. => .restore
  | .discard _ => .discard

/-- A **snapshot** of a box: its extent, and the blocks in it by their offset from its lowest
corner. -/
structure Snapshot where
  extent : Offset
  blocks : List (Offset × Block)

/-- A **world** in memory. -/
structure World where
  /-- The blocks that are not air. -/
  blocks : Std.HashMap Position Block := {}
  player : Position := .origin
  gameMode : GameMode := .survival
  held : Nat := 0
  snapshots : Std.HashMap SnapshotId Snapshot := {}
  nextSnapshot : Nat := 1
  /-- The kinds of the actions received since the last reset, the last one first. -/
  calls : List Action.Kind := []
  /-- How many teleports succeeded since the last reset. -/
  teleports : Nat := 0
  /-- The commands received since the last reset. -/
  commandLog : Array String := #[]
  /-- The kinds of actions that are refused. -/
  failing : List Action.Kind := []
  teleportsLost : Bool := false
  /-- The support block that the last helper asked for. -/
  lastSupport : Option String := none

namespace World

/-! ### Blocks -/

/-- The block at a position; `none` is air. -/
def blockAt (w : World) (p : Position) : Option Block :=
  w.blocks[p]?

/-- The world with the block of a given name at a position. -/
def put (w : World) (p : Position) (name : String) (states : BlockStates) : World :=
  let name := BlockName.canonical name
  if name = BlockName.air then { w with blocks := w.blocks.erase p }
  else { w with blocks := w.blocks.insert p ⟨name, states⟩ }

/-- The world with the block of a given name at each of some positions. -/
def putAll (w : World) (ps : List Position) (name : String) (states : BlockStates) : World :=
  ps.foldl (fun w p => w.put p name states) w

/-! ### Account and failures on demand -/

/-- How many actions of a kind were received. -/
def callCount (w : World) (k : Action.Kind) : Nat :=
  w.calls.count k

/-- Forgets which actions were received. -/
def resetAccount (w : World) : World :=
  { w with calls := [], teleports := 0, commandLog := #[], lastSupport := none }

/-- Refuses all actions of a kind from now on. -/
def fail (w : World) (k : Action.Kind) : World :=
  { w with failing := k :: w.failing }

/-- No longer refuses actions of a kind. -/
def recover (w : World) (k : Action.Kind) : World :=
  { w with failing := w.failing.filter (· != k) }

/-- Loses the acknowledgments of teleports, or no longer does. -/
def loseTeleports (w : World) (lose : Bool) : World :=
  { w with teleportsLost := lose }

/-- Counts an action. -/
def count (w : World) (k : Action.Kind) : World :=
  { w with calls := k :: w.calls }

end World

end BlockConsole
