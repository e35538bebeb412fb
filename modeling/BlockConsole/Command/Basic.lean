import BlockConsole.Block.Basic
import BlockConsole.Space.Position

/-!
# Commands

A `Command` is an order to the world in text form. `Command.words` gives its name and arguments,
and `Command.text` joins them by single spaces. An `Acknowledgment` is what the world answers.
-/

namespace BlockConsole

/-! ### Game modes -/

/-- A **game mode** of the agent. -/
inductive GameMode where
  | survival
  | creative
  | adventure
  | spectator
deriving DecidableEq

namespace GameMode

/-- The name of a game mode. -/
def name : GameMode → String
  | survival => "survival"
  | creative => "creative"
  | adventure => "adventure"
  | spectator => "spectator"

/-- The names and aliases of a game mode. -/
def aliases : GameMode → List String
  | survival => ["survival", "s", "0"]
  | creative => ["creative", "c", "1"]
  | adventure => ["adventure", "a", "2"]
  | spectator => ["spectator", "6"]

/-- The game modes. -/
def all : List GameMode := [survival, creative, adventure, spectator]

/-- The game mode with a given name or alias, in capital or small letters. -/
def ofName? (name : String) : Option GameMode :=
  let lower := String.ofList (Text.lowercase name.toList)
  all.find? fun m => m.aliases.contains lower

end GameMode

/-! ### Commands -/

/-- A **command** to the world. -/
inductive Command where
  /-- Moves the agent. -/
  | teleport (target : Position)
  /-- Sets the game mode of the agent. -/
  | gameMode (mode : GameMode)
  /-- Fills the box between two corners with one block. -/
  | fill (start stop : Position) (block : String) (states : BlockStates)
  /-- Places one block. -/
  | setBlock (pos : Position) (block : String) (states : BlockStates)
  /-- Empties the inventory of the agent. -/
  | clearInventory
deriving DecidableEq

namespace Command

/-- The command that fills a box with the block of a given name, without states. -/
def fillWith (start stop : Position) (name : String) : Command :=
  fill start stop (BlockName.canonical name) .empty

/-- The command that places the block of a given name. -/
def placeNamed (pos : Position) (name : String) (states : BlockStates) : Command :=
  setBlock pos (BlockName.canonical name) states

/-- The way a command names the agent as its target. -/
def selfTarget : String := "@s"

/-- The three coordinates of a position as arguments. -/
def coordinateWords (p : Position) : List String :=
  [p.x.text, p.y.text, p.z.text]

/-- The name and the arguments of a command. -/
def words : Command → List String
  | teleport target => "tp" :: selfTarget :: coordinateWords target
  | gameMode mode => ["gamemode", mode.name, selfTarget]
  | fill start stop block states =>
    "fill" :: coordinateWords start ++ coordinateWords stop ++ [block, states.text]
  | setBlock pos block states => "setblock" :: coordinateWords pos ++ [block, states.text]
  | clearInventory => ["clear", selfTarget]

/-- The text of a command. -/
def text (c : Command) : String :=
  " ".intercalate c.words

instance : ToString Command := ⟨text⟩

end Command

/-! ### Acknowledgments -/

/-- The **acknowledgment** of a command: on how many targets it succeeded, and what was said. -/
structure Acknowledgment where
  successCount : Nat
  messages : List String
deriving DecidableEq

namespace Acknowledgment

/-- The acknowledgment without success and without a message. -/
def none : Acknowledgment := ⟨0, []⟩

/-- The acknowledgment of a success. -/
def success (message : String) : Acknowledgment := ⟨1, [message]⟩

/-- The acknowledgment of a failure. -/
def failure (message : String) : Acknowledgment := ⟨0, [message]⟩

/-- Whether a command succeeded on any target. -/
def isSuccess (a : Acknowledgment) : Bool :=
  decide (0 < a.successCount)

/-- The first message, or nothing. -/
def summary (a : Acknowledgment) : String :=
  a.messages.headD ""

end Acknowledgment

end BlockConsole
