import BlockConsole.Block.StatesParser
import BlockConsole.Command.Basic
import BlockConsole.Text.Basic

/-!
# Reading commands

`Command.parse` reads the text of a command. Blanks around it and one slash before it do not
count. The text is split into tokens at blanks, but not at a blank between quotes or within brackets
(`Token.tokenize`). Scanning keeps a `ScanState`: whether the last quote is still open, and how many
brackets are. A bracket between quotes does not count, and a closing bracket without an opening one
is passed over.

The first token is the name of the command, in capital or small letters, and the others are its
arguments (`Command.ofTokens`). Commands address the agent as `@s` and nothing else; a `fill` or
`setblock` may leave out the block states.
-/

namespace BlockConsole

/-! ### Tokens -/

/-- The **state of a scan** over a command text. -/
structure ScanState where
  quoted : Bool
  depth : Nat
deriving DecidableEq

namespace ScanState

/-- The state at the start: outside quotes and brackets. -/
def start : ScanState := ⟨false, 0⟩

/-- The state after one more character. -/
def next (s : ScanState) (c : Char) : ScanState :=
  if c = '"' then { s with quoted := !s.quoted }
  else if s.quoted then s
  else if c = '[' then { s with depth := s.depth + 1 }
  else if c = ']' then { s with depth := s.depth - 1 }
  else s

/-- Whether the scan is outside quotes and brackets. -/
def isOutside (s : ScanState) : Bool :=
  !s.quoted && s.depth == 0

end ScanState

namespace Token

/-- Puts a word in front of a list of words, unless it is empty. -/
def push (word : List Char) (words : List (List Char)) : List (List Char) :=
  if word.isEmpty then words else word :: words

/-- Scans a text from a given state: the word that it begins with, which may be empty, and the
words after that one. -/
def scan (s : ScanState) : List Char → List Char × List (List Char)
  | [] => ([], [])
  | c :: cs =>
    let s' := s.next c
    let (word, words) := scan s' cs
    if s'.isOutside && Text.isBlank c then ([], push word words) else (c :: word, words)

/-- The **tokens** of a command text. -/
def tokenize (cs : List Char) : List (List Char) :=
  let (word, words) := scan .start cs
  push word words

end Token

/-! ### Errors -/

/-- Why a text is not read as a **command**. -/
inductive CommandError where
  | empty
  | unknownCommand (name : String)
  | argumentCount (command : String) (expected got : Nat)
  | invalidCoordinate (text : String)
  | unsupportedTarget (target : String)
  | unknownGameMode (name : String)
  | states (cause : StatesError)
deriving DecidableEq

/-- The wording of an error. -/
def CommandError.message : CommandError → String
  | empty => "empty command"
  | unknownCommand name => "unknown command: " ++ name
  | argumentCount command expected got =>
    "wrong number of arguments for " ++ command ++ ": expected " ++
      Text.natText expected ++ ", got " ++ Text.natText got
  | invalidCoordinate text => "invalid coordinate: " ++ text
  | unsupportedTarget target => "unsupported target: " ++ target ++ " (only @s)"
  | unknownGameMode name => "unknown game mode: " ++ name
  | states cause => "invalid block states: " ++ cause.message

namespace Command

/-! ### Arguments -/

/-- Reads a coordinate. -/
def parseCoordinate (token : List Char) : Except CommandError Word :=
  match Word.read? token with
  | some w => .ok w
  | none => .error (.invalidCoordinate (String.ofList token))

/-- Reads three coordinates. -/
def parsePosition (x y z : List Char) : Except CommandError Position := do
  let x ← parseCoordinate x
  let y ← parseCoordinate y
  let z ← parseCoordinate z
  return ⟨x, y, z⟩

/-- Refuses a target other than the agent. -/
def requireSelf (token : List Char) : Except CommandError Unit :=
  if token = selfTarget.toList then .ok ()
  else .error (.unsupportedTarget (String.ofList token))

/-- Reads a game mode. -/
def parseGameMode (token : List Char) : Except CommandError GameMode :=
  match GameMode.ofName? (String.ofList token) with
  | some mode => .ok mode
  | none => .error (.unknownGameMode (String.ofList token))

/-- Reads the block states of a command. -/
def parseBlockStates (token : List Char) : Except CommandError BlockStates :=
  match BlockStates.parseChars token with
  | .ok states => .ok states
  | .error e => .error (.states e)

/-- The canonical name of the block that a token names. -/
def blockName (token : List Char) : String :=
  BlockName.canonical (String.ofList token)

/-! ### Commands -/

/-- Reads the arguments of `tp`. -/
def parseTeleport : List (List Char) → Except CommandError Command
  | [target, x, y, z] => do
    requireSelf target
    return .teleport (← parsePosition x y z)
  | args => .error (.argumentCount "tp" 4 args.length)

/-- Reads the arguments of `gamemode`. -/
def parseSetMode : List (List Char) → Except CommandError Command
  | [mode] => do
    return .gameMode (← parseGameMode mode)
  | [mode, target] => do
    requireSelf target
    return .gameMode (← parseGameMode mode)
  | args => .error (.argumentCount "gamemode" 1 args.length)

/-- Reads the arguments of `fill`. -/
def parseFill : List (List Char) → Except CommandError Command
  | [x₁, y₁, z₁, x₂, y₂, z₂, block] => do
    let start ← parsePosition x₁ y₁ z₁
    let stop ← parsePosition x₂ y₂ z₂
    return .fill start stop (blockName block) .empty
  | [x₁, y₁, z₁, x₂, y₂, z₂, block, states] => do
    let start ← parsePosition x₁ y₁ z₁
    let stop ← parsePosition x₂ y₂ z₂
    return .fill start stop (blockName block) (← parseBlockStates states)
  | args => .error (.argumentCount "fill" 7 args.length)

/-- Reads the arguments of `setblock`. -/
def parseSetBlock : List (List Char) → Except CommandError Command
  | [x, y, z, block] => do
    return .setBlock (← parsePosition x y z) (blockName block) .empty
  | [x, y, z, block, states] => do
    let pos ← parsePosition x y z
    return .setBlock pos (blockName block) (← parseBlockStates states)
  | args => .error (.argumentCount "setblock" 4 args.length)

/-- Reads the arguments of `clear`. -/
def parseClear : List (List Char) → Except CommandError Command
  | [target] => do
    requireSelf target
    return .clearInventory
  | args => .error (.argumentCount "clear" 1 args.length)

/-- Reads a command from its tokens. -/
def ofTokens : List (List Char) → Except CommandError Command
  | [] => .error .empty
  | name :: args =>
    let lower := String.ofList (Text.lowercase name)
    if lower = "tp" ∨ lower = "teleport" then parseTeleport args
    else if lower = "gamemode" then parseSetMode args
    else if lower = "fill" then parseFill args
    else if lower = "setblock" then parseSetBlock args
    else if lower = "clear" then parseClear args
    else .error (.unknownCommand lower)

/-- A text without one slash at its start. -/
def dropSlash : List Char → List Char
  | '/' :: cs => cs
  | cs => cs

/-- Reads a **command**. -/
def parse (s : String) : Except CommandError Command :=
  ofTokens (Token.tokenize (dropSlash (Text.trim s.toList)))

end Command

end BlockConsole
