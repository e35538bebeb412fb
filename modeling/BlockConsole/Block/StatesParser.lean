import BlockConsole.Block.Basic
import BlockConsole.Text.Basic

/-!
# Reading block states

`BlockStates.parse` reads the canonical form and looser spellings of it. The text is a list of
entries between brackets with commas between them; a comma between quotes does not count, and a
blank entry is passed over. An entry is a key, a separator `=` or `:`, and a value. A key may
stand between quotes or bare; a value may stand between quotes, and then it is a text, or bare,
and then it is a truth value, a number or else a text. Blanks around entries, keys and values do
not count. A blank text is the empty map.

Quotes are never escaped: a quoted key ends at the next quote, a quoted value at the last one.
-/

namespace BlockConsole

/-- Why a text is not read as **block states**. -/
inductive StatesError where
  | missingBrackets
  | missingSeparator (entry : String)
  | unterminatedString
  | emptyKey
  | emptyValue
deriving DecidableEq

/-- The wording of an error. -/
def StatesError.message : StatesError → String
  | missingBrackets => "block states must be enclosed in brackets"
  | missingSeparator entry => "missing '=' in state entry: " ++ entry
  | unterminatedString => "unterminated quoted string"
  | emptyKey => "empty state key"
  | emptyValue => "empty state value"

namespace BlockStates

/-! ### Splitting -/

/-- Puts a character in front of the first piece of a text. -/
def consHead (c : Char) : List (List Char) → List (List Char)
  | [] => [[c]]
  | piece :: rest => (c :: piece) :: rest

/-- The pieces of a text between the commas outside quotes, if every quote is closed. The flag
says whether the text begins between quotes. -/
def entryPieces? (quoted : Bool) : List Char → Option (List (List Char))
  | [] => if quoted then none else some [[]]
  | c :: cs =>
    if c = ',' && !quoted then (entryPieces? quoted cs).map ([] :: ·)
    else (entryPieces? (quoted != (c == '"')) cs).map (consHead c)

/-- Whether `c` separates a key from its value. -/
def isSeparator (c : Char) : Bool :=
  c == '=' || c == ':'

/-- The text between an opening bracket and a closing one. -/
def withinBrackets? : List Char → Option (List Char)
  | '[' :: rest => if rest.getLast? = some ']' then some rest.dropLast else none
  | _ => none

/-- Splits an entry into its key and what follows the separator. -/
def cutKey (entry : List Char) : Except StatesError (List Char × List Char) :=
  let missing := StatesError.missingSeparator (String.ofList entry)
  match entry with
  | '"' :: rest =>
    match rest.dropWhile (· != '"') with
    | [] => .error .unterminatedString
    | _ :: afterQuote =>
      match Text.trimStart afterQuote with
      | c :: value =>
        if isSeparator c then .ok (rest.takeWhile (· != '"'), value) else .error missing
      | [] => .error missing
  | _ =>
    match entry.dropWhile (!isSeparator ·) with
    | [] => .error missing
    | _ :: value => .ok (Text.trim (entry.takeWhile (!isSeparator ·)), value)

/-! ### Values -/

/-- The value that a text without quotes stands for. -/
def bareValue (cs : List Char) : StateValue :=
  if cs = "true".toList then .bool true
  else if cs = "false".toList then .bool false
  else match Word.read? cs with
    | some i => .int i
    | none => .text (String.ofList cs)

/-- Reads a value, which has no blanks at its ends. -/
def readValue : List Char → Except StatesError StateValue
  | [] => .error .emptyValue
  | '"' :: rest =>
    if rest.getLast? = some '"' then .ok (.text (String.ofList rest.dropLast))
    else .error .unterminatedString
  | cs => .ok (bareValue cs)

/-! ### Entries -/

/-- Reads an entry, which is not blank and has no blanks at its ends. -/
def readEntry (entry : List Char) : Except StatesError (String × StateValue) := do
  let (key, rest) ← cutKey entry
  if key.isEmpty then .error .emptyKey
  else
    let value ← readValue (Text.trim rest)
    .ok (String.ofList key, value)

/-- Reads entries from left to right and puts them into a map. -/
def readEntries (s : BlockStates) : List (List Char) → Except StatesError BlockStates
  | [] => .ok s
  | piece :: rest =>
    if (Text.trim piece).isEmpty then readEntries s rest
    else do
      let (key, value) ← readEntry (Text.trim piece)
      readEntries (s.insert key value) rest

/-- Reads block states from a list of characters. -/
def parseChars (cs : List Char) : Except StatesError BlockStates :=
  let trimmed := Text.trim cs
  if trimmed.isEmpty then .ok empty
  else match withinBrackets? trimmed with
    | none => .error .missingBrackets
    | some inner =>
      match entryPieces? false inner with
      | none => .error .unterminatedString
      | some pieces => readEntries empty pieces

/-- Reads **block states**. -/
def parse (s : String) : Except StatesError BlockStates :=
  parseChars s.toList

end BlockStates

end BlockConsole
