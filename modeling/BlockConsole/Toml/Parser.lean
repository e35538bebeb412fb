import BlockConsole.Text.Number
import BlockConsole.Toml.Number
import BlockConsole.Toml.Value

/-!
# Reading TOML

`Toml.parse` reads a document with comments, bare, quoted and dotted keys, headers `[a.b]` and
`[[a.b]]`, inline tables and arrays, basic and literal strings on one line, decimal integers,
numbers with a fraction or an exponent, and truth values. Anything else is refused, and so is a
document that defines a key or a table twice. Arrays and inline tables may stand inside each other,
and keys behind each other, up to a depth (`depthLimit`).

A reader takes the characters that are left and gives back what it read and the characters after
it. The readers of values call each other; each call reads at least one character, so a bound on
their number by the length of the text is never felt.
-/

namespace BlockConsole.Toml

/-! ### Space and comments -/

/-- Whether `c` is white space within a line. -/
def isSpace (c : Char) : Bool :=
  c == ' ' || c == '\t'

/-- The text without white space at its start. -/
def skipSpace (cs : List Char) : List Char :=
  cs.dropWhile isSpace

/-- Whether `c` may stand in a comment or a string. -/
def isPrintable (c : Char) : Bool :=
  c == '\t' || (32 ≤ c.toNat && c.toNat != 127)

/-- Reads the end of a line: white space, a comment, and a line break or the end of the text. -/
def lineEnd (cs : List Char) : Option (List Char) :=
  let rest := match skipSpace cs with
    | '#' :: comment => comment.dropWhile isPrintable
    | other => other
  match rest with
  | [] => some []
  | '\n' :: after => some after
  | '\r' :: '\n' :: after => some after
  | _ => none

/-- Passes over white space, line breaks and comments. The flag says whether the text begins in a
comment. -/
def skipLines (inComment : Bool) : List Char → Option (List Char)
  | [] => some []
  | '\r' :: '\n' :: rest => skipLines false rest
  | '\n' :: rest => skipLines false rest
  | c :: rest =>
    if inComment then if isPrintable c then skipLines true rest else none
    else if isSpace c then skipLines false rest
    else if c = '#' then skipLines true rest
    else some (c :: rest)

/-! ### Strings -/

/-- The character that a letter after a backslash stands for. -/
def escaped? : Char → Option Char
  | 'b' => some '\x08'
  | 't' => some '\t'
  | 'n' => some '\n'
  | 'f' => some '\x0c'
  | 'r' => some '\r'
  | '"' => some '"'
  | '\\' => some '\\'
  | _ => none

/-- Reads the rest of a basic string, up to the closing quote. -/
def basicString : List Char → Option (List Char × List Char)
  | [] => none
  | '"' :: rest => some ([], rest)
  | '\\' :: 'u' :: a :: b :: c :: d :: rest => do
    let ch ← Text.readCodePoint? [a, b, c, d]
    let (s, rest) ← basicString rest
    some (ch :: s, rest)
  | '\\' :: 'U' :: a :: b :: c :: d :: e :: f :: g :: h :: rest => do
    let ch ← Text.readCodePoint? [a, b, c, d, e, f, g, h]
    let (s, rest) ← basicString rest
    some (ch :: s, rest)
  | '\\' :: e :: rest => do
    let ch ← escaped? e
    let (s, rest) ← basicString rest
    some (ch :: s, rest)
  | c :: rest =>
    if isPrintable c && c != '\\' then do
      let (s, rest) ← basicString rest
      some (c :: s, rest)
    else none

/-- Reads the rest of a literal string, up to the closing apostrophe. -/
def literalString (cs : List Char) : Option (List Char × List Char) :=
  let inText (c : Char) : Bool := isPrintable c && c != '\x27'
  match cs.dropWhile inText with
  | '\x27' :: rest => some (cs.takeWhile inText, rest)
  | _ => none

/-! ### Keys -/

/-- Whether `c` may stand in a bare key. -/
def isBareKey (c : Char) : Bool :=
  c.isAlphanum || c == '_' || c == '-'

/-- Reads one key, bare or between quotes. -/
def simpleKey : List Char → Option (String × List Char)
  | '"' :: rest => do
    let (s, rest) ← basicString rest
    some (String.ofList s, rest)
  | '\x27' :: rest => do
    let (s, rest) ← literalString rest
    some (String.ofList s, rest)
  | cs =>
    match cs.takeWhile isBareKey with
    | [] => none
    | key => some (String.ofList key, cs.dropWhile isBareKey)

/-- How many keys may stand with dots between them, and how many values inside each other. -/
def depthLimit : Nat := 79

/-- Reads up to `bound` keys with dots between them and passes over the white space after them: all
but the last one, and the last one. -/
def dottedKey : (bound : Nat) → List Char → Option ((List String × String) × List Char)
  | 0, _ => none
  | bound + 1, cs => do
    let (key, rest) ← simpleKey (skipSpace cs)
    match skipSpace rest with
    | '.' :: more => do
      let ((path, last), rest) ← dottedKey bound more
      some ((key :: path, last), rest)
    | rest => some (([], key), rest)

/-! ### Words -/

/-- Whether `c` may stand in a number or a truth value. -/
def isWordChar (c : Char) : Bool :=
  c.isAlphanum || c == '_' || c == '-' || c == '+' || c == '.'

/-- The value that a word stands for. -/
def readWord? (word : List Char) : Option Value :=
  if word = "true".toList then some (.boolean true)
  else if word = "false".toList then some (.boolean false)
  else match readInteger? word with
    | some i => some (.integer i)
    | none => if isFloat word then some .float else none

/-! ### Values -/

mutual

/-- Reads a value, in which `room` values may stand inside each other. -/
def value : (bound room : Nat) → List Char → Option (Value × List Char)
  | 0, _, _ => none
  | bound + 1, room, cs =>
    match cs, room with
    | '"' :: rest, _ => do
      let (s, rest) ← basicString rest
      some (.text (String.ofList s), rest)
    | '\x27' :: rest, _ => do
      let (s, rest) ← literalString rest
      some (.text (String.ofList s), rest)
    | '[' :: _, 0 => none
    | '[' :: rest, room + 1 => do
      let (items, rest) ← arrayItems bound room rest
      some (.array items, rest)
    | '\x7b' :: _, 0 => none
    | '\x7b' :: rest, room + 1 =>
      match skipSpace rest with
      | '\x7d' :: rest => some (.table .inline [], rest)
      | rest => do
        let (t, rest) ← inlineEntries bound room ⟨.inline, []⟩ rest
        some (t.toValue, rest)
    | _, _ => (readWord? (cs.takeWhile isWordChar)).map fun v => (v, cs.dropWhile isWordChar)

/-- Reads the rest of an array, before an item or the closing bracket. -/
def arrayItems : (bound room : Nat) → List Char → Option (List Value × List Char)
  | 0, _, _ => none
  | bound + 1, room, cs => do
    match ← skipLines false cs with
    | ']' :: rest => some ([], rest)
    | cs => do
      let (v, rest) ← value bound room cs
      match ← skipLines false rest with
      | ',' :: rest => do
        let (vs, rest) ← arrayItems bound room rest
        some (v :: vs, rest)
      | ']' :: rest => some ([v], rest)
      | _ => none

/-- Reads the rest of an inline table, before a key, and adds its entries to a table. -/
def inlineEntries : (bound room : Nat) → Table → List Char → Option (Table × List Char)
  | 0, _, _, _ => none
  | bound + 1, room, t, cs => do
    match ← dottedKey depthLimit cs with
    | ((path, key), '=' :: rest) => do
      let (v, rest) ← value bound room (skipSpace rest)
      let t ← t.insertKey path key v
      match skipSpace rest with
      | ',' :: rest => inlineEntries bound room t rest
      | '\x7d' :: rest => some (t, rest)
      | _ => none
    | _ => none

end

/-! ### Documents -/

/-- Reads the lines of a document. The keys of the current line belong to the table at `current`,
and `root` is what was read before. -/
def document : (bound : Nat) → (current : List String) → (root : Table) → List Char → Option Table
  | 0, _, _, _ => none
  | bound + 1, current, root, cs =>
    match skipSpace cs with
    | [] => some root
    | '[' :: '[' :: rest => do
      match ← dottedKey depthLimit rest with
      | ((path, key), ']' :: ']' :: rest) => do
        let root ← root.addItem path key
        document bound (path ++ [key]) root (← lineEnd rest)
      | _ => none
    | '[' :: rest => do
      match ← dottedKey depthLimit rest with
      | ((path, key), ']' :: rest) => do
        let root ← root.openSection path key
        document bound (path ++ [key]) root (← lineEnd rest)
      | _ => none
    | line =>
      match lineEnd line with
      | some rest => document bound current root rest
      | none => do
        match ← dottedKey depthLimit line with
        | ((path, key), '=' :: rest) => do
          let (v, rest) ← value (rest.length + 1) depthLimit (skipSpace rest)
          let root ← Table.updateAt false current (Table.insertKey path key v) root
          document bound current root (← lineEnd rest)
        | _ => none

/-- A text without the mark that may begin it. -/
def dropByteOrderMark : List Char → List Char
  | '\uFEFF' :: cs => cs
  | cs => cs

/-- Reads a **document**. -/
def parse (s : String) : Option Table :=
  let cs := dropByteOrderMark s.toList
  document (cs.length + 1) [] ⟨.header, []⟩ cs

end BlockConsole.Toml
