import BlockConsole.Text.Basic
import BlockConsole.Text.Number

/-!
# Modes and items of a pattern

A pattern is a description of texts, with letters that stand for themselves, sets in brackets,
choices, repetitions and groups. How a part of it is read depends on a `Mode`. A flag word such as
`ix-u` changes the mode: the flags before the hyphen are turned on, those after it off.

An `Item` is the smallest part of a pattern: a character, or what a backslash and the characters
after it stand for. `readItem` reads one.

What needs a table of letters is there for bytes only: letters of either case, the kinds of
characters, and the edges of words. A part about bytes, in turn, must not fit in the middle of a
character. `Item.isAllowed` and `Item.isAllowedInSet` say which items a mode admits.
-/

namespace BlockConsole.Pattern

/-! ### Modes -/

/-- A **mode**: how a part of a pattern is read. -/
structure Mode where
  /-- Capital and small letters are one. -/
  foldsCase : Bool := false
  /-- The pattern is about characters; otherwise it is about bytes. -/
  ofCharacters : Bool := true
  /-- Blanks and comments are passed over. -/
  isSpaced : Bool := false
deriving DecidableEq

/-- The flags that a flag word may have. Those without a part in `Mode` do not change what a pattern
may contain. -/
def flags : List Char :=
  ['i', 'm', 's', 'U', 'u', 'R', 'x']

/-- Whether a word is a flag word: flags and at most one hyphen, each once and a flag last. -/
def isFlagWord (word : List Char) : Bool :=
  word.all (fun c => flags.contains c || c == '-') && decide word.Nodup && word.getLast? != some '-'

namespace Mode

/-- Turns a flag on or off. -/
def set (on : Bool) (m : Mode) : Char → Mode
  | 'i' => { m with foldsCase := on }
  | 'u' => { m with ofCharacters := on }
  | 'x' => { m with isSpaced := on }
  | _ => m

/-- Changes the mode by a flag word. -/
def change (m : Mode) (word : List Char) : Mode :=
  let on := (word.takeWhile (· != '-')).foldl (set true) m
  (word.dropWhile (· != '-')).foldl (set false) on

end Mode

/-- Passes over blanks, and over comments from a `#` to the end of the line. The flag says whether
the text begins in a comment. -/
def skipSpaced (inComment : Bool) : List Char → List Char
  | [] => []
  | c :: rest =>
    if inComment then skipSpaced (c != '\n') rest
    else if Text.isBlank c then skipSpaced false rest
    else if c = '#' then skipSpaced true rest
    else c :: rest

/-- The text from the next character that counts. -/
def Mode.skip (m : Mode) (cs : List Char) : List Char :=
  if m.isSpaced then skipSpaced false cs else cs

/-! ### Items -/

/-- An **item** of a pattern. -/
inductive Item where
  /-- A character, which may be given as the number of a byte. -/
  | character (c : Char) (asByte : Bool)
  /-- The digits, the blanks or the characters of words, or else all but those. -/
  | kind (negated : Bool)
  /-- A place in the text: an end of it or an edge of a word. -/
  | place (ofWord : Bool)
deriving DecidableEq

namespace Item

/-- Whether an item may stand in a pattern by itself. -/
def isAllowed (m : Mode) : Item → Bool
  | character c asByte =>
    if m.ofCharacters then !m.foldsCase else !(asByte && decide (0x80 ≤ c.toNat))
  | kind negated => !m.ofCharacters && !negated
  | place ofWord => !(ofWord && m.ofCharacters)

/-- Whether an item may stand in a set. -/
def isAllowedInSet (m : Mode) : Item → Bool
  | character c _ => if m.ofCharacters then !m.foldsCase else decide (c.toNat < 0x80)
  | kind negated => !m.ofCharacters && !negated
  | place _ => false

end Item

/-- The characters with a meaning of their own somewhere in a pattern. -/
def metaCharacters : List Char :=
  ['\\', '.', '+', '*', '?', '(', ')', '|', '[', ']', '\x7b', '\x7d', '^', '$', '#', '&', '-', '~']

/-- Whether a backslash before `c` makes it stand for itself. -/
def isEscapable (c : Char) : Bool :=
  metaCharacters.contains c ||
    (decide (c.toNat < 0x80) && !c.isAlphanum && c != '<' && c != '>')

/-- What a letter after a backslash stands for. -/
def letterItem? : Char → Option Item
  | 'a' => some (.character '\x07' false)
  | 'f' => some (.character '\x0c' false)
  | 't' => some (.character '\t' false)
  | 'n' => some (.character '\n' false)
  | 'r' => some (.character '\r' false)
  | 'v' => some (.character '\x0b' false)
  | 'd' | 's' | 'w' => some (.kind false)
  | 'D' | 'S' | 'W' => some (.kind true)
  | 'A' | 'z' => some (.place false)
  | 'b' | 'B' | '<' | '>' => some (.place true)
  | _ => none

/-- How many digits the number of a character has after a letter. -/
def hexLength? : Char → Option Nat
  | 'x' => some 2
  | 'u' => some 4
  | 'U' => some 8
  | _ => none

/-- The next `n` characters that count. -/
def readDigits (m : Mode) : (n : Nat) → List Char → Option (List Char × List Char)
  | 0, cs => some ([], cs)
  | n + 1, cs =>
    match m.skip cs with
    | [] => none
    | d :: rest => (readDigits m n rest).map fun (ds, rest) => (d :: ds, rest)

/-- Reads what stands after a backslash. -/
def readEscape (m : Mode) : List Char → Option (Item × List Char)
  | [] => none
  | c :: rest =>
    match hexLength? c with
    | some n => do
      let (ds, rest) ← readDigits m n rest
      some (.character (← Text.readCodePoint? ds) (c == 'x'), rest)
    | none =>
      if isEscapable c then some (.character c false, rest)
      else (letterItem? c).map fun item => (item, rest)

/-- Reads an item, where `^`, `$` and the dot have no meaning of their own. -/
def readItem (m : Mode) : List Char → Option (Item × List Char)
  | [] => none
  | '\\' :: rest => readEscape m rest
  | c :: rest => some (.character c false, rest)

end BlockConsole.Pattern
