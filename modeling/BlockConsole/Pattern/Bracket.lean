import BlockConsole.Pattern.Item

/-!
# Sets in brackets

A set is written as `[a-z_]`, or `[^a-z_]` for all other characters. It may hold characters, ranges,
kinds of characters, named sets such as `[:alpha:]`, sets in brackets of their own, and `&&`, `--`
and `~~` between two halves, the left of which reaches back to the start. `readSet` reads a set from
after its first bracket on, and says how deeply its parts are nested.

The depth of a pattern is the number of its groups, repetitions, sets, operators, rows and choices
that stand inside each other. A single character has the depth zero. A pattern that is nested more
deeply than `depthLimit` is refused.
-/

namespace BlockConsole.Pattern

/-! ### Depth -/

/-- How deeply a pattern may be nested. -/
def depthLimit : Nat := 250

/-- The **depth of parts** that stand side by side, given the depth of each. A part that stands
alone counts as itself. -/
def joinedDepth : List Nat → Nat
  | [] => 0
  | [depth] => depth
  | depths => depths.foldl max 0 + 1

/-! ### The beginning of a set -/

/-- The names of sets. -/
def setNames : List String :=
  ["alnum", "alpha", "ascii", "blank", "cntrl", "digit", "graph", "lower", "print", "punct",
    "space", "upper", "word", "xdigit"]

/-- Whether a mode admits a named set. -/
def admitsNamedSet (m : Mode) (negated : Bool) : Bool :=
  if m.ofCharacters then !m.foldsCase else !negated

/-- Reads a named set from after its bracket on: whether it is negated, and the rest. -/
def readNamedSet : List Char → Option (Bool × List Char)
  | ':' :: cs =>
    let (negated, cs) : Bool × List Char := match cs with
      | '^' :: rest => (true, rest)
      | cs => (false, cs)
    match cs.dropWhile (· != ':') with
    | ':' :: ']' :: rest =>
      if setNames.contains (String.ofList (cs.takeWhile (· != ':'))) then some (negated, rest)
      else none
    | _ => none
  | _ => none

/-- Reads the hyphens that a set begins with, which stand for themselves: their number, and the
rest. -/
def readHyphens (m : Mode) : (bound : Nat) → List Char → Nat × List Char
  | 0, cs => (0, cs)
  | bound + 1, cs =>
    match m.skip cs with
    | '-' :: rest =>
      let (n, rest) := readHyphens m bound rest
      (n + 1, rest)
    | cs => (0, cs)

/-- What a set begins with. -/
structure Opened where
  negated : Bool
  /-- How many characters that stand for themselves come at once. -/
  literals : Nat

/-- Whether a mode admits what a set begins with. -/
def Opened.isAllowed (m : Mode) (o : Opened) : Bool :=
  if m.ofCharacters then !m.foldsCase || o.literals == 0 else !o.negated

/-- Reads what a set begins with. A closing bracket that comes first stands for itself. -/
def openSet (m : Mode) (cs : List Char) : Opened × List Char :=
  let (negated, cs) : Bool × List Char := match m.skip cs with
    | '^' :: rest => (true, m.skip rest)
    | cs => (false, cs)
  match cs with
  | ']' :: rest => (⟨negated, 1⟩, rest)
  | cs =>
    let (literals, rest) := readHyphens m cs.length cs
    (⟨negated, literals⟩, rest)

/-- The character that decides whether a hyphen before `cs` makes a range. A comment is looked into
and not passed over. -/
def lookAhead? (m : Mode) (cs : List Char) : Option Char :=
  if m.isSpaced then
    match cs.dropWhile Text.isBlank with
    | '#' :: rest => (rest.dropWhile Text.isBlank).head?
    | rest => rest.head?
  else cs.head?

/-- Reads an item of a set, or a range. A hyphen before a closing bracket or another hyphen does not
make a range. -/
def readRange (m : Mode) (cs : List Char) : Option (List Char) := do
  let (first, rest) ← readItem m cs
  guard (first.isAllowedInSet m)
  match m.skip rest with
  | '-' :: more =>
    if lookAhead? m more = some ']' || lookAhead? m more = some '-' then some ('-' :: more)
    else do
      let (last, rest) ← readItem m (m.skip more)
      guard (last.isAllowedInSet m)
      match first, last with
      | .character a _, .character b _ => if a ≤ b then some rest else none
      | _, _ => none
  | rest => some rest

/-! ### The inside of a set -/

/-- A set that is **open**: how deeply nested the left half of its last operator is, if it has one,
and how deeply each item since then. -/
structure OpenSet where
  left : Option Nat := none
  items : List Nat := []

namespace OpenSet

/-- How deeply the inside of a set is nested. -/
def depth (s : OpenSet) : Nat :=
  match s.left with
  | none => joinedDepth s.items
  | some left => max left (joinedDepth s.items) + 1

/-- The set with one more item. -/
def add (s : OpenSet) (depth : Nat) : OpenSet :=
  { s with items := depth :: s.items }

/-- The set after an operator. -/
def operate (s : OpenSet) : OpenSet :=
  { left := some s.depth }

end OpenSet

/-- Reads the rest of a set `s` inside the sets `outer`, up to the end of the outermost one: how
deeply that is nested, and the rest. -/
def readSets (m : Mode) : (bound : Nat) → (s : OpenSet) → (outer : List OpenSet) → List Char →
    Option (Nat × List Char)
  | 0, _, _, _ => none
  | bound + 1, s, outer, cs =>
    match m.skip cs with
    | [] => none
    | ']' :: rest =>
      match outer with
      | [] => some (s.depth + 1, rest)
      | next :: outer => readSets m bound (next.add (s.depth + 1)) outer rest
    | '&' :: '&' :: rest => readSets m bound s.operate outer rest
    | '-' :: '-' :: rest => readSets m bound s.operate outer rest
    | '~' :: '~' :: rest => readSets m bound s.operate outer rest
    | '[' :: rest =>
      match readNamedSet rest with
      | some (negated, rest) =>
        if admitsNamedSet m negated then readSets m bound (s.add 0) outer rest else none
      | none =>
        let (opened, rest) := openSet m rest
        if opened.isAllowed m then
          readSets m bound { items := List.replicate opened.literals 0 } (s :: outer) rest
        else none
    | cs => (readRange m cs).bind (readSets m bound (s.add 0) outer)

/-- Reads a **set** from after its first bracket on: how deeply it is nested, and the rest. -/
def readSet (m : Mode) (cs : List Char) : Option (Nat × List Char) :=
  let (opened, rest) := openSet m cs
  if opened.isAllowed m then
    readSets m (rest.length + 1) { items := List.replicate opened.literals 0 } [] rest
  else none

end BlockConsole.Pattern
