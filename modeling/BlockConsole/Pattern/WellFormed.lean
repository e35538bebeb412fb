import BlockConsole.Pattern.Bracket
import BlockConsole.Text.Letter

/-!
# Well-formed patterns

`isWellFormed` says whether a text is a pattern: its groups and sets are closed, every repetition
has something to repeat, no two groups have one name, every part is allowed in its mode, and all is
not nested too deeply. Repetitions with a count in braces are not part of these patterns.
-/

namespace BlockConsole.Pattern

/-- What an opening parenthesis begins. -/
inductive Opening where
  /-- A group that is read in a mode, with its name if it has one. -/
  | group (m : Mode) (name : Option (List Char))
  /-- Nothing: it changes the mode of the group around it. -/
  | change (m : Mode)
deriving DecidableEq

/-- Whether a text can name a group. -/
def isGroupName : List Char → Bool
  | [] => false
  | c :: rest =>
    (c == '_' || Text.isLetter c) && rest.all fun c =>
      ['_', '.', '[', ']'].contains c || Text.isLetter c || Text.isNumeral c

/-- Reads the name of a group and the angle bracket after it. -/
def readGroupName (cs : List Char) : Option (List Char × List Char) :=
  match cs.dropWhile (· != '>') with
  | _ :: rest =>
    let name := cs.takeWhile (· != '>')
    if isGroupName name then some (name, rest) else none
  | [] => none

/-- Whether `c` belongs to what stands before a parenthesis or colon that ends a flag word. -/
def isBeforeEnd (c : Char) : Bool :=
  c != ')' && c != ':'

/-- Reads what stands after an opening parenthesis, before the inside of a group. -/
def readOpening (m : Mode) (cs : List Char) : Option (Opening × List Char) :=
  match m.skip cs with
  | '?' :: 'P' :: '<' :: rest | '?' :: '<' :: rest =>
    (readGroupName rest).map fun (name, rest) => (.group m (some name), rest)
  | '?' :: rest =>
    let word := rest.takeWhile isBeforeEnd
    if isFlagWord word then
      match rest.dropWhile isBeforeEnd with
      | ':' :: rest => some (.group (m.change word) none, rest)
      | ')' :: rest => if word.isEmpty then none else some (.change (m.change word), rest)
      | _ => none
    else none
  | rest => some (.group m none, rest)

/-- Reads an item outside of sets. -/
def readAlone (m : Mode) : List Char → Option (List Char)
  | '.' :: rest => if m.ofCharacters then some rest else none
  | '^' :: rest => some rest
  | '$' :: rest => some rest
  | cs => do
    let (item, rest) ← readItem m cs
    if item.isAllowed m then some rest else none

/-- A group that is **open**: the mode at the place that is read, how deeply each finished branch of
it is nested, and each part of the current branch, last first. A part that only changes the mode has
no depth. -/
structure OpenGroup where
  mode : Mode
  branches : List Nat := []
  parts : List (Option Nat) := []

namespace OpenGroup

/-- How deeply the current branch is nested. -/
def branchDepth (g : OpenGroup) : Nat :=
  joinedDepth (g.parts.map (·.getD 0))

/-- How deeply the inside of a group is nested. -/
def depth (g : OpenGroup) : Nat :=
  joinedDepth (g.branchDepth :: g.branches)

/-- The group with one more part. -/
def add (g : OpenGroup) (depth : Nat) : OpenGroup :=
  { g with parts := some depth :: g.parts }

/-- The group with its mode changed. -/
def change (g : OpenGroup) (m : Mode) : OpenGroup :=
  { g with mode := m, parts := none :: g.parts }

/-- The group with another branch. -/
def branch (g : OpenGroup) : OpenGroup :=
  { g with branches := g.branchDepth :: g.branches, parts := [] }

/-- The group with its last part repeated, if that can be. -/
def repeatLast? (g : OpenGroup) : Option OpenGroup :=
  match g.parts with
  | some depth :: parts => some { g with parts := some (depth + 1) :: parts }
  | _ => none

end OpenGroup

/-- The text after a question mark, which says that a repetition is as short as can be. -/
def skipReluctance : List Char → List Char
  | '?' :: rest => rest
  | cs => cs

/-- Reads the rest of a group `g` inside the groups `outer`, up to the end of the text: how deeply
the whole is nested. The groups so far have the `names`. -/
def readGroups : (bound : Nat) → (g : OpenGroup) → (outer : List OpenGroup) →
    (names : List (List Char)) → List Char → Option Nat
  | 0, _, _, _, _ => none
  | bound + 1, g, outer, names, cs =>
    match g.mode.skip cs with
    | [] => if outer.isEmpty then some g.depth else none
    | '(' :: rest => do
      match ← readOpening g.mode rest with
      | (.group inner name, rest) =>
        if name.any names.contains then none
        else readGroups bound { mode := inner } (g :: outer) (name.toList ++ names) rest
      | (.change m, rest) => readGroups bound (g.change m) outer names rest
    | ')' :: rest =>
      match outer with
      | next :: outer => readGroups bound (next.add (g.depth + 1)) outer names rest
      | [] => none
    | '|' :: rest => readGroups bound g.branch outer names rest
    | '[' :: rest => do
      let (depth, rest) ← readSet g.mode rest
      readGroups bound (g.add depth) outer names rest
    | '\x7b' :: _ => none
    | '?' :: rest | '*' :: rest | '+' :: rest => do
      readGroups bound (← g.repeatLast?) outer names (skipReluctance rest)
    | cs => do
      let rest ← readAlone g.mode cs
      readGroups bound (g.add 0) outer names rest

/-- How deeply a **pattern** is nested, if the text is one but for its depth. -/
def depth? (cs : List Char) : Option Nat :=
  readGroups (cs.length + 1) { mode := {} } [] [] cs

/-- Whether a text is a **pattern**. -/
def isWellFormed (cs : List Char) : Bool :=
  (depth? cs).any (· ≤ depthLimit)

end BlockConsole.Pattern
