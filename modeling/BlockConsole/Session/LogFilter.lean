import BlockConsole.Log
import BlockConsole.Pattern.WellFormed
import BlockConsole.Text.Basic
import BlockConsole.Text.Number

/-!
# Which log entries are shown

A `LogFilter` is written as a list of rules with commas between them. For an entry the rule counts
that describes it most closely, and of two that do so equally the later; an entry without any rule
is not shown. A rule that cannot be read is passed over, and if no rule is left only errors are
shown.

A `LogRule` is written as a level, which holds for every part of the program; or as the beginning of
the path of some parts, which shows all they say; or as such a beginning, an equals sign and a level.
A level is a name in any case, `off`, or a number from 0 (nothing) to 5 (everything).

Between the beginning and the equals sign a rule may have a scope in brackets: the name of a span,
which is a stretch of work that a log can tell of, and in braces a field, with an equals sign and a
pattern for its value if it has to have one. An entry belongs to no span here, and its one field is
`message`, so a rule with the name of a span or with a pattern shows nothing.

Blanks around a rule are only half passed over: its parts are found in the text without them, but
cut out of the text with them, by the number of the first byte. Where the cut falls inside a
character, the rules cannot be used at all.
-/

namespace BlockConsole

/-! ### Rules -/

/-- A **field** that a rule asks for, with a pattern for its value if it has to have one. -/
structure LogField where
  name : String
  pattern : Option String
deriving DecidableEq

/-- A **rule**: up to which rank entries are shown of the parts whose path begins with `target`, in
a span, with a field. -/
structure LogRule where
  target : String := ""
  span : Option String := none
  field : Option LogField := none
  limit : Nat
deriving DecidableEq

/-- Why a rule **cannot be used**. -/
inductive RuleFault where
  /-- The rule is not written as rules are, and is passed over. -/
  | unreadable
  /-- A cut falls inside a character. -/
  | insideCharacter
deriving DecidableEq

/-- The name of the one field of every log entry. -/
def LogEntry.fieldName : String := "message"

namespace LogRule

/-- Whether a rule is about an entry. -/
def fits (r : LogRule) (e : LogEntry) : Bool :=
  r.span.isNone && r.target.toList.isPrefixOf e.source.path.toList &&
    r.field.all fun f => f.pattern.isNone && f.name == LogEntry.fieldName

/-- How closely a rule describes entries: first the length of the path, then the field. -/
def closeness (r : LogRule) : Nat :=
  2 * Text.byteSize r.target.toList + r.field.toList.length

/-- Whether an entry that a rule is about is shown. -/
def admits (r : LogRule) (e : LogEntry) : Bool :=
  decide (e.level.rank ≤ r.limit)

/-! ### Levels and values -/

/-- The rank that a level stands for. A number may have a plus sign. -/
def readLevel? (cs : List Char) : Option Nat :=
  let digits := match cs with
    | '+' :: ds => ds
    | ds => ds
  match Text.readDigits? digits with
  | some n => if n ≤ 5 then some n else none
  | none =>
    match String.ofList (cs.map Char.toLower) with
    | "off" => some 0
    | "error" => some 1
    | "warn" => some 2
    | "info" => some 3
    | "debug" => some 4
    | "trace" => some 5
    | _ => none

/-- Whether a text in small letters is an exponent: the letter, perhaps a sign, and digits. -/
def isExponent : List Char → Bool
  | 'e' :: '+' :: ds | 'e' :: '-' :: ds | 'e' :: ds => !ds.isEmpty && ds.all Char.isDigit
  | _ => false

/-- Whether a text in small letters is a number without a sign. -/
def isNumber (cs : List Char) : Bool :=
  let whole := cs.takeWhile Char.isDigit
  let (places, rest) : List Char × List Char := match cs.dropWhile Char.isDigit with
    | '.' :: fraction => (fraction.takeWhile Char.isDigit, fraction.dropWhile Char.isDigit)
    | rest => ([], rest)
  ["inf", "infinity", "nan"].contains (String.ofList cs) ||
    !(whole ++ places).isEmpty && (rest.isEmpty || isExponent rest)

/-- Whether a text can be asked for as a value: a number with a plus sign, or a pattern, which all
other numbers are too. -/
def isValue (cs : List Char) : Bool :=
  match cs with
  | '+' :: number => isNumber (number.map Char.toLower)
  | _ => Pattern.isWellFormed cs

/-! ### Reading -/

/-- Cuts a part out of a rule by its first byte and the byte after its last one. -/
def cut (rule : List Char) (start stop : Nat) : Except RuleFault (List Char) :=
  match Text.slice? start stop rule with
  | some part => .ok part
  | none => .error .insideCharacter

/-- Reads a field. What follows a second equals sign is passed over. -/
def readField (cs : List Char) : Except RuleFault LogField :=
  let isName (c : Char) : Bool := c != '='
  let name := String.ofList (cs.takeWhile isName)
  if cs.isEmpty then .error .unreadable
  else match cs.dropWhile isName with
    | [] => .ok ⟨name, none⟩
    | _ :: more =>
      let value := more.takeWhile isName
      if isValue value then .ok ⟨name, some (String.ofList value)⟩ else .error .unreadable

/-- Reads the end of a rule, which stands at the byte `start`: nothing, or an equals sign and a
level. -/
def readLimit (rule : List Char) (start : Nat) : List Char → Except RuleFault Nat
  | [] => .ok 5
  | '=' :: _ => do
    let level ← cut rule (start + 1) (Text.byteSize rule)
    if level.isEmpty then .ok 5
    else match readLevel? level with
      | some n => .ok n
      | none => .error .unreadable
  | _ => .error .unreadable

/-- Reads a rule from after the opening brace of its scope on, which is the byte `start`. -/
def readBraces (rule : List Char) (target : String) (span : Option String) (start : Nat)
    (cs : List Char) : Except RuleFault LogRule :=
  let inField (c : Char) : Bool := c != '\x7d'
  let stop := start + Text.byteSize (cs.takeWhile inField)
  match cs.dropWhile inField with
  | [] => .error .unreadable
  | _ :: after => do
    let field ← readField (← cut rule start stop)
    match after with
    | ']' :: rest => do
      let limit ← readLimit rule (stop + 2) rest
      .ok { target, span, field, limit }
    | _ => .error .unreadable

/-- Reads a rule from after the opening bracket of its scope on, which is the byte `start`. A span
without a name is left out before braces only. -/
def readScope (rule : List Char) (target : String) (start : Nat) (cs : List Char) :
    Except RuleFault LogRule :=
  let inName (c : Char) : Bool := c != ']' && c != '\x7b'
  let stop := start + Text.byteSize (cs.takeWhile inName)
  match cs.dropWhile inName with
  | ']' :: rest => do
    let span := String.ofList (← cut rule start stop)
    let limit ← readLimit rule (stop + 1) rest
    .ok { target, span, limit }
  | '\x7b' :: rest => do
    let span ← cut rule start stop
    readBraces rule target (if span.isEmpty then none else some (String.ofList span)) (stop + 1) rest
  | _ => .error .unreadable

/-- Whether a path may begin with `c`. -/
def beginsTarget (c : Char) : Bool :=
  Text.isLetter c || Text.isNumeral c || c == '_' || c == ':' || c == '-'

/-- Reads a **rule**. -/
def read (rule : List Char) : Except RuleFault LogRule :=
  let inTarget (c : Char) : Bool := c != '=' && c != '['
  match Text.trim rule with
  | [] => .error .unreadable
  | '[' :: rest => readScope rule "" 1 rest
  | c :: rest =>
    let stop := Text.byteSize ((c :: rest).takeWhile inTarget)
    if !beginsTarget c then .error .unreadable
    else match (c :: rest).dropWhile inTarget with
      | [] =>
        match readLevel? rule with
        | some limit => .ok { limit }
        | none => .ok { target := String.ofList rule, limit := 5 }
      | '[' :: rest => do
        let target := String.ofList (← cut rule 0 stop)
        readScope rule target (stop + 1) rest
      | rest => do
        let target := String.ofList (← cut rule 0 stop)
        let limit ← readLimit rule stop rest
        .ok { target, limit }

end LogRule

/-! ### Filters -/

/-- A **filter** of log entries. -/
structure LogFilter where
  rules : List LogRule
deriving DecidableEq

namespace LogFilter

/-- Reads rules and leaves out those that cannot be read. -/
def readRules? : List (List Char) → Option (List LogRule)
  | [] => some []
  | rule :: rest =>
    match LogRule.read rule with
    | .ok r => (readRules? rest).map (r :: ·)
    | .error .unreadable => readRules? rest
    | .error .insideCharacter => none

/-- Reads a **filter**, if it can be used. -/
def ofText? (s : String) : Option LogFilter :=
  let parts := (s.splitOn ",").filter (!·.isEmpty)
  (readRules? (parts.map String.toList)).map fun
    | [] => ⟨[{ limit := 1 }]⟩
    | rules => ⟨rules⟩

/-- The better of two rules for an entry, of which the second is the later. -/
def better (best : Option LogRule) (r : LogRule) : Option LogRule :=
  match best with
  | none => some r
  | some b => if b.closeness ≤ r.closeness then some r else some b

/-- Whether an entry is shown. -/
def shows (f : LogFilter) (e : LogEntry) : Bool :=
  ((f.rules.filter (·.fits e)).foldl better none).any (·.admits e)

end LogFilter

end BlockConsole
