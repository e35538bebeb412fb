import BlockConsole.Text.Number

/-!
# Numbers in TOML

`readInteger?` reads decimal integers of 64 bits and `isFloat` tells the numbers with a fraction or
an exponent. In both, single underscores may stand between two digits, and a whole part has no
leading zeros.

Of a number with a fraction or an exponent only one thing matters: one that a double cannot hold
because it is too great is refused. The limit is the middle between the greatest double and the
next power of two; a negative number has no limit, as it turns into minus infinity.
-/

namespace BlockConsole.Toml

/-! ### Digits -/

/-- The digits of a text of digits in which single underscores may stand between two digits. The
flag says whether the text begins after a digit. -/
def groupedDigits? (afterDigit : Bool) : List Char → Option (List Char)
  | [] => if afterDigit then some [] else none
  | c :: rest =>
    if c.isDigit then (groupedDigits? true rest).map (c :: ·)
    else if c = '_' && afterDigit then groupedDigits? false rest
    else none

/-- A text without a sign at its start, and whether the sign was a minus. -/
def splitSign : List Char → Bool × List Char
  | '-' :: cs => (true, cs)
  | '+' :: cs => (false, cs)
  | cs => (false, cs)

/-- The digits of a whole number, which has no leading zeros. -/
def wholeDigits? (cs : List Char) : Option (List Char) := do
  let ds ← groupedDigits? false cs
  if ds.length > 1 && ds.head? = some '0' then none else some ds

/-! ### Integers -/

/-- The integer of 64 bits that a word stands for. -/
def readInteger? (word : List Char) : Option Int := do
  let (negative, cs) := splitSign word
  let n ← Text.readDigits? (← wholeDigits? cs)
  let i : Int := if negative then -(n : Int) else n
  if -9223372036854775808 ≤ i ∧ i ≤ 9223372036854775807 then some i else none

/-! ### Fractions and exponents -/

/-- A **decimal number** without a sign: `mantissa * 10 ^ exponent`. -/
structure Magnitude where
  mantissa : Nat
  exponent : Int
deriving DecidableEq

namespace Magnitude

/-- The least number that is nearer to `2 ^ 1024` than to the greatest double. -/
def limit : Nat :=
  Nat.pow 2 1024 - Nat.pow 2 970

/-- Whether a double cannot hold the number. The limit has 309 digits, so the number of digits
before the point decides, except near the limit, where the powers are small enough to compare. -/
def isTooGreat (m : Magnitude) : Bool :=
  let places := (Text.digits m.mantissa).length + m.exponent
  if m.mantissa = 0 || places < 309 then false
  else if 309 < places then true
  else if 0 ≤ m.exponent then decide (limit ≤ m.mantissa * Nat.pow 10 m.exponent.toNat)
  else decide (limit * Nat.pow 10 (-m.exponent).toNat ≤ m.mantissa)

end Magnitude

/-- The number that an exponent stands for: a letter and digits that may have a sign. -/
def readExponent? : List Char → Option Int
  | e :: cs =>
    if e = 'e' || e = 'E' then do
      let (negative, cs) := splitSign cs
      let n ← Text.readDigits? (← groupedDigits? false cs)
      some (if negative then -(n : Int) else n)
    else none
  | [] => none

/-- The number that a word without a sign stands for, if it has a fraction or an exponent. -/
def readMagnitude? (cs : List Char) : Option Magnitude := do
  let inDigits (c : Char) : Bool := c.isDigit || c == '_'
  let whole ← wholeDigits? (cs.takeWhile inDigits)
  match cs.dropWhile inDigits with
  | '.' :: fraction =>
    let places ← groupedDigits? false (fraction.takeWhile inDigits)
    let mantissa ← Text.readDigits? (whole ++ places)
    let exponent ← match fraction.dropWhile inDigits with
      | [] => some 0
      | rest => readExponent? rest
    some ⟨mantissa, exponent - places.length⟩
  | rest => do
    let mantissa ← Text.readDigits? whole
    some ⟨mantissa, ← readExponent? rest⟩

/-- Whether a word is a number with a fraction or an exponent, or `inf` or `nan`. -/
def isFloat (word : List Char) : Bool :=
  let (negative, cs) := splitSign word
  if cs = ['i', 'n', 'f'] || cs = ['n', 'a', 'n'] then true
  else match readMagnitude? cs with
    | some m => negative || !m.isTooGreat
    | none => false

end BlockConsole.Toml
