/-!
# Numbers and durations in texts

`digits` and `decimal` write a number with the fewest digits, and with a minus sign where it needs
one. `readDecimal?` reads an optional sign, `+` or `-`, and then one or more digits from `0` to `9`;
leading zeros are allowed, and nothing else is.

`hexDigits` writes a number with the digits `0` to `9` and the letters `a` to `f`, and `hex64` fills
it up to sixteen places. `readHex?` reads digits in either case back, and `readCodePoint?` the
character that has the number.

`durationText` writes a number of milliseconds for a reader. Nothing is `0ns`; less than a second
is written in milliseconds, as in `250ms`; from a second on the text counts seconds, with up to
three decimal places and no zero at the end of them, as in `1.5s` or `60.001s`.
-/

namespace BlockConsole.Text

/-! ### Decimal integers -/

/-- The decimal digits of a natural number, without leading zeros. -/
def digits (n : Nat) : List Char :=
  Nat.toDigits 10 n

/-- The decimal form of a natural number, as a text. -/
def natText (n : Nat) : String :=
  String.ofList (digits n)

/-- The decimal form of an integer. -/
def decimal (i : Int) : List Char :=
  if i < 0 then '-' :: digits i.natAbs else digits i.natAbs

/-- The number that one or more decimal digits stand for. -/
def readDigits? (cs : List Char) : Option Nat :=
  if cs.isEmpty || !cs.all Char.isDigit then none else some (Nat.ofDigitChars 10 cs 0)

/-- The integer that an optional sign and decimal digits stand for. -/
def readDecimal? : List Char → Option Int
  | '-' :: cs => (readDigits? cs).map fun n => -(n : Int)
  | '+' :: cs => (readDigits? cs).map fun n => (n : Int)
  | cs => (readDigits? cs).map fun n => (n : Int)

/-! ### Hexadecimal numbers -/

/-- The hexadecimal digits of a natural number, without leading zeros. -/
def hexDigits (n : Nat) : List Char :=
  Nat.toDigits 16 n

/-- A number of 64 bits as sixteen hexadecimal digits. -/
def hex64 (n : UInt64) : String :=
  let ds := hexDigits n.toNat
  String.ofList (List.replicate (16 - ds.length) '0' ++ ds)

/-- What a hexadecimal digit counts. -/
def hexDigit? (d : Char) : Option Nat :=
  if d.isDigit then some (d.toNat - 48)
  else if 'a' ≤ d ∧ d ≤ 'f' then some (d.toNat - 87)
  else if 'A' ≤ d ∧ d ≤ 'F' then some (d.toNat - 55)
  else none

/-- The number that hexadecimal digits stand for. -/
def readHex? (ds : List Char) : Option Nat :=
  ds.foldlM (fun acc d => (hexDigit? d).map fun n => 16 * acc + n) 0

/-- The character with a number in hexadecimal. -/
def readCodePoint? (ds : List Char) : Option Char := do
  let n ← readHex? ds
  if n.isValidChar then some (Char.ofNat n) else none

/-! ### Durations -/

/-- The decimal places of `ms` thousandths, without the zeros at the end. -/
def fractionDigits (ms : Nat) : List Char :=
  let ds := digits ms
  let padded := List.replicate (3 - ds.length) '0' ++ ds
  (padded.reverse.dropWhile (· == '0')).reverse

/-- The text of a duration of `ms` milliseconds. -/
def durationText (ms : Nat) : String :=
  let seconds := ms / 1000
  let rest := ms % 1000
  if seconds = 0 then
    if rest = 0 then "0ns" else natText rest ++ "ms"
  else if rest = 0 then natText seconds ++ "s"
  else String.ofList (digits seconds ++ '.' :: fractionDigits rest) ++ "s"

end BlockConsole.Text
