/-!
# Texts, character by character

A property of characters is written down as an ascending list of closed ranges of code points.
`inRanges` looks a character up and gives up at the first range that starts beyond it.

`isBlank` is the `White_Space` property of Unicode, and `trim` takes blanks off both ends of a text
and leaves the blanks inside alone. All reading of names, state sets and commands goes through it.

In UTF-8 a character takes one to four bytes. `slice?` takes out what lies between two places that
are given in bytes, and has no answer where a cut would fall inside a character.
-/

namespace BlockConsole.Text

/-! ### Ranges of code points -/

/-- Whether the code point `n` lies in one of the ascending `ranges`. -/
def inRanges : (ranges : List (Nat × Nat)) → (n : Nat) → Bool
  | [], _ => false
  | (first, last) :: rest, n =>
    if n < first then false else if n ≤ last then true else inRanges rest n

/-! ### Blanks -/

/-- Whether `c` is **blank**: a control from tab to carriage return, the space, the next-line
control, a no-break space, or a space or separator of general punctuation. The zero-width space is
not. -/
def isBlank (c : Char) : Bool :=
  let n := c.toNat
  (9 ≤ n && n ≤ 13) || n == 0x20 || n == 0x85 || n == 0xA0 || n == 0x1680 ||
    (0x2000 ≤ n && n ≤ 0x200A) || n == 0x2028 || n == 0x2029 || n == 0x202F || n == 0x205F ||
    n == 0x3000

/-- The text without the blanks it begins with. -/
def trimStart (cs : List Char) : List Char :=
  cs.dropWhile isBlank

/-- The text without the blanks it ends with. -/
def trimEnd (cs : List Char) : List Char :=
  (cs.reverse.dropWhile isBlank).reverse

/-- The text without the blanks at its two ends. -/
def trim (cs : List Char) : List Char :=
  trimEnd (trimStart cs)

/-! ### Cutting by bytes -/

/-- The number of bytes of a text. -/
def byteSize (cs : List Char) : Nat :=
  cs.foldl (fun n c => n + c.utf8Size) 0

/-- The text after its first `n` bytes. -/
def dropBytes? : (n : Nat) → List Char → Option (List Char)
  | 0, cs => some cs
  | _ + 1, [] => none
  | n + 1, c :: cs =>
    if c.utf8Size ≤ n + 1 then dropBytes? (n + 1 - c.utf8Size) cs else none

/-- The first `n` bytes of the text. -/
def takeBytes? : (n : Nat) → List Char → Option (List Char)
  | 0, _ => some []
  | _ + 1, [] => none
  | n + 1, c :: cs =>
    if c.utf8Size ≤ n + 1 then (takeBytes? (n + 1 - c.utf8Size) cs).map (c :: ·) else none

/-- The text from the byte `start` up to the byte `stop`. -/
def slice? (start stop : Nat) (cs : List Char) : Option (List Char) :=
  (dropBytes? start cs).bind (takeBytes? (stop - start))

end BlockConsole.Text
