import BlockConsole.Text.Number

/-!
# Signed words of 32 bits

Coordinates, dimensions and whole-number block states are integers from `-2³¹` to `2³¹ - 1`. The
bounds are part of the type `Word`, and arithmetic **saturates**: a result beyond a bound is that
bound (`Word.clamp`).

`Word.read?` reads a word in decimal and refuses a number out of range.
-/

namespace BlockConsole

/-- A **word**: an integer that a signed number of 32 bits can hold. -/
structure Word where
  val : Int
  min_le : -2147483648 ≤ val
  le_max : val ≤ 2147483647
deriving DecidableEq

namespace Word

/-- The word nearest to an integer. -/
def clamp (i : Int) : Word where
  val := max (-2147483648) (min i 2147483647)
  min_le := by omega
  le_max := by omega

/-- The word equal to an integer, if the integer is in range. -/
def ofInt? (i : Int) : Option Word :=
  if h : -2147483648 ≤ i ∧ i ≤ 2147483647 then some ⟨i, h.1, h.2⟩ else none

instance (n : Nat) : OfNat Word n := ⟨clamp n⟩

instance : Inhabited Word := ⟨0⟩

instance : Hashable Word := ⟨fun w => hash w.val⟩

instance : Add Word := ⟨fun a b => clamp (a.val + b.val)⟩

instance : Sub Word := ⟨fun a b => clamp (a.val - b.val)⟩

instance : Neg Word := ⟨fun a => clamp (-a.val)⟩

instance : Min Word := ⟨fun a b => if a.val ≤ b.val then a else b⟩

instance : Max Word := ⟨fun a b => if a.val ≤ b.val then b else a⟩

@[ext] theorem ext {a b : Word} (h : a.val = b.val) : a = b := by
  cases a; cases b; simp_all

@[simp] theorem val_clamp (i : Int) :
    (clamp i).val = max (-2147483648) (min i 2147483647) := rfl

@[simp] theorem val_add (a b : Word) : (a + b).val = (clamp (a.val + b.val)).val := rfl

@[simp] theorem val_sub (a b : Word) : (a - b).val = (clamp (a.val - b.val)).val := rfl

@[simp] theorem val_neg (a : Word) : (-a).val = (clamp (-a.val)).val := rfl

/-- The words from `low` up to `high`, both included. -/
def upTo (low high : Word) : List Word :=
  (List.range (high.val - low.val + 1).toNat).map fun (k : Nat) => clamp (low.val + k)

/-- The decimal form of a word. -/
def text (w : Word) : String :=
  String.ofList (Text.decimal w.val)

/-- The word that a decimal text stands for. -/
def read? (cs : List Char) : Option Word :=
  (Text.readDecimal? cs).bind ofInt?

instance : ToString Word := ⟨text⟩

end Word

end BlockConsole
