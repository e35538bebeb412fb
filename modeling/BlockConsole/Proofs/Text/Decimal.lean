import BlockConsole.Proofs.Text.Blank
import BlockConsole.Space.Word
import Mathlib.Data.Nat.Digits.Defs

/-!
# Reading decimals back

Reading undoes writing, for natural numbers, for integers and for words. What else is read as a
number is told by a grammar: a `Numeral` is a text of digits after an optional sign, and each is
read as the integer that it writes (`readDecimal?_eq_some_iff`, `Word.read?_eq_some_iff`). None of
them is shorter than the decimal (`Numeral.length_decimal_le`).
-/

namespace BlockConsole.Text

theorem isDigit_of_mem_digits {n : Nat} {c : Char} (h : c ∈ digits n) : c.isDigit = true :=
  Nat.isDigit_of_mem_toDigits (by decide) (by decide) h

theorem digits_ne_nil (n : Nat) : digits n ≠ [] := Nat.toDigits_ne_nil

/-- Reading digits undoes writing them. -/
theorem readDigits?_digits (n : Nat) : readDigits? (digits n) = some n := by
  have hall : (digits n).all Char.isDigit = true :=
    List.all_eq_true.mpr fun c hc => isDigit_of_mem_digits hc
  have hne : (digits n).isEmpty = false := by simp [digits_ne_nil]
  rw [readDigits?, hall, hne]
  simp [digits, Nat.ofDigitChars_ten_toDigits]

/-- Digits are not signs, so no sign is read off them. -/
theorem readDecimal?_of_isDigit {cs : List Char} (h : ∀ c ∈ cs, c.isDigit = true) :
    readDecimal? cs = (readDigits? cs).map Int.ofNat := by
  have hne {c : Char} (hc : c.isDigit = false) (rest : List Char) : cs ≠ c :: rest := by
    rintro rfl
    exact absurd (h c List.mem_cons_self) (by simp [hc])
  rw [readDecimal?.eq_3 _ (hne (by decide)) (hne (by decide))]
  cases readDigits? cs <;> rfl

theorem readDecimal?_digits (n : Nat) : readDecimal? (digits n) = some (n : Int) := by
  rw [readDecimal?_of_isDigit fun c hc => isDigit_of_mem_digits hc, readDigits?_digits]
  rfl

/-- Reading an integer undoes writing it. -/
theorem readDecimal?_decimal (i : Int) : readDecimal? (decimal i) = some i := by
  unfold decimal
  split
  · next hneg =>
    have habs : -(i.natAbs : Int) = i := by omega
    rw [readDecimal?, readDigits?_digits]
    exact congrArg some habs
  · next hneg =>
    have habs : (i.natAbs : Int) = i := by omega
    rw [readDecimal?_digits, habs]

/-- The characters of a decimal. -/
theorem mem_decimal {i : Int} {c : Char} (h : c ∈ decimal i) : c = '-' ∨ c.isDigit = true := by
  unfold decimal at h
  split at h
  · exact (List.mem_cons.mp h).imp_right isDigit_of_mem_digits
  · exact .inr (isDigit_of_mem_digits h)

theorem decimal_ne_nil (i : Int) : decimal i ≠ [] := by
  unfold decimal
  split
  · simp
  · exact digits_ne_nil _

/-- Digits are not blank. -/
theorem isBlank_of_isDigit {c : Char} (h : c.isDigit = true) : isBlank c = false := by
  have hrange : 48 ≤ c.toNat ∧ c.toNat ≤ 57 := by
    rw [Char.isDigit, Bool.and_eq_true, decide_eq_true_eq, decide_eq_true_eq] at h
    exact ⟨UInt32.le_iff_toNat_le.mp h.1, UInt32.le_iff_toNat_le.mp h.2⟩
  have hne : ∀ n, 57 < n ∨ n < 48 → (c.toNat == n) = false := fun n hn => by
    rw [beq_eq_false_iff_ne]
    omega
  have hlow : decide (c.toNat ≤ 13) = false := by
    rw [decide_eq_false_iff_not]
    omega
  have hhigh : decide (0x2000 ≤ c.toNat) = false := by
    rw [decide_eq_false_iff_not]
    omega
  simp only [isBlank, hlow, hhigh, Bool.and_false, Bool.false_and, Bool.or_false]
  simp [hne]

/-! ### Numerals -/

/-- Decimal digits that **write** a natural number: those before the last count ten times. -/
inductive Digits : List Char → Nat → Prop
  | one {c : Char} (hc : c.isDigit = true) : Digits [c] (c.toNat - '0'.toNat)
  | concat {cs : List Char} {n : Nat} {c : Char} (hcs : Digits cs n) (hc : c.isDigit = true) :
      Digits (cs ++ [c]) (10 * n + (c.toNat - '0'.toNat))

/-- A text is a **numeral** of an integer if it consists of digits after an optional sign. -/
inductive Numeral : List Char → Int → Prop
  | unsigned {cs : List Char} {n : Nat} (h : Digits cs n) : Numeral cs n
  | plus {cs : List Char} {n : Nat} (h : Digits cs n) : Numeral ('+' :: cs) n
  | minus {cs : List Char} {n : Nat} (h : Digits cs n) : Numeral ('-' :: cs) (-n)

namespace Digits

variable {cs : List Char} {n : Nat}

theorem ne_nil (h : Digits cs n) : cs ≠ [] := by
  cases h <;> simp

theorem isDigit (h : Digits cs n) : ∀ c ∈ cs, c.isDigit = true := by
  induction h with
  | one hc => simpa using hc
  | concat _ hc ih => simpa [or_imp, forall_and] using ⟨ih, hc⟩

theorem ofDigitChars_eq (h : Digits cs n) : Nat.ofDigitChars 10 cs 0 = n := by
  induction h with
  | one _ => rw [Nat.ofDigitChars_cons, Nat.ofDigitChars_nil, Nat.mul_zero, Nat.zero_add]
  | concat _ _ ih => rw [Nat.ofDigitChars_append, ih, Nat.ofDigitChars_cons, Nat.ofDigitChars_nil]

/-- Digits write the number that they are counted as. -/
theorem of_isDigit (hne : cs ≠ []) (h : ∀ c ∈ cs, c.isDigit = true) :
    Digits cs (Nat.ofDigitChars 10 cs 0) := by
  induction cs using List.reverseRecOn with
  | nil => exact absurd rfl hne
  | append_singleton cs c ih =>
    obtain ⟨hcs, hc⟩ : (∀ d ∈ cs, d.isDigit = true) ∧ c.isDigit = true := by
      simpa [or_imp, forall_and] using h
    rw [Nat.ofDigitChars_append, Nat.ofDigitChars_cons, Nat.ofDigitChars_nil]
    by_cases hnil : cs = []
    · subst hnil
      simpa using Digits.one hc
    · exact (ih hnil hcs).concat hc

end Digits

/-- Digits are read as the number that they write. -/
theorem readDigits?_eq_some_iff {cs : List Char} {n : Nat} :
    readDigits? cs = some n ↔ Digits cs n := by
  constructor
  · intro h
    rw [readDigits?] at h
    split at h
    · exact absurd h (by simp)
    · next hcs =>
      obtain ⟨hne, hall⟩ : cs ≠ [] ∧ ∀ c ∈ cs, c.isDigit = true := by simpa using hcs
      exact Option.some.inj h ▸ Digits.of_isDigit hne hall
  · intro h
    have hempty : cs.isEmpty = false := by simpa using h.ne_nil
    have hall : cs.all Char.isDigit = true := List.all_eq_true.mpr h.isDigit
    rw [readDigits?, hempty, hall, h.ofDigitChars_eq]
    rfl

/-- A text is read as an integer exactly if it is a numeral of it. -/
theorem readDecimal?_eq_some_iff {cs : List Char} {i : Int} :
    readDecimal? cs = some i ↔ Numeral cs i := by
  constructor
  · intro h
    unfold readDecimal? at h
    split at h
    · next ds =>
      cases hn : readDigits? ds with
      | none => simp [hn] at h
      | some n =>
        obtain rfl : -(n : Int) = i := by simpa [hn] using h
        exact .minus (readDigits?_eq_some_iff.mp hn)
    · next ds =>
      cases hn : readDigits? ds with
      | none => simp [hn] at h
      | some n =>
        obtain rfl : (n : Int) = i := by simpa [hn] using h
        exact .plus (readDigits?_eq_some_iff.mp hn)
    · cases hn : readDigits? cs with
      | none => simp [hn] at h
      | some n =>
        obtain rfl : (n : Int) = i := by simpa [hn] using h
        exact .unsigned (readDigits?_eq_some_iff.mp hn)
  · intro h
    cases h with
    | unsigned h =>
      rw [readDecimal?_of_isDigit h.isDigit, readDigits?_eq_some_iff.mpr h]
      rfl
    | plus h =>
      rw [readDecimal?, readDigits?_eq_some_iff.mpr h]
      rfl
    | minus h =>
      rw [readDecimal?, readDigits?_eq_some_iff.mpr h]
      rfl

/-! ### Decimals are short -/

theorem ofDigitChars_lt {cs : List Char} (h : ∀ c ∈ cs, c.isDigit = true) (n : Nat) :
    Nat.ofDigitChars 10 cs n < (n + 1) * 10 ^ cs.length := by
  induction cs generalizing n with
  | nil => simp [Nat.ofDigitChars_eq_foldl]
  | cons c cs ih =>
    obtain ⟨hc, hcs⟩ := List.forall_mem_cons.mp h
    have hdigit : c.toNat - '0'.toNat ≤ 9 := by
      rw [Char.isDigit, Bool.and_eq_true, decide_eq_true_eq, decide_eq_true_eq] at hc
      have hle : c.toNat ≤ 57 := UInt32.le_iff_toNat_le.mp hc.2
      have hzero : '0'.toNat = 48 := rfl
      omega
    rw [Nat.ofDigitChars_cons]
    calc Nat.ofDigitChars 10 cs (10 * n + (c.toNat - '0'.toNat))
        < (10 * n + (c.toNat - '0'.toNat) + 1) * 10 ^ cs.length := ih hcs _
      _ ≤ ((n + 1) * 10) * 10 ^ cs.length := Nat.mul_le_mul_right _ (by omega)
      _ = (n + 1) * 10 ^ (c :: cs).length := by
        rw [List.length_cons, Nat.pow_succ', Nat.mul_assoc]

/-- Digits that write a number are no fewer than its own. -/
theorem Digits.length_le {cs : List Char} {n : Nat} (h : Digits cs n) :
    (digits n).length ≤ cs.length := by
  refine Nat.toDigits_length 10 n cs.length (List.length_pos_iff.mpr h.ne_nil) ?_
  have hlt := ofDigitChars_lt h.isDigit 0
  rwa [h.ofDigitChars_eq, Nat.zero_add, Nat.one_mul] at hlt

theorem Digits.quote_not_mem {cs : List Char} {n : Nat} (h : Digits cs n) : '"' ∉ cs :=
  fun hmem => absurd (h.isDigit _ hmem) (by decide)

/-- A numeral is no shorter than the decimal of its integer, and it has no quote in it. -/
theorem Numeral.length_decimal_le {cs : List Char} {i : Int} (h : Numeral cs i) :
    (decimal i).length ≤ cs.length ∧ '"' ∉ cs := by
  cases h with
  | unsigned h =>
    rw [decimal, if_neg (by omega)]
    exact ⟨h.length_le, h.quote_not_mem⟩
  | plus h =>
    rw [decimal, if_neg (by omega)]
    exact ⟨Nat.le_succ_of_le h.length_le, by simpa using h.quote_not_mem⟩
  | minus h =>
    refine ⟨?_, by simpa using h.quote_not_mem⟩
    rw [decimal, Int.natAbs_neg, Int.natAbs_natCast]
    split
    · simpa using h.length_le
    · exact Nat.le_succ_of_le h.length_le

end BlockConsole.Text

namespace BlockConsole.Word

theorem ofInt?_val (w : Word) : ofInt? w.val = some w := by
  rw [ofInt?, dif_pos ⟨w.min_le, w.le_max⟩]

/-- Reading a word undoes writing it. -/
theorem read?_decimal (w : Word) : read? (Text.decimal w.val) = some w := by
  rw [read?, Text.readDecimal?_decimal]
  exact ofInt?_val w

/-- A text is read as a word exactly if it is a numeral of it. -/
theorem read?_eq_some_iff {cs : List Char} {w : Word} :
    read? cs = some w ↔ Text.Numeral cs w.val := by
  rw [read?, Option.bind_eq_some_iff, ← Text.readDecimal?_eq_some_iff]
  constructor
  · rintro ⟨i, hi, hw⟩
    rw [ofInt?] at hw
    split at hw
    · obtain rfl := Option.some.inj hw
      exact hi
    · exact absurd hw (by simp)
  · intro h
    exact ⟨w.val, h, ofInt?_val w⟩

end BlockConsole.Word
