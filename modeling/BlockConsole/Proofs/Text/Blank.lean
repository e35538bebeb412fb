import BlockConsole.Text.Basic
import Mathlib.Data.List.DropRight
import Mathlib.Data.List.TakeWhile

/-!
# Text without blanks at its ends

A text is `Trimmed` if it neither begins nor ends with a blank. These are exactly the texts that
`trim` leaves alone, and everything that `trim` returns is one of them. What it takes off are
blanks (`exists_eq_append_trim`), and all of them (`Trimmed.trim_append`).
-/

namespace BlockConsole.Text

/-- Whether all characters of a text satisfy a predicate is decided along the text. -/
-- Statements on all characters there are can be decided too, but that takes far too long.
instance (priority := high) decidableForallMem (P : Char → Prop) [DecidablePred P]
    (cs : List Char) : Decidable (∀ c ∈ cs, P c) :=
  List.decidableBAll P cs

/-- A text is **trimmed** if it has no blank at either end. -/
structure Trimmed (cs : List Char) : Prop where
  head : ∀ c ∈ cs.head?, isBlank c = false
  last : ∀ c ∈ cs.getLast?, isBlank c = false

/-- A text is trimmed if none of its characters is blank. -/
theorem trimmed_of_forall {cs : List Char} (h : ∀ c ∈ cs, isBlank c = false) : Trimmed cs :=
  ⟨fun c hc => h c (List.mem_of_head? hc), fun c hc => h c (List.mem_of_getLast? hc)⟩

/-- Two trimmed texts put together are trimmed. -/
theorem Trimmed.append {as bs : List Char} (ha : Trimmed as) (hb : Trimmed bs) :
    Trimmed (as ++ bs) where
  head c hc := by
    rw [List.head?_append, Option.mem_def, Option.or_eq_some_iff] at hc
    rcases hc with hc | ⟨-, hc⟩
    · exact ha.head c hc
    · exact hb.head c hc
  last c hc := by
    rw [List.getLast?_append, Option.mem_def, Option.or_eq_some_iff] at hc
    rcases hc with hc | ⟨-, hc⟩
    · exact hb.last c hc
    · exact ha.last c hc

/-- A text is trimmed, whatever is in the middle, if what it begins and ends with is. -/
theorem trimmed_cons_append {c : Char} {cs : List Char} (hc : isBlank c = false)
    (middle : List Char) (hcs : Trimmed cs) (hne : cs ≠ []) : Trimmed (c :: middle ++ cs) where
  head d hd := by
    obtain rfl : c = d := by simpa using hd
    exact hc
  last d hd := by
    rw [List.getLast?_append_of_ne_nil _ hne] at hd
    exact hcs.last d hd

theorem trimStart_eq_self {cs : List Char} (h : ∀ c ∈ cs.head?, isBlank c = false) :
    trimStart cs = cs := by
  cases cs with
  | nil => rfl
  | cons c rest =>
    have hc : isBlank c = false := h c rfl
    simp [trimStart, hc]

theorem trimEnd_eq_self {cs : List Char} (h : ∀ c ∈ cs.getLast?, isBlank c = false) :
    trimEnd cs = cs := by
  have hrev : trimStart cs.reverse = cs.reverse :=
    trimStart_eq_self fun c hc => h c (by rwa [List.head?_reverse] at hc)
  calc trimEnd cs = (trimStart cs.reverse).reverse := rfl
    _ = cs := by rw [hrev, List.reverse_reverse]

/-- A trimmed text is left alone. -/
theorem Trimmed.trim_eq {cs : List Char} (h : Trimmed cs) : trim cs = cs := by
  rw [trim, trimStart_eq_self h.head, trimEnd_eq_self h.last]

theorem head?_trimStart (cs : List Char) : ∀ c ∈ (trimStart cs).head?, isBlank c = false := by
  intro c hc
  have := List.head?_dropWhile_not isBlank cs
  rw [trimStart] at hc
  rw [Option.mem_def.mp hc] at this
  simpa using this

theorem getLast?_trimEnd (cs : List Char) : ∀ c ∈ (trimEnd cs).getLast?, isBlank c = false := by
  intro c hc
  rw [trimEnd, List.getLast?_reverse] at hc
  exact head?_trimStart cs.reverse c hc

/-- What is trimmed off at the end leaves the beginning alone. -/
theorem trimEnd_prefix (cs : List Char) : trimEnd cs <+: cs :=
  List.rdropWhile_prefix isBlank cs

/-- What `trim` returns is trimmed. -/
theorem trimmed_trim (cs : List Char) : Trimmed (trim cs) where
  head c hc := by
    obtain ⟨tail, htail⟩ := trimEnd_prefix (trimStart cs)
    have hhead : (trimEnd (trimStart cs)).head? = some c := hc
    refine head?_trimStart cs c ?_
    rw [← htail, List.head?_append, hhead]
    rfl
  last := getLast?_trimEnd (trimStart cs)

/-- Nothing is trimmed off at the end up to a character that is not blank. -/
theorem trimEnd_append_cons {c : Char} (hc : isBlank c = false) (as bs : List Char) :
    trimEnd (as ++ c :: bs) = as ++ c :: trimEnd bs := by
  have hstop : (c :: as.reverse).dropWhile isBlank = c :: as.reverse :=
    List.dropWhile_cons_of_neg (by simp [hc])
  rw [trimEnd, trimEnd, List.reverse_append, List.reverse_cons, List.append_assoc,
    List.dropWhile_append]
  split
  · next hempty =>
    rw [List.isEmpty_iff.mp hempty, List.singleton_append, hstop]
    simp
  · simp

/-! ### Blanks around a text -/

/-- Trimming takes off blanks, and nothing else. -/
theorem exists_eq_append_trim (cs : List Char) :
    ∃ before after, cs = before ++ trim cs ++ after ∧ (∀ c ∈ before, isBlank c = true) ∧
      ∀ c ∈ after, isBlank c = true := by
  refine ⟨cs.takeWhile isBlank, ((trimStart cs).reverse.takeWhile isBlank).reverse, ?_,
    fun c hc => List.mem_takeWhile_imp hc,
    fun c hc => List.mem_takeWhile_imp (List.mem_reverse.mp hc)⟩
  have hend : trim cs ++ ((trimStart cs).reverse.takeWhile isBlank).reverse = trimStart cs := by
    rw [trim, trimEnd, ← List.reverse_append, List.takeWhile_append_dropWhile,
      List.reverse_reverse]
  rw [List.append_assoc, hend, trimStart, List.takeWhile_append_dropWhile]

/-- Trimming keeps no character that was not there. -/
theorem mem_of_mem_trim {cs : List Char} {c : Char} (h : c ∈ trim cs) : c ∈ cs := by
  obtain ⟨before, after, heq, -, -⟩ := exists_eq_append_trim cs
  rw [heq]
  exact List.mem_append_left _ (List.mem_append_right _ h)

/-- Blanks around a trimmed text are trimmed off. -/
theorem Trimmed.trim_append {cs before after : List Char} (h : Trimmed cs)
    (hbefore : ∀ c ∈ before, isBlank c = true) (hafter : ∀ c ∈ after, isBlank c = true) :
    trim (before ++ cs ++ after) = cs := by
  have hend : trimEnd (cs ++ after) = cs := by
    have hrev : ∀ c ∈ after.reverse, isBlank c = true :=
      fun c hc => hafter c (List.mem_reverse.mp hc)
    rw [trimEnd, List.reverse_append, List.dropWhile_append_of_pos hrev]
    exact trimEnd_eq_self h.last
  rw [trim, trimStart, List.append_assoc, List.dropWhile_append_of_pos hbefore]
  cases cs with
  | nil =>
    have hnone : after.dropWhile isBlank = [] := List.dropWhile_eq_nil_iff.mpr hafter
    rw [List.nil_append, hnone]
    rfl
  | cons c cs =>
    have hc : isBlank c = false := h.head c rfl
    rw [List.cons_append, List.dropWhile_cons_of_neg (by simp [hc])]
    exact hend

/-- Nothing is left of blanks. -/
theorem trim_eq_nil_of_blanks {cs : List Char} (h : ∀ c ∈ cs, isBlank c = true) : trim cs = [] := by
  have hempty : Trimmed [] := trimmed_of_forall (by simp)
  exact hempty.trim_append (List.forall_mem_nil _) h

end BlockConsole.Text
