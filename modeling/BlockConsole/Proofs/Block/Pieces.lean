import BlockConsole.Block.StatesParser
import Mathlib.Algebra.Group.Nat.Even

/-!
# Pieces between commas

`BlockStates.entryPieces?` cuts a text at its commas, but not between quotes. A `Piece` is a text
that can stand alone: its quotes are closed at the end, and they are open at every comma in it. So
the pieces of a text are the pieces that commas join to it, and nothing else
(`entryPieces?_eq_some_iff`).

A text is `Enclosable` if it may stand between quotes although it has quotes of its own.
-/

namespace BlockConsole.BlockStates

/-! ### Open quotes -/

/-- Whether the quotes are open after a text, if they were or were not before it. -/
def quotedAfter (quoted : Bool) (cs : List Char) : Bool :=
  quoted != (cs.count '"' % 2 == 1)

@[simp] theorem quotedAfter_nil (quoted : Bool) : quotedAfter quoted [] = quoted := by
  simp [quotedAfter]

theorem quotedAfter_cons (quoted : Bool) (c : Char) (cs : List Char) :
    quotedAfter quoted (c :: cs) = quotedAfter (quoted != (c == '"')) cs := by
  have hparity : ∀ n : Nat, ((n + 1) % 2 == 1) = !(n % 2 == 1) := fun n => by
    rcases Nat.mod_two_eq_zero_or_one n with h | h <;> simp [Nat.add_mod, h]
  rw [quotedAfter, quotedAfter, List.count_cons]
  cases hc : c == '"' with
  | true => simp [hparity]
  | false => simp

theorem quotedAfter_append (quoted : Bool) (as bs : List Char) :
    quotedAfter quoted (as ++ bs) = quotedAfter (quotedAfter quoted as) bs := by
  induction as generalizing quoted with
  | nil => simp
  | cons c as ih => rw [List.cons_append, quotedAfter_cons, quotedAfter_cons, ih]

/-- A text without quotes leaves them open or closed. -/
theorem quotedAfter_of_not_mem {cs : List Char} (h : '"' ∉ cs) (quoted : Bool) :
    quotedAfter quoted cs = quoted := by
  simp [quotedAfter, List.count_eq_zero_of_not_mem h]

/-! ### Commas -/

/-- No comma **cuts** a text: the quotes are open before each of them. -/
def Uncut (quoted : Bool) (cs : List Char) : Prop :=
  ∀ before after, cs = before ++ ',' :: after → quotedAfter quoted before = true

theorem uncut_nil (quoted : Bool) : Uncut quoted [] := fun before after h => by simp at h

theorem uncut_cons_iff {quoted : Bool} {c : Char} {cs : List Char} :
    Uncut quoted (c :: cs) ↔ (c = ',' → quoted = true) ∧ Uncut (quoted != (c == '"')) cs := by
  constructor
  · intro h
    refine ⟨fun hc => by simpa using h [] cs (by rw [hc]; rfl), fun before after heq => ?_⟩
    rw [← quotedAfter_cons]
    exact h (c :: before) after (by rw [heq]; rfl)
  · rintro ⟨hc, hcs⟩ before after heq
    cases before with
    | nil => simpa using hc (List.cons.inj heq).1
    | cons d before =>
      obtain ⟨rfl, htail⟩ := List.cons.inj heq
      rw [quotedAfter_cons]
      exact hcs before after htail

theorem uncut_of_not_mem {cs : List Char} (h : ',' ∉ cs) (quoted : Bool) : Uncut quoted cs :=
  fun before after heq => absurd (heq ▸ by simp) h

theorem Uncut.append {quoted : Bool} {as bs : List Char} (ha : Uncut quoted as)
    (hb : Uncut (quotedAfter quoted as) bs) : Uncut quoted (as ++ bs) := by
  induction as generalizing quoted with
  | nil => simpa using hb
  | cons c as ih =>
    rw [uncut_cons_iff] at ha
    rw [quotedAfter_cons] at hb
    exact uncut_cons_iff.mpr ⟨ha.1, ih ha.2 hb⟩

/-! ### Pieces -/

/-- Puts a text in front of the first piece of another. -/
def consText (cs : List Char) (pieces : List (List Char)) : List (List Char) :=
  cs.foldr consHead pieces

theorem consText_cons (cs piece : List Char) (rest : List (List Char)) :
    consText cs (piece :: rest) = (cs ++ piece) :: rest := by
  induction cs with
  | nil => rfl
  | cons c cs ih =>
    rw [consText, List.foldr_cons, ← consText, ih]
    rfl

/-- A text that no comma cuts stays in one piece. -/
theorem Uncut.entryPieces?_append {quoted : Bool} {cs : List Char} (h : Uncut quoted cs)
    (rest : List Char) :
    entryPieces? quoted (cs ++ rest) =
      (entryPieces? (quotedAfter quoted cs) rest).map (consText cs) := by
  induction cs generalizing quoted with
  | nil =>
    rw [quotedAfter_nil]
    exact Option.map_id_apply.symm
  | cons c cs ih =>
    obtain ⟨hc, hcs⟩ := uncut_cons_iff.mp h
    have hcut : (decide (c = ',') && !quoted) = false := by
      by_cases hcomma : c = ','
      · simp [hc hcomma]
      · simp [hcomma]
    rw [List.cons_append, entryPieces?, hcut, ih hcs, quotedAfter_cons]
    simp only [Bool.false_eq_true, if_false, Option.map_map]
    rfl

/-- A **piece** of a text: no comma cuts it, and the quotes are closed at its end. -/
structure Piece (cs : List Char) : Prop where
  uncut : Uncut false cs
  closed : quotedAfter false cs = false

namespace Piece

variable {as bs cs : List Char}

theorem append (ha : Piece as) (hb : Piece bs) : Piece (as ++ bs) where
  uncut := ha.uncut.append (by rw [ha.closed]; exact hb.uncut)
  closed := by rw [quotedAfter_append, ha.closed, hb.closed]

/-- A text without quotes and commas is a piece. -/
theorem of_bare (h : ∀ c ∈ cs, c ≠ '"' ∧ c ≠ ',') : Piece cs where
  uncut := uncut_of_not_mem (fun hmem => (h _ hmem).2 rfl) false
  closed := quotedAfter_of_not_mem (fun hmem => (h _ hmem).1 rfl) false

end Piece

/-- The pieces that a text is cut into. Where the quotes are open, the first of them is the end of a
piece only. -/
theorem pieces_of_entryPieces? {quoted : Bool} {cs : List Char} {pieces : List (List Char)}
    (h : entryPieces? quoted cs = some pieces) :
    ∃ p rest, pieces = p :: rest ∧ (Uncut quoted p ∧ quotedAfter quoted p = false) ∧
      (∀ q ∈ rest, Piece q) ∧ [','].intercalate pieces = cs := by
  induction cs generalizing quoted pieces with
  | nil =>
    cases quoted with
    | true => simp [entryPieces?] at h
    | false =>
      obtain rfl : [[]] = pieces := by simpa [entryPieces?] using h
      exact ⟨[], [], rfl, ⟨uncut_nil false, rfl⟩, by simp, rfl⟩
  | cons c cs ih =>
    rw [entryPieces?] at h
    split at h
    · next hcut =>
      obtain ⟨later, hlater, rfl⟩ := Option.map_eq_some_iff.mp h
      obtain ⟨p, rest, rfl, ⟨huncut, hclosed⟩, hrest, hjoin⟩ := ih hlater
      obtain ⟨rfl, rfl⟩ : c = ',' ∧ quoted = false := by simpa using hcut
      refine ⟨[], p :: rest, rfl, ⟨uncut_nil false, rfl⟩, ?_, ?_⟩
      · exact List.forall_mem_cons.mpr ⟨⟨huncut, hclosed⟩, hrest⟩
      · rw [List.intercalate_cons_cons, hjoin]
        rfl
    · next hcut =>
      obtain ⟨later, hlater, rfl⟩ := Option.map_eq_some_iff.mp h
      obtain ⟨p, rest, rfl, ⟨huncut, hclosed⟩, hrest, hjoin⟩ := ih hlater
      have hopen : c = ',' → quoted = true := fun hc => by simpa [hc] using hcut
      refine ⟨c :: p, rest, rfl, ⟨uncut_cons_iff.mpr ⟨hopen, huncut⟩, ?_⟩, hrest, ?_⟩
      · rw [quotedAfter_cons, hclosed]
      · rw [← hjoin]
        cases rest with
        | nil => simp [consHead, List.intercalate]
        | cons q rest => simp [consHead, List.intercalate_cons_cons]

/-- Pieces that commas join are cut apart again. -/
theorem entryPieces?_intercalate {pieces : List (List Char)} (hne : pieces ≠ [])
    (h : ∀ p ∈ pieces, Piece p) :
    entryPieces? false ([','].intercalate pieces) = some pieces := by
  induction pieces with
  | nil => exact absurd rfl hne
  | cons p rest ih =>
    obtain ⟨hp, hrest⟩ := List.forall_mem_cons.mp h
    cases rest with
    | nil =>
      have hend := hp.uncut.entryPieces?_append []
      rw [hp.closed] at hend
      simpa [List.intercalate, entryPieces?, consText_cons] using hend
    | cons q rest =>
      have hlater := ih (by simp) hrest
      rw [List.intercalate_cons_cons, List.append_assoc, hp.uncut.entryPieces?_append, hp.closed,
        List.singleton_append, entryPieces?, hlater]
      simp [consText_cons]

/-- The **pieces of a text** are those that commas join to it. -/
theorem entryPieces?_eq_some_iff {cs : List Char} {pieces : List (List Char)} :
    entryPieces? false cs = some pieces ↔
      pieces ≠ [] ∧ (∀ p ∈ pieces, Piece p) ∧ [','].intercalate pieces = cs := by
  constructor
  · intro h
    obtain ⟨p, rest, rfl, ⟨huncut, hclosed⟩, hrest, hjoin⟩ := pieces_of_entryPieces? h
    exact ⟨by simp, List.forall_mem_cons.mpr ⟨⟨huncut, hclosed⟩, hrest⟩, hjoin⟩
  · rintro ⟨hne, hpieces, rfl⟩
    exact entryPieces?_intercalate hne hpieces

/-! ### Texts between quotes -/

/-- A text is **enclosable** in quotes: the quotes in it come in pairs, and no comma stands between
the two of a pair. -/
structure Enclosable (cs : List Char) : Prop where
  even : Even (cs.count '"')
  even_before : ∀ before after, cs = before ++ ',' :: after → Even (before.count '"')

theorem quotedAfter_eq_self_iff {quoted : Bool} {cs : List Char} :
    quotedAfter quoted cs = quoted ↔ Even (cs.count '"') := by
  rw [quotedAfter, Nat.even_iff]
  cases quoted <;> simp

theorem enclosable_iff {cs : List Char} :
    Enclosable cs ↔ Uncut true cs ∧ quotedAfter true cs = true := by
  constructor
  · intro h
    refine ⟨fun before after heq => ?_, quotedAfter_eq_self_iff.mpr h.even⟩
    exact quotedAfter_eq_self_iff.mpr (h.even_before before after heq)
  · rintro ⟨huncut, hclosed⟩
    refine ⟨quotedAfter_eq_self_iff.mp hclosed, fun before after heq => ?_⟩
    exact quotedAfter_eq_self_iff.mp (huncut before after heq)

/-- A text without quotes can be enclosed in them. -/
theorem enclosable_of_not_mem {cs : List Char} (h : '"' ∉ cs) : Enclosable cs := by
  refine ⟨by simp [List.count_eq_zero_of_not_mem h], fun before after heq => ?_⟩
  have hbefore : '"' ∉ before := fun hmem => h (heq ▸ List.mem_append_left _ hmem)
  simp [List.count_eq_zero_of_not_mem hbefore]

/-- An enclosable text between quotes is a piece. -/
theorem Enclosable.piece {cs : List Char} (h : Enclosable cs) :
    Piece ('"' :: cs ++ ['"']) := by
  obtain ⟨huncut, hclosed⟩ := enclosable_iff.mp h
  have hopen : (false != ('"' == '"')) = true := rfl
  constructor
  · rw [List.cons_append, uncut_cons_iff, hopen]
    exact ⟨by decide, huncut.append (uncut_of_not_mem (by decide) _)⟩
  · rw [List.cons_append, quotedAfter_cons, hopen, quotedAfter_append, hclosed]
    rfl

/-- What stands between quotes in a piece is enclosable: an odd number of quotes comes before it
and after it. -/
theorem Piece.enclosable {before cs after : List Char} (h : Piece (before ++ cs ++ after))
    (hbefore : before.count '"' % 2 = 1) (hafter : after.count '"' % 2 = 1) : Enclosable cs := by
  constructor
  · have htotal := quotedAfter_eq_self_iff.mp h.closed
    rw [List.count_append, List.count_append, Nat.even_iff] at htotal
    rw [Nat.even_iff]
    omega
  · rintro b a rfl
    have hopen : quotedAfter false (before ++ b) = true :=
      h.uncut (before ++ b) (a ++ after) (by simp)
    rw [quotedAfter, List.count_append, Bool.false_bne, beq_iff_eq] at hopen
    rw [Nat.even_iff]
    omega

end BlockConsole.BlockStates
