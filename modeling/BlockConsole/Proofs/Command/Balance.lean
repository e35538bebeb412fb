import BlockConsole.Proofs.Command.Token

/-!
# The words of any text

A scan either passes through a text, or a blank cuts a word off it (`passes_or_cut`). So a trimmed
text is one word or has more than one (`Token.tokenize_of_trimmed`).

A text is `Balanced` if its quotes and brackets are closed at its end. Then a blank after it ends
its last word, and what comes after the blank has words of its own
(`Token.tokenize_append_of_balanced`). After a text that is not balanced a blank ends nothing: the
last word of the text goes on (`Token.tokenize_append_of_not_balanced`).
-/

namespace BlockConsole

open Text

/-! ### The state after a text -/

namespace ScanState

/-- The state of a scan after a text. -/
def after (s : ScanState) (cs : List Char) : ScanState :=
  cs.foldl next s

theorem isOutside_iff {s : ScanState} : s.isOutside = true ↔ s = .start := by
  cases s
  simp [isOutside, start]

end ScanState

/-- The quotes and brackets of a text are **balanced** if they are closed at its end. -/
def Balanced (cs : List Char) : Prop :=
  ScanState.start.after cs = .start

instance (cs : List Char) : Decidable (Balanced cs) :=
  inferInstanceAs (Decidable (ScanState.start.after cs = .start))

/-- The state that a scan passes to is the one after the text. -/
theorem Passes.after_eq {s t : ScanState} {cs : List Char} (h : Passes s cs t) :
    s.after cs = t := by
  induction h with
  | nil => rfl
  | cons _ _ ih => exact ih

/-- A scan passes through a text, or a blank outside quotes and brackets cuts a word off it. -/
theorem passes_or_cut (s : ScanState) (cs : List Char) :
    Passes s cs (s.after cs) ∨
      ∃ word b rest, cs = word ++ b :: rest ∧ Passes s word .start ∧ isBlank b = true := by
  induction cs generalizing s with
  | nil => exact .inl .nil
  | cons c cs ih =>
    cases hend : (s.next c).isOutside && isBlank c with
    | true =>
      obtain ⟨hout, hblank⟩ := Bool.and_eq_true_iff.mp hend
      rw [next_of_isBlank s hblank, ScanState.isOutside_iff] at hout
      subst hout
      exact .inr ⟨[], c, cs, rfl, .nil, hblank⟩
    | false =>
      rcases ih (s.next c) with hpass | ⟨word, b, rest, rfl, hword, hb⟩
      · exact .inl (.cons hend hpass)
      · exact .inr ⟨c :: word, b, rest, rfl, .cons hend hword, hb⟩

/-- A scan that does not stand outside quotes and brackets passes through a blank. -/
theorem passes_blank {s : ScanState} (h : s ≠ .start) {b : Char} (hb : isBlank b = true) :
    Passes s [b] s := by
  have hinside : s.isOutside = false := by
    rw [← Bool.not_eq_true, ScanState.isOutside_iff]
    exact h
  refine .of_fixed fun c hc => ?_
  rw [List.mem_singleton.mp hc, next_of_isBlank s hb, hinside]
  exact ⟨rfl, rfl⟩

theorem passes_solid {s : ScanState} {c : Char} (hc : isBlank c = false) :
    Passes s [c] (s.next c) :=
  .cons (by rw [hc, Bool.and_false]) .nil

namespace Token

/-! ### Words -/

theorem scan_cons (s : ScanState) (c : Char) (cs : List Char) :
    scan s (c :: cs) =
      if (s.next c).isOutside && isBlank c then
        ([], push (scan (s.next c) cs).1 (scan (s.next c) cs).2)
      else (c :: (scan (s.next c) cs).1, (scan (s.next c) cs).2) := rfl

theorem push_of_ne_nil {word : List Char} (h : word ≠ []) (words : List (List Char)) :
    push word words = word :: words := by
  simp [push, h]

theorem push_append (word : List Char) (words words' : List (List Char)) :
    push word (words ++ words') = push word words ++ words' := by
  unfold push
  split <;> rfl

/-- A text that a scan passes through is one word, with what the scan adds to it. -/
theorem tokenize_append_of_passes {cs : List Char} {t : ScanState} (h : Passes .start cs t)
    (hne : cs ≠ []) (ds : List Char) :
    tokenize (cs ++ ds) = (cs ++ (scan t ds).1) :: (scan t ds).2 := by
  rw [tokenize, h.scan_append]
  exact push_of_ne_nil (by simp [hne]) _

theorem tokenize_of_passes {word : List Char} {t : ScanState} (h : Passes .start word t)
    (hne : word ≠ []) : tokenize word = [word] := by
  have := tokenize_append_of_passes h hne []
  simpa [scan] using this

/-- A blank cuts off a word. -/
theorem tokenize_cut {word : List Char} (h : Passes .start word .start) (hne : word ≠ [])
    {b : Char} (hb : isBlank b = true) (rest : List Char) :
    tokenize (word ++ b :: rest) = word :: tokenize rest := by
  rw [tokenize_append_of_passes h hne, scan_of_isBlank hb, List.append_nil]

/-- A text that is not blank has a word. -/
theorem tokenize_ne_nil {cs : List Char} {c : Char} (hc : c ∈ cs) (hblank : isBlank c = false) :
    tokenize cs ≠ [] := by
  suffices hscan : ∀ s, push (scan s cs).1 (scan s cs).2 ≠ [] from hscan .start
  induction cs with
  | nil => simp at hc
  | cons d cs ih =>
    intro s
    rw [scan_cons]
    split
    · next hend =>
      have hd : isBlank d = true := (Bool.and_eq_true_iff.mp hend).2
      have hmem : c ∈ cs := by
        rcases List.mem_cons.mp hc with rfl | hmem
        · rw [hblank] at hd
          exact absurd hd (by simp)
        · exact hmem
      simpa [push] using ih hmem (s.next d)
    · simp [push]

/-- A trimmed text is one word, or it has more than one. -/
theorem tokenize_of_trimmed {cs : List Char} (h : Trimmed cs) (hne : cs ≠ []) :
    tokenize cs = [cs] ∨ ∃ v w words, tokenize cs = v :: w :: words := by
  rcases passes_or_cut .start cs with hpass | ⟨word, b, rest, rfl, hword, hb⟩
  · exact .inl (tokenize_of_passes hpass hne)
  · right
    have hword' : word ≠ [] := by
      rintro rfl
      exact absurd (h.head b rfl) (by simp [hb])
    -- The last character is not blank, so there is a word after the blank.
    have hrest : tokenize rest ≠ [] := by
      cases hlast : rest.getLast? with
      | none =>
        rw [List.getLast?_eq_none_iff] at hlast
        subst hlast
        exact absurd (h.last b (by simp)) (by simp [hb])
      | some c =>
        refine tokenize_ne_nil (List.mem_of_getLast? hlast) (h.last c ?_)
        rw [Option.mem_def, List.getLast?_append_of_ne_nil _ (by simp), List.getLast?_cons, hlast]
        rfl
    obtain ⟨w, words, hwords⟩ := List.exists_cons_of_ne_nil hrest
    exact ⟨word, w, words, by rw [tokenize_cut hword hword' hb, hwords]⟩

/-! ### What comes after a text -/

theorem scan_append_of_after {s : ScanState} {cs : List Char} (h : s.after cs = .start) {b : Char}
    (hb : isBlank b = true) (ds : List Char) :
    scan s (cs ++ b :: ds) = ((scan s cs).1, (scan s cs).2 ++ tokenize ds) := by
  induction cs generalizing s with
  | nil =>
    obtain rfl : s = .start := h
    exact scan_of_isBlank hb ds
  | cons c cs ih =>
    rw [List.cons_append, scan_cons, scan_cons, ih h]
    split
    · rw [push_append]
    · rfl

/-- After a balanced text and a blank come words of their own. -/
theorem tokenize_append_of_balanced {cs : List Char} (h : Balanced cs) {b : Char}
    (hb : isBlank b = true) (ds : List Char) :
    tokenize (cs ++ b :: ds) = tokenize cs ++ tokenize ds := by
  rw [tokenize, scan_append_of_after h hb]
  exact push_append _ _ _

/-- The first word of a trimmed text that is not balanced and of what comes after it: it is cut off
in the text, or it goes on after it. -/
theorem tokenize_append_of_not_balanced {cs : List Char} (h : ¬Balanced cs) (htrim : Trimmed cs)
    (hne : cs ≠ []) {b c : Char} (hb : isBlank b = true) (hc : isBlank c = false)
    (ds : List Char) :
    (∃ word gap rest words, cs = word ++ gap :: rest ∧ isBlank gap = true ∧ Trimmed word ∧
        tokenize (cs ++ b :: c :: ds) = word :: words) ∨
      ∃ more words, tokenize (cs ++ b :: c :: ds) = (cs ++ ([b] ++ c :: more)) :: words := by
  rcases passes_or_cut .start cs with hpass | ⟨word, gap, rest, rfl, hword, hgap⟩
  · -- No blank ends a word in the text, and none does at its end, so the word goes on.
    right
    have hlonger := hpass.append ((passes_blank h hb).append (passes_solid hc))
    have htokens := tokenize_append_of_passes hlonger (by simp) ds
    exact ⟨_, _, by simpa using htokens⟩
  · -- A blank in the text ends its first word, whatever comes after the text.
    left
    have hword' : word ≠ [] := by
      rintro rfl
      exact absurd (htrim.head gap rfl) (by simp [hgap])
    refine ⟨word, gap, rest, tokenize (rest ++ b :: c :: ds), rfl, hgap,
      (Solid.mk hword' hword).trimmed, ?_⟩
    rw [List.append_assoc, List.cons_append]
    exact tokenize_cut hword hword' hgap _

end Token

end BlockConsole
