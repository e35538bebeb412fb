import BlockConsole.Proofs.Command.Balance

/-!
# Texts that are strewn with words

A text is `Strewn` with words if it consists of these words and of blanks around and between them.
The tokens of a text are such words, whatever its quotes and brackets are. The other way round,
words that a text is strewn with are its tokens if each of them is balanced and has no blank outside
quotes and brackets (`Token.strewn_words_are_tokens`).

A text can be strewn with words in more than one way. `CutInto` singles out the one way in which a
scan finds them (`Token.tokenize_eq_iff`): a word ends at the first blank outside quotes and
brackets, or at the end of the text, even if a quote or a bracket is still open there.
-/

namespace BlockConsole

open Text

/-! ### Words and blanks -/

/-- A text is **strewn** with words if it consists of them, in their order, and of blanks before,
between and after them. No word is empty, and a blank separates each of them from the next. -/
inductive Strewn : List Char → List (List Char) → Prop
  | nil : Strewn [] []
  | blank {b : Char} {text : List Char} {words : List (List Char)} (hb : isBlank b = true)
      (h : Strewn text words) : Strewn (b :: text) words
  | last {word : List Char} (hne : word ≠ []) : Strewn word [word]
  | word {word rest : List Char} {b : Char} {words : List (List Char)} (hne : word ≠ [])
      (hb : isBlank b = true) (h : Strewn rest words) : Strewn (word ++ b :: rest) (word :: words)

/-- A text is **cut** into words at the blanks that stand outside quotes and brackets. The end of
the text ends its last word, too, and there quotes and brackets may still be open. -/
inductive CutInto : List Char → List (List Char) → Prop
  | nil : CutInto [] []
  | blank {b : Char} {text : List Char} {words : List (List Char)} (hb : isBlank b = true)
      (h : CutInto text words) : CutInto (b :: text) words
  | last {word : List Char} {t : ScanState} (hne : word ≠ []) (hpass : Passes .start word t) :
      CutInto word [word]
  | word {word rest : List Char} {b : Char} {words : List (List Char)} (hsolid : Solid word)
      (hb : isBlank b = true) (h : CutInto rest words) : CutInto (word ++ b :: rest) (word :: words)

section

variable {text : List Char} {words : List (List Char)}

namespace Strewn

theorem ne_nil_of_mem (h : Strewn text words) : ∀ w ∈ words, w ≠ [] := by
  induction h with
  | nil => simp
  | blank _ _ ih => exact ih
  | last hne => simpa using hne
  | word hne _ _ ih => exact List.forall_mem_cons.mpr ⟨hne, ih⟩

/-- The words that a text is strewn with have all of its characters but blanks, as often and in the
same order. -/
theorem filter_flatten (h : Strewn text words) :
    words.flatten.filter (fun c => !isBlank c) = text.filter (fun c => !isBlank c) := by
  induction h with
  | nil => rfl
  | blank hb _ ih => rw [ih, List.filter_cons_of_neg (by simp [hb])]
  | last => simp
  | word _ hb _ ih =>
    rw [List.flatten_cons, List.filter_append, List.filter_append,
      List.filter_cons_of_neg (by simp [hb]), ih]

/-- A text is cut into the words that it is strewn with if all of them are solid. -/
theorem cutInto (h : Strewn text words) (hsolid : ∀ w ∈ words, Solid w) : CutInto text words := by
  induction h with
  | nil => exact .nil
  | blank hb _ ih => exact .blank hb (ih hsolid)
  | last hne => exact .last hne (hsolid _ List.mem_cons_self).passes
  | word _ hb _ ih =>
    obtain ⟨hword, hwords⟩ := List.forall_mem_cons.mp hsolid
    exact .word hword hb (ih hwords)

end Strewn

theorem CutInto.strewn (h : CutInto text words) : Strewn text words := by
  induction h with
  | nil => exact .nil
  | blank hb _ ih => exact .blank hb ih
  | last hne _ => exact .last hne
  | word hsolid hb _ ih => exact .word hsolid.ne_nil hb ih

end

/-! ### Unbroken words -/

/-- A text is **unbroken** if none of its blanks stands outside quotes and brackets. -/
def Unbroken (cs : List Char) : Prop :=
  ∀ (i : Nat) (h : i < cs.length), isBlank cs[i] = true → ScanState.start.after (cs.take i) ≠ .start

instance (cs : List Char) : Decidable (Unbroken cs) :=
  inferInstanceAs (Decidable (∀ (i : Nat) (h : i < cs.length), isBlank cs[i] = true →
    ScanState.start.after (cs.take i) ≠ .start))

/-- A scan passes through an unbroken text. -/
theorem Unbroken.passes {cs : List Char} (h : Unbroken cs) :
    Passes .start cs (ScanState.start.after cs) := by
  rcases passes_or_cut .start cs with hpass | ⟨before, b, after, rfl, hbefore, hb⟩
  · exact hpass
  · -- A blank that cuts the text would stand outside quotes and brackets.
    have hinside := h before.length (by simp) (by simpa using hb)
    rw [List.take_left] at hinside
    exact absurd hbefore.after_eq hinside

/-- A balanced and unbroken word is solid. -/
theorem Balanced.solid {word : List Char} (h : Balanced word) (hunbroken : Unbroken word)
    (hne : word ≠ []) : Solid word := by
  have hpass := hunbroken.passes
  rw [Balanced] at h
  rw [h] at hpass
  exact ⟨hne, hpass⟩

/-! ### Tokens -/

namespace Token

theorem tokenize_cons_of_isBlank {b : Char} (hb : isBlank b = true) (text : List Char) :
    tokenize (b :: text) = tokenize text := by
  have hgap : ∀ c ∈ [b], isBlank c = true := by simpa using hb
  exact tokenize_of_isBlank hgap text

/-- A text is cut into its tokens. -/
theorem cutInto_tokenize (text : List Char) : CutInto text (tokenize text) := by
  induction hlength : text.length using Nat.strong_induction_on generalizing text with
  | _ n ih =>
    rcases passes_or_cut .start text with hpass | ⟨word, b, rest, rfl, hword, hb⟩
    · by_cases hne : text = []
      · subst hne
        exact .nil
      · rw [tokenize_of_passes hpass hne]
        exact .last hne hpass
    · -- What comes after the blank that ends the word is shorter than the text.
      have hshorter : rest.length < n := by
        rw [← hlength]
        simp
        omega
      have hrest : CutInto rest (tokenize rest) := ih _ hshorter rest rfl
      by_cases hne : word = []
      · subst hne
        rw [List.nil_append, tokenize_cons_of_isBlank hb]
        exact .blank hb hrest
      · rw [tokenize_cut hword hne hb]
        exact .word ⟨hne, hword⟩ hb hrest

/-- The words that a text is cut into are its tokens, and there is no other way to cut it. -/
theorem tokenize_eq_iff {text : List Char} {words : List (List Char)} :
    tokenize text = words ↔ CutInto text words := by
  constructor
  · rintro rfl
    exact cutInto_tokenize text
  · intro h
    induction h with
    | nil => rfl
    | blank hb _ ih => rw [tokenize_cons_of_isBlank hb, ih]
    | last hne hpass => exact tokenize_of_passes hpass hne
    | word hsolid hb _ ih => rw [tokenize_cut hsolid.passes hsolid.ne_nil hb, ih]

/-- A quote that is not closed takes all that comes after it. -/
example : tokenize "a] \"b c] ".toList = ["a]".toList, "\"b c] ".toList] := by
  decide +kernel

/-- **Strewn words are tokens.** The tokens of any text are words that it is strewn with, so no
character but blanks is lost, doubled or moved. And words that a text is strewn with are its tokens
if each of them is balanced and unbroken. -/
theorem strewn_words_are_tokens (text : List Char) :
    Strewn text (tokenize text) ∧
      (tokenize text).flatten.filter (fun c => !isBlank c) = text.filter (fun c => !isBlank c) ∧
      ∀ words, Strewn text words → (∀ w ∈ words, Balanced w ∧ Unbroken w) →
        tokenize text = words := by
  have hstrewn : Strewn text (tokenize text) := (cutInto_tokenize text).strewn
  refine ⟨hstrewn, hstrewn.filter_flatten, fun words hwords h => ?_⟩
  refine tokenize_eq_iff.mpr (hwords.cutInto fun w hw => ?_)
  obtain ⟨hbalanced, hunbroken⟩ := h w hw
  exact hbalanced.solid hunbroken (hwords.ne_nil_of_mem w hw)

/-- Words with blanks, quotes and brackets in them, and a bracket that closes nothing. -/
def looseWords : List (List Char) :=
  ["a]".toList, "[\"b ] c\" = [1, 2]]".toList, "\" \"".toList]

/-- A text that is strewn with `looseWords`. -/
def looseText : List Char := "\u3000a]\t\n[\"b ] c\" = [1, 2]] \" \"\r".toList

theorem strewn_words_are_tokens_loose :
    Strewn looseText looseWords ∧ (∀ w ∈ looseWords, Balanced w ∧ Unbroken w) ∧
      tokenize looseText = looseWords := by
  have htext : looseText = '\u3000' :: ("a]".toList ++ '\t' :: '\n' ::
      ("[\"b ] c\" = [1, 2]]".toList ++ ' ' :: ("\" \"".toList ++ ['\r']))) := by
    decide +kernel
  have hstrewn : Strewn looseText looseWords := by
    rw [htext]
    refine .blank (by decide) (.word (by decide) (by decide) (.blank (by decide) ?_))
    exact .word (by decide) (by decide) (.word (by decide) (by decide) .nil)
  have hwords : ∀ w ∈ looseWords, Balanced w ∧ Unbroken w := by decide +kernel
  exact ⟨hstrewn, hwords, (strewn_words_are_tokens looseText).2.2 looseWords hstrewn hwords⟩

end Token

end BlockConsole
