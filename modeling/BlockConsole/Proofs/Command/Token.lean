import BlockConsole.Command.Parser
import BlockConsole.Proofs.Block.StatesParser

/-!
# Splitting a command into its words

A word is `Solid` if a scan passes through it without a break and ends outside quotes and
brackets, as it began. Block states are solid however many blanks there are between their quotes
(`solid_chars`). A text is `Spaced` into the words that it consists of with blanks between them; if
they are solid, they are its tokens (`Spaced.tokenize_eq`).
-/

namespace BlockConsole

open Text

/-! ### Passing through a text -/

/-- A scan **passes** through a text from one state to another if no character of the text ends a
word. -/
inductive Passes : ScanState → List Char → ScanState → Prop
  | nil {s : ScanState} : Passes s [] s
  | cons {s t : ScanState} {c : Char} {cs : List Char}
      (h : ((s.next c).isOutside && isBlank c) = false) (hcs : Passes (s.next c) cs t) :
      Passes s (c :: cs) t

namespace Passes

variable {s t u : ScanState} {cs ds : List Char}

theorem append (h₁ : Passes s cs t) (h₂ : Passes t ds u) : Passes s (cs ++ ds) u := by
  induction h₁ with
  | nil => exact h₂
  | cons h _ ih => exact .cons h (ih h₂)

/-- What a scan passes through becomes part of the word that comes next. -/
theorem scan_append (h : Passes s cs t) (rest : List Char) :
    Token.scan s (cs ++ rest) = (cs ++ (Token.scan t rest).1, (Token.scan t rest).2) := by
  induction h with
  | nil => rfl
  | cons hc _ ih =>
    rw [List.cons_append, Token.scan]
    simp only [ih, hc, Bool.false_eq_true, if_false]
    rfl

/-- A scan passes through characters that do not change its state and end no word. -/
theorem of_fixed (h : ∀ c ∈ cs, s.next c = s ∧ (s.isOutside && isBlank c) = false) :
    Passes s cs s := by
  induction cs with
  | nil => exact .nil
  | cons c cs ih =>
    obtain ⟨hnext, hword⟩ := h c List.mem_cons_self
    refine .cons (hnext.symm ▸ hword) ?_
    rw [hnext]
    exact ih fun d hd => h d (List.mem_cons_of_mem c hd)

/-- A scan passes through a text between quotes. -/
theorem quote (h : '"' ∉ cs) (depth : Nat) :
    Passes ⟨false, depth⟩ ('"' :: cs ++ ['"']) ⟨false, depth⟩ := by
  -- Inside quotes only a quote changes the state, and no blank ends a word.
  have hinside : Passes ⟨true, depth⟩ cs ⟨true, depth⟩ := by
    refine of_fixed fun c hc => ⟨?_, by simp [ScanState.isOutside]⟩
    have hquote : c ≠ '"' := by
      rintro rfl
      exact h hc
    simp [ScanState.next, hquote]
  have hblank : isBlank '"' = false := by decide
  have hopen : (ScanState.mk false depth).next '"' = ⟨true, depth⟩ := rfl
  have hclose : (ScanState.mk true depth).next '"' = ⟨false, depth⟩ := rfl
  refine .cons (by rw [hblank, Bool.and_false]) ?_
  rw [hopen]
  refine hinside.append (.cons (by rw [hblank, Bool.and_false]) ?_)
  rw [hclose]
  exact .nil

/-- The last character before a scan is outside quotes and brackets is not blank. -/
theorem isBlank_getLast? (h : Passes s cs t) (ht : t.isOutside = true) :
    ∀ c ∈ cs.getLast?, isBlank c = false := by
  induction h with
  | nil => simp
  | @cons s t c cs hc hcs ih =>
    intro d hd
    cases hcs with
    | nil =>
      obtain rfl : c = d := by simpa using hd
      simpa [ht] using hc
    | cons hc' hcs' => exact ih ht d (by simpa using hd)

end Passes

/-! ### Solid words -/

/-- A word is **solid** if a scan passes through it and ends as it began. -/
structure Solid (word : List Char) : Prop where
  ne_nil : word ≠ []
  passes : Passes .start word .start

/-- A blank does not change the state of a scan. -/
theorem next_of_isBlank (s : ScanState) {c : Char} (h : isBlank c = true) : s.next c = s := by
  have hne : c ≠ '"' ∧ c ≠ '[' ∧ c ≠ ']' := by
    refine ⟨?_, ?_, ?_⟩ <;>
    · rintro rfl
      exact absurd h (by decide)
  simp [ScanState.next, hne]

theorem Solid.trimmed {word : List Char} (h : Solid word) : Trimmed word where
  head := by
    cases h.passes with
    | nil => simp
    | cons hc _ =>
      intro d hd
      obtain rfl := Option.some.inj hd
      by_contra hblank
      rw [Bool.not_eq_false] at hblank
      rw [next_of_isBlank _ hblank, hblank] at hc
      exact absurd hc (by decide)
  last := h.passes.isBlank_getLast? rfl

/-- A word without blanks, quotes and opening brackets is **plain**. -/
def Plain (word : List Char) : Prop := ∀ c ∈ word, isBlank c = false ∧ c ≠ '"' ∧ c ≠ '['

instance (word : List Char) : Decidable (Plain word) :=
  inferInstanceAs (Decidable (∀ c ∈ word, isBlank c = false ∧ c ≠ '"' ∧ c ≠ '['))

/-- A plain word is solid. -/
theorem Plain.solid {word : List Char} (h : Plain word) (hne : word ≠ []) : Solid word := by
  refine ⟨hne, .of_fixed fun c hc => ?_⟩
  obtain ⟨hblank, hquote, hopen⟩ := h c hc
  refine ⟨?_, by rw [hblank, Bool.and_false]⟩
  simp [ScanState.next, ScanState.start, hquote, hopen]

theorem plain_decimal (i : Int) : Plain (decimal i) := by
  intro c hc
  refine ⟨(StateValue.bare_of_mem_decimal hc).2.2, (StateValue.bare_of_mem_decimal hc).1, ?_⟩
  rintro rfl
  rcases mem_decimal hc with h | h
  · exact absurd h (by decide)
  · exact absurd h (by decide)

/-! ### Block states are solid -/

namespace BlockStates

/-- The state of a scan within the brackets of block states. -/
def scanWithin : ScanState := ⟨false, 1⟩

/-- Within brackets a scan passes through anything without quotes and brackets. -/
theorem passes_within {cs : List Char} (h : ∀ c ∈ cs, c ≠ '"' ∧ c ≠ '[' ∧ c ≠ ']') :
    Passes scanWithin cs scanWithin := by
  refine .of_fixed fun c hc => ⟨?_, by simp [scanWithin, ScanState.isOutside]⟩
  obtain ⟨hquote, hopen, hclose⟩ := h c hc
  simp [ScanState.next, scanWithin, hquote, hopen, hclose]

theorem passes_value {v : StateValue} (h : ∀ t, v = .text t → '"' ∉ t.toList) :
    Passes scanWithin v.chars scanWithin := by
  cases v with
  | bool b =>
    cases b
    · exact passes_within (by decide)
    · exact passes_within (by decide)
  | int i =>
    refine passes_within fun c hc => ?_
    obtain ⟨hblank, hquote, hopen⟩ := plain_decimal i.val c hc
    refine ⟨hquote, hopen, ?_⟩
    rintro rfl
    rcases mem_decimal hc with h | h
    · exact absurd h (by decide)
    · exact absurd h (by decide)
  | text t => exact .quote (h t rfl) 1

theorem passes_entryChars {e : String × StateValue} (h : QuotableEntry e) :
    Passes scanWithin (entryChars e) scanWithin := by
  have hsplit : entryChars e = ('"' :: e.1.toList ++ ['"']) ++ (['='] ++ e.2.chars) := by
    simp [entryChars]
  rw [hsplit]
  exact (Passes.quote h.key 1).append ((passes_within (by decide)).append (passes_value h.value))

theorem passes_entries {es : List (String × StateValue)} (h : ∀ e ∈ es, QuotableEntry e) :
    Passes scanWithin ([','].intercalate (es.map entryChars)) scanWithin := by
  induction es with
  | nil => exact .nil
  | cons e rest ih =>
    have he := passes_entryChars (h e List.mem_cons_self)
    cases rest with
    | nil => simpa [List.intercalate] using he
    | cons e' rest' =>
      rw [List.map_cons, List.map_cons, List.intercalate_cons_cons, List.append_assoc]
      refine he.append ((passes_within (by decide)).append ?_)
      exact ih fun d hd => h d (List.mem_cons_of_mem e hd)

/-- The canonical form of block states is a solid word. -/
theorem solid_chars {s : BlockStates} (h : Quotable s) : Solid s.chars := by
  refine ⟨by simp [chars], ?_⟩
  have hopen : Passes .start ['['] scanWithin := .cons (by decide) .nil
  have hclose : Passes scanWithin [']'] .start := .cons (by decide) .nil
  exact hopen.append ((passes_entries h).append hclose)

end BlockStates

/-! ### Spaced words -/

/-- A text is **spaced** into some words if it consists of them, in their order, with one or more
blanks between each of them and the next. -/
inductive Spaced : List Char → List (List Char) → Prop
  | last (word : List Char) : Spaced word [word]
  | cons (word : List Char) {gap text : List Char} {words : List (List Char)} (hne : gap ≠ [])
      (hgap : ∀ c ∈ gap, isBlank c = true) (htext : Spaced text words) :
      Spaced (word ++ (gap ++ text)) (word :: words)

namespace Token

/-- A scan that starts at a blank gives the tokens after it. -/
theorem scan_of_isBlank {c : Char} (h : isBlank c = true) (cs : List Char) :
    scan .start (c :: cs) = ([], tokenize cs) := by
  rw [scan, next_of_isBlank _ h, h]
  rfl

theorem tokenize_of_isBlank {gap : List Char} (h : ∀ c ∈ gap, isBlank c = true)
    (cs : List Char) : tokenize (gap ++ cs) = tokenize cs := by
  induction gap with
  | nil => rfl
  | cons c gap ih =>
    rw [List.cons_append, tokenize, scan_of_isBlank (h c List.mem_cons_self)]
    exact ih fun d hd => h d (List.mem_cons_of_mem c hd)

theorem scan_of_blanks {gap : List Char} (hne : gap ≠ []) (h : ∀ c ∈ gap, isBlank c = true)
    (cs : List Char) : scan .start (gap ++ cs) = ([], tokenize cs) := by
  cases gap with
  | nil => exact absurd rfl hne
  | cons c gap =>
    rw [List.cons_append, scan_of_isBlank (h c List.mem_cons_self),
      tokenize_of_isBlank fun d hd => h d (List.mem_cons_of_mem c hd)]

end Token

namespace Spaced

variable {text : List Char} {words : List (List Char)}

/-- The tokens of a text that is spaced into solid words are these words. -/
theorem tokenize_eq (h : Spaced text words) (hsolid : ∀ w ∈ words, Solid w) :
    Token.tokenize text = words := by
  induction h with
  | last word =>
    have hword := hsolid word List.mem_cons_self
    have hscan := hword.passes.scan_append []
    rw [List.append_nil] at hscan
    rw [Token.tokenize, hscan]
    simp [Token.scan, Token.push, hword.ne_nil]
  | cons word hne hgap _ ih =>
    obtain ⟨hword, hwords⟩ := List.forall_mem_cons.mp hsolid
    rw [Token.tokenize, hword.passes.scan_append, Token.scan_of_blanks hne hgap, ih hwords]
    simp [Token.push, hword.ne_nil]

theorem ne_nil (h : Spaced text words) (hsolid : ∀ w ∈ words, Solid w) : text ≠ [] := by
  cases h with
  | last => exact (hsolid text List.mem_cons_self).ne_nil
  | cons word => simp [(hsolid word List.mem_cons_self).ne_nil]

/-- A spaced text begins as its first word does. -/
theorem head?_eq (h : Spaced text words) (hsolid : ∀ w ∈ words, Solid w) :
    text.head? = words.head?.bind List.head? := by
  cases h with
  | last => rfl
  | cons word =>
    exact List.head?_append_of_ne_nil _ (hsolid word List.mem_cons_self).ne_nil

/-- A text that is spaced into solid words has no blank at its ends. -/
theorem trimmed (h : Spaced text words) (hsolid : ∀ w ∈ words, Solid w) : Trimmed text := by
  induction h with
  | last word => exact (hsolid word List.mem_cons_self).trimmed
  | cons word hne hgap htext ih =>
    obtain ⟨hword, hwords⟩ := List.forall_mem_cons.mp hsolid
    constructor
    · intro c hc
      rw [Option.mem_def, List.head?_append_of_ne_nil _ hword.ne_nil] at hc
      exact hword.trimmed.head c hc
    · intro c hc
      rw [Option.mem_def, ← List.append_assoc,
        List.getLast?_append_of_ne_nil _ (htext.ne_nil hwords)] at hc
      exact (ih hwords).last c hc

end Spaced

/-- Words with single spaces between them. -/
theorem spaced_intercalate {words : List (List Char)} (hne : words ≠ []) :
    Spaced ([' '].intercalate words) words := by
  induction words with
  | nil => exact absurd rfl hne
  | cons w rest ih =>
    cases rest with
    | nil => simpa [List.intercalate] using Spaced.last w
    | cons w' rest' =>
      rw [List.intercalate_cons_cons, List.append_assoc]
      exact .cons w (by simp) (by decide) (ih (by simp))

end BlockConsole
