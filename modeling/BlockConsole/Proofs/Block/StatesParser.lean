import BlockConsole.Proofs.Block.Pieces
import BlockConsole.Proofs.Text.Decimal

/-!
# Reading block states back

The canonical form of block states writes nothing escaped, so it is read back only if the quotes
in it cannot be mistaken (`Faithful`): a key has none, and a text value is enclosable. In
particular block states without any quote are read back (`Quotable`). Nothing else matters: keys
and values may hold blanks, commas, separators and brackets, and a text value may look like a
number.

An entry is a piece of its own (`piece_entryChars`), `readEntry_entryChars` reads it, and since the
entries come in ascending order the map is built by appending (`readEntries_entryChars`).
-/

namespace BlockConsole

open Text

namespace BlockStates

/-- An entry that can be **quoted**: its key is not empty, and neither the key nor a text value has
a quote in it. -/
structure QuotableEntry (e : String × StateValue) : Prop where
  key_ne : e.1 ≠ ""
  key : '"' ∉ e.1.toList
  value : ∀ t, e.2 = .text t → '"' ∉ t.toList

/-- Whether a text value satisfies a predicate is decided by looking at the value. -/
instance decidableForallText (P : String → Prop) [DecidablePred P] :
    (v : StateValue) → Decidable (∀ t, v = .text t → P t)
  | .text t => decidable_of_iff (P t) ⟨fun h _ ht => StateValue.text.inj ht ▸ h, fun h => h t rfl⟩
  | .bool _ => .isTrue fun _ ht => nomatch ht
  | .int _ => .isTrue fun _ ht => nomatch ht

instance (e : String × StateValue) : Decidable (QuotableEntry e) :=
  decidable_of_iff (e.1 ≠ "" ∧ '"' ∉ e.1.toList ∧ ∀ t, e.2 = .text t → '"' ∉ t.toList)
    ⟨fun h => ⟨h.1, h.2.1, h.2.2⟩, fun h => ⟨h.key_ne, h.key, h.value⟩⟩

/-- Block states whose entries can all be quoted. -/
def Quotable (s : BlockStates) : Prop := ∀ e ∈ s.entries, QuotableEntry e

instance (s : BlockStates) : Decidable (Quotable s) :=
  inferInstanceAs (Decidable (∀ e ∈ s.entries, QuotableEntry e))

theorem quotable_empty : Quotable .empty := by simp [Quotable, empty]

/-- An entry that stays what it is between quotes: its key is not empty and has no quote in it, and
a text value is enclosable. -/
structure FaithfulEntry (e : String × StateValue) : Prop where
  key_ne : e.1 ≠ ""
  key : '"' ∉ e.1.toList
  value : ∀ t, e.2 = .text t → Enclosable t.toList

/-- Block states whose entries all stay what they are between quotes. -/
def Faithful (s : BlockStates) : Prop := ∀ e ∈ s.entries, FaithfulEntry e

theorem Quotable.faithful {s : BlockStates} (h : Quotable s) : Faithful s := fun e he =>
  ⟨(h e he).key_ne, (h e he).key, fun t ht => enclosable_of_not_mem ((h e he).value t ht)⟩

/-! ### Values without quotes -/

/-- A text that is read as a word is a number: it is neither of the two truth values. -/
theorem bareValue_of_read? {cs : List Char} {w : Word} (h : Word.read? cs = some w) :
    bareValue cs = .int w := by
  have hnone : Word.read? "true".toList = none ∧ Word.read? "false".toList = none := by
    decide +kernel
  have htrue : cs ≠ "true".toList := fun heq => by
    rw [heq, hnone.1] at h
    exact nomatch h
  have hfalse : cs ≠ "false".toList := fun heq => by
    rw [heq, hnone.2] at h
    exact nomatch h
  rw [bareValue, if_neg htrue, if_neg hfalse, h]

/-- A value without quotes is read as what it looks like. -/
theorem readValue_bare {cs : List Char} (hne : cs ≠ []) (hquote : '"' ∉ cs) :
    readValue cs = .ok (bareValue cs) :=
  readValue.eq_3 cs hne fun _ heq => hquote (heq ▸ List.mem_cons_self)

end BlockStates

/-! ### Values -/

namespace StateValue

open BlockStates

theorem chars_ne_nil (v : StateValue) : v.chars ≠ [] := by
  cases v with
  | bool b => cases b <;> decide
  | int i => exact decimal_ne_nil i.val
  | text t => exact List.cons_ne_nil _ _

/-- A decimal consists of characters that a word of a text may have. -/
theorem bare_of_mem_decimal {i : Int} {c : Char} (h : c ∈ decimal i) :
    c ≠ '"' ∧ c ≠ ',' ∧ isBlank c = false := by
  rcases mem_decimal h with rfl | h
  · decide
  · refine ⟨?_, ?_, isBlank_of_isDigit h⟩ <;>
    · rintro rfl
      exact absurd h (by decide)

/-- The canonical form of a value has no blank at its ends. -/
theorem trimmed_chars (v : StateValue) : Trimmed v.chars := by
  cases v with
  | bool b =>
    cases b
    · exact trimmed_of_forall (by decide)
    · exact trimmed_of_forall (by decide)
  | int i => exact trimmed_of_forall fun c hc => (bare_of_mem_decimal hc).2.2
  | text t =>
    exact trimmed_cons_append (by decide) t.toList (trimmed_of_forall (by decide)) (by simp)

/-- The canonical form of a value is a piece. -/
theorem piece_chars {v : StateValue} (h : ∀ t, v = .text t → Enclosable t.toList) :
    Piece v.chars := by
  cases v with
  | bool b =>
    cases b
    · exact .of_bare (by decide)
    · exact .of_bare (by decide)
  | int i => exact .of_bare fun c hc => ⟨(bare_of_mem_decimal hc).1, (bare_of_mem_decimal hc).2.1⟩
  | text t => exact (h t rfl).piece

/-- Reading a value undoes writing it. -/
theorem readValue_chars (v : StateValue) : readValue v.chars = .ok v := by
  cases v with
  | bool b => cases b <;> rfl
  | int i =>
    have hquote : '"' ∉ decimal i.val := fun hmem => (bare_of_mem_decimal hmem).1 rfl
    rw [chars, readValue_bare (decimal_ne_nil _) hquote, bareValue_of_read? (Word.read?_decimal i)]
  | text t =>
    rw [chars, List.cons_append, readValue, List.getLast?_concat, if_pos rfl,
      List.dropLast_concat, String.ofList_toList]

end StateValue

/-! ### Entries -/

namespace BlockStates

theorem entryChars_eq (e : String × StateValue) :
    entryChars e = '"' :: (e.1.toList ++ ['"', '=']) ++ e.2.chars := by
  simp [entryChars]

/-- An entry has no blank at its ends, whatever the key is. -/
theorem trimmed_entryChars (e : String × StateValue) : Trimmed (entryChars e) := by
  rw [entryChars_eq]
  exact trimmed_cons_append (by decide) _ e.2.trimmed_chars e.2.chars_ne_nil

/-- An entry is a piece. -/
theorem piece_entryChars {e : String × StateValue} (hkey : '"' ∉ e.1.toList)
    (hvalue : ∀ t, e.2 = .text t → Enclosable t.toList) : Piece (entryChars e) := by
  have hsplit : entryChars e = ('"' :: e.1.toList ++ ['"']) ++ (['='] ++ e.2.chars) := by
    simp [entryChars]
  rw [hsplit]
  exact (enclosable_of_not_mem hkey).piece.append
    ((Piece.of_bare (by decide)).append (StateValue.piece_chars hvalue))

/-- A text is cut at the first character that fails a test. -/
theorem cut_append_cons {p : Char → Bool} {front : List Char} (hfront : ∀ c ∈ front, p c = true)
    {c : Char} (hc : p c = false) (rest : List Char) :
    (front ++ c :: rest).takeWhile p = front ∧ (front ++ c :: rest).dropWhile p = c :: rest := by
  have hneg : ¬p c = true := by rw [hc]; decide
  constructor
  · rw [List.takeWhile_append_of_pos hfront, List.takeWhile_cons_of_neg hneg, List.append_nil]
  · rw [List.dropWhile_append_of_pos hfront, List.dropWhile_cons_of_neg hneg]

/-- A separator is not blank. -/
theorem isBlank_of_isSeparator {c : Char} (h : isSeparator c = true) : isBlank c = false := by
  rw [isSeparator, Bool.or_eq_true, beq_iff_eq, beq_iff_eq] at h
  rcases h with rfl | rfl <;> decide

/-- An entry with a key between quotes is cut at the separator after the key. -/
theorem cutKey_quoted {key gap : List Char} (hkey : '"' ∉ key) (hgap : ∀ c ∈ gap, isBlank c = true)
    {sep : Char} (hsep : isSeparator sep = true) (rest : List Char) :
    cutKey ('"' :: (key ++ '"' :: (gap ++ sep :: rest))) = .ok (key, rest) := by
  have hne : ∀ c ∈ key, (c != '"') = true := by
    intro c hc
    rw [bne_iff_ne]
    rintro rfl
    exact hkey hc
  obtain ⟨htake, hdrop⟩ := cut_append_cons hne (c := '"') (by decide) (gap ++ sep :: rest)
  have htrim : trimStart (gap ++ sep :: rest) = sep :: rest :=
    (cut_append_cons hgap (isBlank_of_isSeparator hsep) rest).2
  simp only [cutKey, htake, hdrop, htrim, hsep, if_true]

/-- An entry with a bare key is cut at its first separator, and the blanks around the key go. -/
theorem cutKey_bare {front : List Char} (hne : front.head? ≠ some '"')
    (hfront : ∀ c ∈ front, isSeparator c = false) {sep : Char} (hsep : isSeparator sep = true)
    (rest : List Char) : cutKey (front ++ sep :: rest) = .ok (trim front, rest) := by
  obtain ⟨htake, hdrop⟩ := cut_append_cons (p := (!isSeparator ·))
    (fun c hc => by rw [hfront c hc]; rfl) (c := sep) (by rw [hsep]; rfl) rest
  have hbare : ∀ tail, front ++ sep :: rest ≠ '"' :: tail := by
    intro tail heq
    cases front with
    | nil =>
      obtain ⟨rfl, -⟩ := List.cons.inj heq
      exact absurd hsep (by decide)
    | cons c front => exact hne (by rw [(List.cons.inj heq).1]; rfl)
  rw [cutKey.eq_2 _ hbare]
  simp only [htake, hdrop]

/-- An entry is cut where its key ends. -/
theorem cutKey_entryChars {e : String × StateValue} (hkey : '"' ∉ e.1.toList) :
    cutKey (entryChars e) = .ok (e.1.toList, e.2.chars) := by
  show cutKey ('"' :: (e.1.toList ++ '"' :: ([] ++ '=' :: e.2.chars))) = _
  exact cutKey_quoted hkey (by simp) (by decide) e.2.chars

/-- Reading an entry undoes writing it. -/
theorem readEntry_entryChars {e : String × StateValue} (h : FaithfulEntry e) :
    readEntry (entryChars e) = .ok e := by
  have hne : e.1.toList.isEmpty = false := by simpa using h.key_ne
  rw [readEntry, cutKey_entryChars h.key]
  show (if e.1.toList.isEmpty then _ else _) = _
  rw [hne, e.2.trimmed_chars.trim_eq, StateValue.readValue_chars, String.ofList_toList]
  rfl

/-! ### Lists of entries -/

/-- An entry whose key comes after all others is put at the end. -/
theorem insertEntry_of_forall_lt {key : String} {value : StateValue}
    {es : List (String × StateValue)} (h : ∀ e ∈ es, e.1 < key) :
    insertEntry key value es = es ++ [(key, value)] := by
  induction es with
  | nil => rfl
  | cons e rest ih =>
    have he := h e List.mem_cons_self
    have hlt : ¬key < e.1 := Std.not_lt.mpr (Std.le_of_lt he)
    have hne : key ≠ e.1 := fun heq => Std.lt_irrefl (heq ▸ he)
    rw [insertEntry, if_neg hlt, if_neg hne, ih fun d hd => h d (List.mem_cons_of_mem e hd)]
    rfl

/-- Reading entries that come in ascending order appends them to the map. -/
theorem readEntries_entryChars {es : List (String × StateValue)} {s t : BlockStates}
    (h : ∀ e ∈ es, FaithfulEntry e) (ht : t.entries = s.entries ++ es) :
    readEntries s (es.map entryChars) = .ok t := by
  induction es generalizing s with
  | nil =>
    obtain rfl : t = s := by
      cases t; cases s
      simpa using ht
    rfl
  | cons e rest ih =>
    have htrim := (trimmed_entryChars e).trim_eq
    have hne : (entryChars e).isEmpty = false := rfl
    -- The keys ascend, so this one comes after all that were read before it.
    have hasc := t.ascending
    rw [ht, List.pairwise_append] at hasc
    have hins : (s.insert e.1 e.2).entries = s.entries ++ [e] :=
      insertEntry_of_forall_lt fun d hd => hasc.2.2 d hd e List.mem_cons_self
    rw [List.map_cons, readEntries, htrim, hne, readEntry_entryChars (h e List.mem_cons_self)]
    exact ih (fun d hd => h d (List.mem_cons_of_mem e hd)) (by simp [ht, hins])

/-! ### The whole map -/

theorem trimmed_brackets (inner : List Char) : Trimmed ('[' :: inner ++ [']']) :=
  trimmed_cons_append (by decide) _ (trimmed_of_forall (by decide)) (by simp)

theorem withinBrackets?_brackets (inner : List Char) :
    withinBrackets? ('[' :: inner ++ [']']) = some inner := by
  rw [List.cons_append, withinBrackets?, List.getLast?_concat, if_pos rfl, List.dropLast_concat]

/-- Pieces with commas between them, in brackets and with blanks around, are read one after the
other. -/
theorem parseChars_brackets {before after : List Char} {pieces : List (List Char)}
    (hbefore : ∀ c ∈ before, isBlank c = true) (hafter : ∀ c ∈ after, isBlank c = true)
    (hpieces : ∀ p ∈ pieces, Piece p) :
    parseChars (before ++ ('[' :: [','].intercalate pieces ++ [']']) ++ after) =
      readEntries empty pieces := by
  have hne : ('[' :: [','].intercalate pieces ++ [']']).isEmpty = false := rfl
  simp only [parseChars, (trimmed_brackets _).trim_append hbefore hafter, hne, Bool.false_eq_true,
    if_false, withinBrackets?_brackets]
  by_cases hnil : pieces = []
  · -- Nothing between the brackets is one blank piece, which is passed over.
    subst hnil
    rfl
  · rw [entryPieces?_intercalate hnil hpieces]

theorem trimmed_chars (s : BlockStates) : Trimmed s.chars := trimmed_brackets _

/-- The text between the brackets of the canonical form. -/
theorem withinBrackets?_chars (s : BlockStates) :
    withinBrackets? s.chars = some ([','].intercalate (s.entries.map entryChars)) :=
  withinBrackets?_brackets _

/-- Reading block states undoes writing them. -/
theorem parseChars_chars {s : BlockStates} (h : Faithful s) : parseChars s.chars = .ok s := by
  have hpieces : ∀ p ∈ s.entries.map entryChars, Piece p := by
    intro p hp
    obtain ⟨e, he, rfl⟩ := List.mem_map.mp hp
    exact piece_entryChars (h e he).key (h e he).value
  have hread := parseChars_brackets (List.forall_mem_nil _) (List.forall_mem_nil _) hpieces
  rw [List.append_nil, List.nil_append] at hread
  exact hread.trans (readEntries_entryChars h rfl)

/-- Reading the canonical form of block states gives them back. -/
theorem parse_text {s : BlockStates} (h : Faithful s) : parse s.text = .ok s := by
  rw [parse, text, String.toList_ofList]
  exact parseChars_chars h

/-- **Decoding undoes encoding.** Block states of any size without quotes in their keys and text
values are read back from their canonical form as they are, each value as the kind of value it
was. -/
theorem decode_of_quotable {s : BlockStates} (h : s.Quotable) : parse s.text = .ok s :=
  parse_text h.faithful

/-- Keys and values that look like the syntax around them. -/
def syntaxLike : BlockStates :=
  .ofList [(" a,=:[] ", .text "true"), ("b", .bool true), ("n", .int (-7)), ("t", .text "-7"),
    ("z", .text "")]

theorem decode_of_quotable_syntaxLike :
    syntaxLike.Quotable ∧ parse syntaxLike.text = .ok syntaxLike := by
  have hquotable : syntaxLike.Quotable := by decide +kernel
  exact ⟨hquotable, decode_of_quotable hquotable⟩

end BlockStates

end BlockConsole
