import BlockConsole.Proofs.Block.StatesParser

/-!
# When the canonical form is read back

The canonical form of block states is read back as these states exactly if they are faithful
(`parse_text_iff`). That faithful states are read back is `parse_text`. The converse is a count. Of
each text count the characters that are not quotes, its `weight`, and count its quotes apart.

* An entry that is read from a piece weighs no more than the piece, and its canonical form has no
  fewer quotes, as bare keys and bare texts get theirs only there (`fits_of_readEntry`).
* Of two entries with one key only the later is kept, so what is read weighs no more than the text
  (`readEntries_bound`). Block states that are read from their own canonical form weigh as much as
  it does; so every piece has become an entry, and none of these was replaced.
* Then pieces and entries have equally many quotes too. So in every piece the key and a text value
  stood between quotes, and the piece shows that they may.

The states of an accepted text need not be faithful, since quotes are kept where they stand inside
a bare key or a bare value (`accepted_reads_back_iff`).
-/

namespace BlockConsole

open Text

namespace BlockStates

/-! ### Weight -/

/-- The **weight** of a text: how many of its characters are not quotes. -/
def weight (cs : List Char) : Nat :=
  cs.countP (· != '"')

theorem weight_append (as bs : List Char) : weight (as ++ bs) = weight as + weight bs :=
  List.countP_append

theorem weight_cons_quote (cs : List Char) : weight ('"' :: cs) = weight cs := by
  simp [weight]

theorem weight_cons {c : Char} (h : c ≠ '"') (cs : List Char) :
    weight (c :: cs) = weight cs + 1 := by
  simp [weight, h]

/-- A text without quotes weighs as much as it is long. -/
theorem weight_of_not_mem {cs : List Char} (h : '"' ∉ cs) : weight cs = cs.length := by
  rw [weight, List.countP_eq_length]
  intro c hc
  rw [bne_iff_ne]
  rintro rfl
  exact h hc

theorem quote_not_mem_blanks {cs : List Char} (h : ∀ c ∈ cs, isBlank c = true) : '"' ∉ cs :=
  fun hmem => absurd (h _ hmem) (by decide)

theorem count_quote_blanks {cs : List Char} (h : ∀ c ∈ cs, isBlank c = true) :
    cs.count '"' = 0 :=
  List.count_eq_zero_of_not_mem (quote_not_mem_blanks h)

theorem weight_trim_le (cs : List Char) : weight (trim cs) ≤ weight cs := by
  obtain ⟨before, after, heq, -, -⟩ := exists_eq_append_trim cs
  have := congrArg weight heq
  rw [weight_append, weight_append] at this
  omega

theorem count_quote_trim (cs : List Char) : (trim cs).count '"' = cs.count '"' := by
  obtain ⟨before, after, heq, hbefore, hafter⟩ := exists_eq_append_trim cs
  have := congrArg (List.count '"') heq
  rw [List.count_append, List.count_append, count_quote_blanks hbefore,
    count_quote_blanks hafter] at this
  omega

/-! ### Reading an entry -/

theorem ne_quote_of_isSeparator {c : Char} (h : isSeparator c = true) : c ≠ '"' := by
  rintro rfl
  exact absurd h (by decide)

/-- Where a text is cut at its first character of some kind. -/
theorem cut_of_dropWhile {p : Char → Bool} {cs rest : List Char} {c : Char}
    (h : cs.dropWhile p = c :: rest) :
    cs = cs.takeWhile p ++ c :: rest ∧ p c = false ∧ ∀ d ∈ cs.takeWhile p, p d = true := by
  have hjoin := List.takeWhile_append_dropWhile (p := p) (l := cs)
  have hhead := List.head?_dropWhile_not p cs
  rw [h] at hjoin hhead
  exact ⟨hjoin.symm, hhead, fun d hd => List.mem_takeWhile_imp hd⟩

/-- The key of an entry stands between quotes, and then it has none in it, or it is bare. -/
theorem shape_of_cutKey {entry key rest : List Char} (h : cutKey entry = .ok (key, rest)) :
    (∃ gap sep, entry = '"' :: (key ++ '"' :: (gap ++ sep :: rest)) ∧ '"' ∉ key ∧
        (∀ c ∈ gap, isBlank c = true) ∧ isSeparator sep = true) ∨
      ∃ bare sep, entry = bare ++ sep :: rest ∧ key = trim bare ∧ isSeparator sep = true := by
  unfold cutKey at h
  split at h
  · next cs =>
    split at h
    · exact absurd h (by simp)
    · next quote afterQuote hdrop =>
      obtain ⟨hcs, hquote, hkey⟩ := cut_of_dropWhile hdrop
      obtain rfl : quote = '"' := by simpa using hquote
      split at h
      · next sep value htrim =>
        obtain ⟨hafter, -, hgap⟩ := cut_of_dropWhile htrim
        split at h
        · next hsep =>
          obtain ⟨rfl, rfl⟩ : cs.takeWhile (· != '"') = key ∧ value = rest := by simpa using h
          refine .inl ⟨afterQuote.takeWhile isBlank, sep, ?_, fun hmem => ?_, hgap, hsep⟩
          · rw [← hafter, ← hcs]
          · simpa using hkey _ hmem
        · exact absurd h (by simp)
      · exact absurd h (by simp)
  · split at h
    · exact absurd h (by simp)
    · next sep value hdrop =>
      obtain ⟨hentry, hsep, -⟩ := cut_of_dropWhile hdrop
      obtain ⟨rfl, rfl⟩ : trim (entry.takeWhile (!isSeparator ·)) = key ∧ value = rest := by
        simpa using h
      exact .inr ⟨_, sep, hentry, rfl, by simpa using hsep⟩

/-- What comes before the value of an entry weighs more than the key, and it has two quotes more if
the key stands between quotes. -/
theorem exists_front_of_cutKey {entry key rest : List Char}
    (h : cutKey entry = .ok (key, rest)) :
    ∃ front, entry = front ++ rest ∧ weight key + 1 ≤ weight front ∧
      ((front.count '"' = 2 ∧ '"' ∉ key) ∨ front.count '"' = key.count '"') := by
  rcases shape_of_cutKey h with ⟨gap, sep, rfl, hkey, hgap, hsep⟩ | ⟨bare, sep, rfl, rfl, hsep⟩
  · have hne := ne_quote_of_isSeparator hsep
    refine ⟨'"' :: (key ++ '"' :: (gap ++ [sep])), by simp, ?_, .inl ⟨?_, hkey⟩⟩
    · rw [weight_cons_quote, weight_append, weight_cons_quote, weight_append, weight_cons hne []]
      omega
    · simp [List.count_append, List.count_eq_zero_of_not_mem hkey, count_quote_blanks hgap, hne]
  · have hne := ne_quote_of_isSeparator hsep
    have hweight := weight_trim_le bare
    refine ⟨bare ++ [sep], by simp, ?_, .inr ?_⟩
    · rw [weight_append, weight_cons hne []]
      omega
    · simp [count_quote_trim, List.count_append, hne]

/-- How the canonical form of a value compares with a text that the value is read from. If it has
no more quotes, then a text value stood between quotes. -/
structure FitsValue (cs : List Char) (v : StateValue) : Prop where
  weight_le : weight v.chars ≤ weight cs
  count_le : cs.count '"' ≤ v.chars.count '"'
  text : v.chars.count '"' ≤ cs.count '"' → ∀ t, v = .text t → cs = v.chars

theorem chars_text (cs : List Char) :
    StateValue.chars (.text (String.ofList cs)) = '"' :: (cs ++ ['"']) := by
  rw [StateValue.chars, String.toList_ofList, List.cons_append]

/-- A value fits its own canonical form. -/
theorem fitsValue_chars (v : StateValue) : FitsValue v.chars v :=
  ⟨Nat.le_refl _, Nat.le_refl _, fun _ _ _ => rfl⟩

/-- An integer fits every text that stands for it. -/
theorem fitsValue_int {cs : List Char} {i : Word} (h : Word.read? cs = some i) :
    FitsValue cs (.int i) := by
  obtain ⟨hlength, hquote⟩ := (Word.read?_eq_some_iff.mp h).length_decimal_le
  have hdecimal : '"' ∉ decimal i.val := fun hmem => (StateValue.bare_of_mem_decimal hmem).1 rfl
  refine ⟨?_, ?_, fun _ _ ht => absurd ht (by simp)⟩
  · rw [StateValue.chars, weight_of_not_mem hdecimal, weight_of_not_mem hquote]
    exact hlength
  · rw [List.count_eq_zero_of_not_mem hquote]
    exact Nat.zero_le _

/-- A bare text gets two quotes. -/
theorem fitsValue_bareText (cs : List Char) : FitsValue cs (.text (String.ofList cs)) := by
  have hweight : weight ('"' :: (cs ++ ['"'])) = weight cs := by
    rw [weight_cons_quote, weight_append, weight_cons_quote]
    rfl
  have hcount : ('"' :: (cs ++ ['"'])).count '"' = cs.count '"' + 2 := by
    simp [List.count_append]
  constructor
  · rw [chars_text, hweight]
  · rw [chars_text, hcount]
    omega
  · rw [chars_text, hcount]
    omega

theorem fitsValue_bareValue (cs : List Char) : FitsValue cs (bareValue cs) := by
  unfold bareValue
  split
  · next htrue => exact htrue ▸ fitsValue_chars (.bool true)
  · split
    · next hfalse => exact hfalse ▸ fitsValue_chars (.bool false)
    · split
      · next hint => exact fitsValue_int hint
      · exact fitsValue_bareText cs

/-- A value fits the text that it is read from. -/
theorem fitsValue_of_readValue {cs : List Char} {v : StateValue} (h : readValue cs = .ok v) :
    FitsValue cs v := by
  unfold readValue at h
  split at h
  · exact absurd h (by simp)
  · next rest =>
    split at h
    · next hlast =>
      obtain rfl := Except.ok.inj h
      obtain ⟨inner, rfl⟩ := List.getLast?_eq_some_iff.mp hlast
      rw [List.dropLast_concat, ← chars_text]
      exact fitsValue_chars _
    · exact absurd h (by simp)
  · obtain rfl := Except.ok.inj h
    exact fitsValue_bareValue cs

/-- An entry that was read has a key that is not empty, and a value. -/
theorem shape_of_readEntry {entry : List Char} {e : String × StateValue}
    (h : readEntry entry = .ok e) :
    ∃ rest, cutKey entry = .ok (e.1.toList, rest) ∧ e.1 ≠ "" ∧
      readValue (trim rest) = .ok e.2 := by
  unfold readEntry at h
  cases hcut : cutKey entry with
  | error err => simp [hcut, bind, Except.bind] at h
  | ok cut =>
    obtain ⟨key, rest⟩ := cut
    simp only [hcut, bind, Except.bind] at h
    split at h
    · exact absurd h (by simp)
    · next hne =>
      cases hvalue : readValue (trim rest) with
      | error err => simp [hvalue] at h
      | ok value =>
        simp only [hvalue] at h
        obtain rfl := Except.ok.inj h
        exact ⟨rest, by rw [String.toList_ofList], by simpa using hne, hvalue⟩

theorem weight_entryChars (e : String × StateValue) :
    weight (entryChars e) = weight e.1.toList + 1 + weight e.2.chars := by
  rw [entryChars, List.cons_append, weight_cons_quote, weight_append, weight_cons_quote,
    weight_cons (by decide)]
  omega

theorem count_quote_entryChars (e : String × StateValue) :
    (entryChars e).count '"' = 2 + e.1.toList.count '"' + e.2.chars.count '"' := by
  rw [entryChars, List.cons_append, List.count_cons_self, List.count_append,
    List.count_cons_self, List.count_cons_of_ne (by decide)]
  omega

/-- How the canonical form of an entry compares with a piece that the entry is read from. -/
structure Fits (p : List Char) (e : String × StateValue) : Prop where
  weight_le : weight (entryChars e) ≤ weight p
  count_le : p.count '"' ≤ (entryChars e).count '"'
  faithful : Piece p → (entryChars e).count '"' ≤ p.count '"' → FaithfulEntry e

/-- A text value between quotes is enclosable, if the key before it stands between quotes too: an
odd number of quotes is on either side of it. -/
theorem enclosable_of_piece {p front rest cs : List Char} (hpiece : Piece p)
    (hfront : trim p = front ++ rest) (hcount : front.count '"' = 2)
    (hrest : trim rest = '"' :: (cs ++ ['"'])) : Enclosable cs := by
  obtain ⟨before, after, hp, hbefore, hafter⟩ := exists_eq_append_trim p
  obtain ⟨before', after', hr, hbefore', hafter'⟩ := exists_eq_append_trim rest
  have hsplit : p = (before ++ front ++ before' ++ ['"']) ++ cs ++ ('"' :: after' ++ after) := by
    conv_lhs => rw [hp, hfront, hr, hrest]
    simp
  rw [hsplit] at hpiece
  refine hpiece.enclosable ?_ ?_
  · simp [List.count_append, count_quote_blanks hbefore, count_quote_blanks hbefore', hcount]
  · simp [List.count_append, count_quote_blanks hafter, count_quote_blanks hafter']

/-- An entry fits the piece that it is read from. -/
theorem fits_of_readEntry {p : List Char} {e : String × StateValue}
    (h : readEntry (trim p) = .ok e) : Fits p e := by
  obtain ⟨rest, hcut, hne, hvalue⟩ := shape_of_readEntry h
  obtain ⟨front, hfront, hweight, hquotes⟩ := exists_front_of_cutKey hcut
  obtain ⟨hvweight, hvcount, hvtext⟩ := fitsValue_of_readValue hvalue
  have hpWeight : weight front + weight (trim rest) ≤ weight p := by
    have hp := weight_trim_le p
    have hrest := weight_trim_le rest
    rw [hfront, weight_append] at hp
    omega
  have hpCount : p.count '"' = front.count '"' + (trim rest).count '"' := by
    rw [← count_quote_trim p, hfront, List.count_append, count_quote_trim rest]
  have heWeight := weight_entryChars e
  have heCount := count_quote_entryChars e
  refine ⟨by omega, ?_, fun hpiece hle => ?_⟩
  · rcases hquotes with ⟨hfrontCount, -⟩ | hfrontCount <;> omega
  · -- Only a key between quotes and a text between quotes make up for the quotes of the entry.
    obtain ⟨hfrontCount, hkey⟩ : front.count '"' = 2 ∧ '"' ∉ e.1.toList := by
      rcases hquotes with h | hfrontCount
      · exact h
      · omega
    have hkeyCount := List.count_eq_zero_of_not_mem hkey
    refine ⟨hne, hkey, fun t ht => ?_⟩
    have hrest := hvtext (by omega) t ht
    rw [ht, StateValue.chars] at hrest
    exact enclosable_of_piece hpiece hfront hfrontCount hrest

/-! ### Reading entries -/

/-- The weight of texts together, each with a comma. -/
def totalWeight (ps : List (List Char)) : Nat :=
  (ps.map fun p => weight p + 1).sum

theorem totalWeight_cons (p : List Char) (ps : List (List Char)) :
    totalWeight (p :: ps) = weight p + 1 + totalWeight ps := by
  simp [totalWeight]

/-- Texts with commas between them weigh as much as the texts and the commas do. -/
theorem totalWeight_eq {ps : List (List Char)} (hne : ps ≠ []) :
    totalWeight ps = weight ([','].intercalate ps) + 1 := by
  induction ps with
  | nil => exact absurd rfl hne
  | cons p rest ih =>
    cases rest with
    | nil => simp [totalWeight, List.intercalate]
    | cons q rest =>
      rw [totalWeight_cons, ih (by simp), List.intercalate_cons_cons, weight_append, weight_append,
        weight_cons (by decide) []]
      simp only [weight, List.countP_nil]
      omega

theorem count_quote_intercalate (ps : List (List Char)) :
    ([','].intercalate ps).count '"' = (ps.map (List.count '"')).sum := by
  induction ps with
  | nil => rfl
  | cons p rest ih =>
    cases rest with
    | nil => simp [List.intercalate]
    | cons q rest =>
      rw [List.intercalate_cons_cons, List.count_append, List.count_append, ih, List.map_cons,
        List.sum_cons]
      simp

/-- Putting an entry into a list adds it, or replaces another one by it. -/
theorem perm_insertEntry (key : String) (value : StateValue) (es : List (String × StateValue)) :
    (insertEntry key value es).Perm ((key, value) :: es) ∨
      ∃ old, (old :: insertEntry key value es).Perm ((key, value) :: es) := by
  induction es with
  | nil => exact .inl (.refl _)
  | cons e rest ih =>
    rw [insertEntry]
    split
    · exact .inl (.refl _)
    · split
      · exact .inr ⟨e, .swap _ _ _⟩
      · rcases ih with hadd | ⟨old, hreplace⟩
        · exact .inl ((hadd.cons e).trans (.swap _ _ _))
        · refine .inr ⟨old, ?_⟩
          exact (List.Perm.swap _ _ _).trans ((hreplace.cons e).trans (.swap _ _ _))

theorem perm_insert (s : BlockStates) (e : String × StateValue) :
    (s.insert e.1 e.2).entries.Perm (e :: s.entries) ∨
      ∃ old, (old :: (s.insert e.1 e.2).entries).Perm (e :: s.entries) :=
  perm_insertEntry e.1 e.2 s.entries

/-- The weight of entries together, each with a comma. -/
def entriesWeight (es : List (String × StateValue)) : Nat :=
  totalWeight (es.map entryChars)

theorem entriesWeight_cons (e : String × StateValue) (es : List (String × StateValue)) :
    entriesWeight (e :: es) = weight (entryChars e) + 1 + entriesWeight es :=
  totalWeight_cons _ _

theorem entriesWeight_perm {es ds : List (String × StateValue)} (h : es.Perm ds) :
    entriesWeight es = entriesWeight ds :=
  ((h.map entryChars).map _).sum_nat

/-- Entries that are read weigh no more than the pieces that they are read from. If they weigh as
much, then an entry was read from every piece, and none was replaced. -/
theorem readEntries_bound {s t : BlockStates} {pieces : List (List Char)}
    (h : readEntries s pieces = .ok t) :
    entriesWeight t.entries ≤ entriesWeight s.entries + totalWeight pieces ∧
      (entriesWeight s.entries + totalWeight pieces ≤ entriesWeight t.entries →
        ∃ es, List.Forall₂ Fits pieces es ∧ t.entries.Perm (s.entries ++ es)) := by
  induction pieces generalizing s with
  | nil =>
    obtain rfl := Except.ok.inj h
    exact ⟨Nat.le_refl _, fun _ => ⟨[], .nil, by simp⟩⟩
  | cons p rest ih =>
    rw [totalWeight_cons]
    rw [readEntries] at h
    split at h
    · -- A blank piece weighs at least its comma, and nothing is read from it.
      obtain ⟨hle, -⟩ := ih h
      exact ⟨by omega, fun hge => by omega⟩
    · cases hread : readEntry (trim p) with
      | error err => simp [hread, bind, Except.bind] at h
      | ok e =>
        simp only [hread, bind, Except.bind] at h
        obtain ⟨hle, htight⟩ := ih h
        have hfits := fits_of_readEntry hread
        have hweight := hfits.weight_le
        rcases s.perm_insert e with hadd | ⟨old, hreplace⟩
        · -- The entry is one more.
          have hsum := entriesWeight_perm hadd
          rw [entriesWeight_cons] at hsum
          refine ⟨by omega, fun hge => ?_⟩
          obtain ⟨es, hes, hperm⟩ := htight (by omega)
          refine ⟨e :: es, .cons hfits hes, hperm.trans ?_⟩
          exact (hadd.append_right es).trans List.perm_middle.symm
        · -- The entry replaces an older one, and at least the comma of that is lost.
          have hsum := entriesWeight_perm hreplace
          rw [entriesWeight_cons, entriesWeight_cons] at hsum
          exact ⟨by omega, fun hge => by omega⟩

/-- Entries have no fewer quotes together than the pieces that they fit. -/
theorem sum_count_quote_le {pieces : List (List Char)} {es : List (String × StateValue)}
    (h : List.Forall₂ Fits pieces es) :
    (pieces.map (List.count '"')).sum ≤ ((es.map entryChars).map (List.count '"')).sum := by
  induction h with
  | nil => exact Nat.le_refl _
  | cons hp _ ih => simpa using Nat.add_le_add hp.count_le ih

/-- If the entries that fit some pieces have no more quotes than the pieces, they are faithful. -/
theorem faithful_of_forall₂_fits {pieces : List (List Char)} {es : List (String × StateValue)}
    (h : List.Forall₂ Fits pieces es) (hpieces : ∀ p ∈ pieces, Piece p)
    (hle : ((es.map entryChars).map (List.count '"')).sum ≤
      (pieces.map (List.count '"')).sum) : ∀ e ∈ es, FaithfulEntry e := by
  induction h with
  | nil => simp
  | @cons p e ps es hfit hrest ih =>
    obtain ⟨hp, hps⟩ := List.forall_mem_cons.mp hpieces
    -- No piece has more quotes than its entry, so equal sums make them equal in every place.
    have hcount := hfit.count_le
    have hlater := sum_count_quote_le hrest
    simp only [List.map_cons, List.sum_cons] at hle
    exact List.forall_mem_cons.mpr ⟨hfit.faithful hp (by omega), ih hps (by omega)⟩

/-! ### The whole map -/

/-- Block states that are read from their own canonical form are faithful. -/
theorem faithful_of_parse_text {s : BlockStates} (h : parse s.text = .ok s) : s.Faithful := by
  have hchars : s.chars.isEmpty = false := rfl
  rw [parse, text, String.toList_ofList] at h
  simp only [parseChars, s.trimmed_chars.trim_eq, hchars, Bool.false_eq_true, if_false,
    withinBrackets?_chars] at h
  cases hpieces : entryPieces? false ([','].intercalate (s.entries.map entryChars)) with
  | none => simp [hpieces] at h
  | some pieces =>
    rw [hpieces] at h
    obtain ⟨hne, hpiece, hjoin⟩ := entryPieces?_eq_some_iff.mp hpieces
    by_cases hnil : s.entries = []
    · simp [Faithful, hnil]
    · -- Both the pieces and the entries make up the text, so they weigh the same.
      have hweight : totalWeight pieces = entriesWeight s.entries := by
        rw [entriesWeight, totalWeight_eq hne, totalWeight_eq (by simpa using hnil), hjoin]
      have hzero : entriesWeight empty.entries = 0 := rfl
      obtain ⟨es, hfits, hperm⟩ := (readEntries_bound h).2 (by omega)
      have hcount : (pieces.map (List.count '"')).sum =
          ((es.map entryChars).map (List.count '"')).sum := by
        rw [← count_quote_intercalate, hjoin, count_quote_intercalate]
        exact ((hperm.map entryChars).map _).sum_nat
      intro e he
      exact faithful_of_forall₂_fits hfits hpiece hcount.ge e (hperm.mem_iff.mp he)

/-- The canonical form of block states is read back exactly if they are faithful. -/
theorem parse_text_iff {s : BlockStates} : parse s.text = .ok s ↔ s.Faithful :=
  ⟨faithful_of_parse_text, parse_text⟩

/-! ### Accepted texts -/

/-- What holds of every entry that can be read holds of all that are read. -/
theorem readEntries_forall {P : String × StateValue → Prop}
    (hread : ∀ {entry e}, readEntry entry = .ok e → P e) {s t : BlockStates}
    {pieces : List (List Char)} (h : readEntries s pieces = .ok t)
    (hs : ∀ e ∈ s.entries, P e) : ∀ e ∈ t.entries, P e := by
  induction pieces generalizing s with
  | nil =>
    obtain rfl := Except.ok.inj h
    exact hs
  | cons p rest ih =>
    rw [readEntries] at h
    split at h
    · exact ih h hs
    · cases he : readEntry (trim p) with
      | error err => simp [he, bind, Except.bind] at h
      | ok e =>
        simp only [he, bind, Except.bind] at h
        refine ih h fun d hd => ?_
        rcases mem_insertEntry hd with rfl | hd
        · exact hread he
        · exact hs d hd

/-- No key of an accepted text is empty. -/
theorem key_ne_of_parse {text : String} {s : BlockStates} (h : parse text = .ok s) :
    ∀ e ∈ s.entries, e.1 ≠ "" := by
  rw [parse, parseChars] at h
  split at h
  · obtain rfl := Except.ok.inj h
    simp [empty]
  · split at h
    · exact absurd h (by simp)
    · split at h
      · exact absurd h (by simp)
      · refine readEntries_forall (fun he => ?_) h (by simp [empty])
        obtain ⟨_, _, hne, _⟩ := shape_of_readEntry he
        exact hne

/-- The quotes in block states are **unmistakable**: none of them is in a key, and every text value
is enclosable. -/
def Unmistakable (s : BlockStates) : Prop :=
  ∀ e ∈ s.entries, '"' ∉ e.1.toList ∧ ∀ t, e.2 = .text t → Enclosable t.toList

theorem faithful_iff_unmistakable {text : String} {s : BlockStates} (h : parse text = .ok s) :
    s.Faithful ↔ s.Unmistakable :=
  ⟨fun hs e he => ⟨(hs e he).key, (hs e he).value⟩,
    fun hs e he => ⟨key_ne_of_parse h e he, (hs e he).1, (hs e he).2⟩⟩

/-- **Which accepted texts normalize to a fixed point.** The canonical form of the states that a
text was read as is read as the same states exactly if the quotes in these are unmistakable. Then
another accepted text with the same canonical form stands for the same states exactly if the quotes
in its states are unmistakable too. -/
theorem accepted_reads_back_iff {text : String} {s : BlockStates} (h : parse text = .ok s) :
    (parse s.text = .ok s ↔ s.Unmistakable) ∧
      ∀ {text' s'}, parse text' = .ok s' → s'.text = s.text → s.Unmistakable →
        (s' = s ↔ s'.Unmistakable) := by
  refine ⟨parse_text_iff.trans (faithful_iff_unmistakable h), ?_⟩
  intro text' s' h' htext hs
  constructor
  · rintro rfl
    exact hs
  · intro hs'
    -- Both are what the canonical form that they share is read as.
    have hread := parse_text ((faithful_iff_unmistakable h').mpr hs')
    rw [htext, parse_text ((faithful_iff_unmistakable h).mpr hs)] at hread
    exact (Except.ok.inj hread).symm

/-- Two entries. -/
def twoEntries : BlockStates := .ofList [("a", .text "x"), ("b", .text "y")]

/-- One entry, with a value that holds all that stands between the values of `twoEntries`. -/
def oneEntry : BlockStates := .ofList [("a", .text "x\",\"b\"=\"y")]

theorem accepted_reads_back_iff_twoEntries :
    parse "[a=x, b:y]" = .ok twoEntries ∧ parse "[a=x\",\"b\"=\"y]" = .ok oneEntry ∧
      oneEntry.text = twoEntries.text ∧ twoEntries.Unmistakable ∧
      (parse twoEntries.text = .ok twoEntries ↔ twoEntries.Unmistakable) ∧
      (oneEntry = twoEntries ↔ oneEntry.Unmistakable) := by
  have htwo : parse "[a=x, b:y]" = .ok twoEntries := by decide +kernel
  have hone : parse "[a=x\",\"b\"=\"y]" = .ok oneEntry := by decide +kernel
  have htext : oneEntry.text = twoEntries.text := by decide +kernel
  have hquotes : twoEntries.Unmistakable := by
    have hread : parse twoEntries.text = .ok twoEntries := by decide +kernel
    exact (faithful_iff_unmistakable htwo).mp (parse_text_iff.mp hread)
  obtain ⟨hiff, hsame⟩ := accepted_reads_back_iff htwo
  exact ⟨htwo, hone, htext, hquotes, hiff, hsame hone htext hquotes⟩

/-- A text with quotes inside a bare value is accepted, but the canonical form of its states stands
for other states. -/
theorem bare_quotes_read_as_separators :
    parse "[a=x\",\"b\"=\"y]" = .ok oneEntry ∧ parse oneEntry.text = .ok twoEntries ∧
      parse "[a=x, b:y]" = .ok twoEntries ∧ oneEntry.text = twoEntries.text ∧
      oneEntry ≠ twoEntries := by
  refine ⟨?_, ?_, ?_, ?_, ?_⟩ <;> decide +kernel

end BlockStates

end BlockConsole
