import BlockConsole.Proofs.Block.StatesMap

/-!
# Lenient spellings of block states

Block states may be written in looser forms than the canonical one, and what these forms are is said
here by a grammar that does not mention the reading (`BlockStates.Spells`): keys between quotes or
bare, either separator, values between quotes or bare, blanks around everything, blank entries, and
keys that come again. Every spelling of a list of entries is read, as the map in which the last
entry with a key counts (`lenient_spelling_is_read`).

The proof follows the grammar. What spells an entry is a piece of its own, so the commas are found
where the grammar puts them; the piece is cut at its separator; and the value is read by what it
looks like (`BareReading`).
-/

namespace BlockConsole.BlockStates

open Text

/-! ### The grammar -/

/-- The spellings of a key, with the blanks after it. Between quotes it may be any text without a
quote; a bare key has no character that could end it. -/
inductive SpellsKey (key : String) : List Char → Prop
  | quoted {gap : List Char} (hkey : '"' ∉ key.toList) (hgap : ∀ c ∈ gap, isBlank c = true) :
      SpellsKey key ('"' :: key.toList ++ '"' :: gap)
  | bare {gap : List Char} (htrimmed : Trimmed key.toList)
      (hkey : ∀ c ∈ key.toList, c ≠ '"' ∧ c ≠ ',' ∧ c ≠ '=' ∧ c ≠ ':')
      (hgap : ∀ c ∈ gap, isBlank c = true) : SpellsKey key (key.toList ++ gap)

/-- The value that a **bare** text stands for: a truth value, a word that it is a numeral of, or
else the text itself. -/
inductive BareReading : List Char → StateValue → Prop
  | yes : BareReading "true".toList (.bool true)
  | no : BareReading "false".toList (.bool false)
  | number {cs : List Char} {w : Word} (h : Numeral cs w.val) : BareReading cs (.int w)
  | text {cs : List Char} (htrue : cs ≠ "true".toList) (hfalse : cs ≠ "false".toList)
      (hnumber : ∀ w : Word, ¬Numeral cs w.val) : BareReading cs (.text (String.ofList cs))

/-- The spellings of a value. -/
inductive SpellsValue : StateValue → List Char → Prop
  | quoted {t : String} (ht : '"' ∉ t.toList) : SpellsValue (.text t) ('"' :: t.toList ++ ['"'])
  | bare {v : StateValue} {cs : List Char} (hne : cs ≠ []) (htrimmed : Trimmed cs)
      (hcs : ∀ c ∈ cs, c ≠ '"' ∧ c ≠ ',') (hread : BareReading cs v) : SpellsValue v cs

/-- The spellings of an entry: a key that is not empty, a separator and a value, with blanks around
each of them. -/
inductive SpellsEntry (e : String × StateValue) : List Char → Prop
  | intro {before key between value after : List Char} {sep : Char}
      (hbefore : ∀ c ∈ before, isBlank c = true) (hne : e.1 ≠ "") (hkey : SpellsKey e.1 key)
      (hsep : sep = '=' ∨ sep = ':') (hbetween : ∀ c ∈ between, isBlank c = true)
      (hvalue : SpellsValue e.2 value) (hafter : ∀ c ∈ after, isBlank c = true) :
      SpellsEntry e (before ++ (key ++ sep :: (between ++ value)) ++ after)

/-- The texts between commas that spell a list of entries, in their order. Any of the texts may be
blank. -/
inductive SpellsEntries : List (String × StateValue) → List (List Char) → Prop
  | nil : SpellsEntries [] []
  | blank {es : List (String × StateValue)} {p : List Char} {ps : List (List Char)}
      (hp : ∀ c ∈ p, isBlank c = true) (hps : SpellsEntries es ps) : SpellsEntries es (p :: ps)
  | entry {e : String × StateValue} {es : List (String × StateValue)} {p : List Char}
      {ps : List (List Char)} (hp : SpellsEntry e p) (hps : SpellsEntries es ps) :
      SpellsEntries (e :: es) (p :: ps)

/-- A text **spells** a list of entries if it consists of spellings of them with commas between, in
brackets and with blanks around all of it. -/
def Spells (es : List (String × StateValue)) (s : String) : Prop :=
  ∃ before pieces after, s.toList = before ++ ('[' :: [','].intercalate pieces ++ [']']) ++ after ∧
    (∀ c ∈ before, isBlank c = true) ∧ SpellsEntries es pieces ∧ ∀ c ∈ after, isBlank c = true

/-! ### Keys -/

/-- Blanks are a piece. -/
theorem piece_of_blanks {gap : List Char} (h : ∀ c ∈ gap, isBlank c = true) : Piece gap := by
  refine .of_bare fun c hc => ⟨?_, ?_⟩ <;>
  · rintro rfl
    exact absurd (h _ hc) (by decide)

theorem isSeparator_of_isBlank {c : Char} (h : isBlank c = true) : isSeparator c = false :=
  Bool.eq_false_iff.mpr fun hsep => by simp [isBlank_of_isSeparator hsep] at h

namespace SpellsKey

variable {key : String} {cs : List Char}

theorem piece (h : SpellsKey key cs) : Piece cs := by
  cases h with
  | quoted hkey hgap =>
    have hquoted := (enclosable_of_not_mem hkey).piece.append (piece_of_blanks hgap)
    simpa using hquoted
  | bare _ hkey hgap =>
    exact (Piece.of_bare fun c hc => ⟨(hkey c hc).1, (hkey c hc).2.1⟩).append (piece_of_blanks hgap)

/-- A key that is not empty begins without a blank. -/
theorem exists_cons (h : SpellsKey key cs) (hne : key ≠ "") :
    ∃ c rest, cs = c :: rest ∧ isBlank c = false := by
  cases h with
  | quoted => exact ⟨'"', _, rfl, by decide⟩
  | bare htrimmed =>
    cases hkey : key.toList with
    | nil => exact absurd (by simpa using hkey) hne
    | cons c rest => exact ⟨c, _, rfl, htrimmed.head c (by rw [hkey]; rfl)⟩

/-- An entry is cut behind the key, whatever comes after the separator. -/
theorem cutKey_eq (h : SpellsKey key cs) {sep : Char} (hsep : isSeparator sep = true)
    (rest : List Char) : cutKey (cs ++ sep :: rest) = .ok (key.toList, rest) := by
  cases h with
  | quoted hkey hgap =>
    have hcut := cutKey_quoted hkey hgap hsep rest
    simpa using hcut
  | @bare gap htrimmed hkey hgap =>
    -- No blank is a quote or a separator, so the bare key and its blanks have neither.
    have hblank : ∀ c ∈ gap, c ≠ '"' ∧ isSeparator c = false := fun c hc =>
      ⟨fun heq => absurd (hgap c hc) (by rw [heq]; decide), isSeparator_of_isBlank (hgap c hc)⟩
    have hfront : ∀ c ∈ key.toList ++ gap, c ≠ '"' ∧ isSeparator c = false := by
      intro c hc
      rcases List.mem_append.mp hc with hc | hc
      · obtain ⟨hquote, -, heq, hcolon⟩ := hkey c hc
        exact ⟨hquote, by simp [isSeparator, heq, hcolon]⟩
      · exact hblank c hc
    have hhead : (key.toList ++ gap).head? ≠ some '"' := fun hquote =>
      (hfront _ (List.mem_of_head? hquote)).1 rfl
    have htrim : trim ([] ++ key.toList ++ gap) = key.toList :=
      htrimmed.trim_append (by simp) hgap
    rw [cutKey_bare hhead (fun c hc => (hfront c hc).2) hsep]
    exact congrArg (fun key => Except.ok (key, rest)) htrim

end SpellsKey

/-! ### Values -/

/-- A bare text is read as the value that it stands for. -/
theorem BareReading.bareValue_eq {cs : List Char} {v : StateValue} (h : BareReading cs v) :
    bareValue cs = v := by
  cases h with
  | yes => rfl
  | no => rfl
  | number h => exact bareValue_of_read? (Word.read?_eq_some_iff.mpr h)
  | text htrue hfalse hnumber =>
    have hnone : Word.read? cs = none :=
      Option.eq_none_iff_forall_ne_some.mpr fun w hw => hnumber w (Word.read?_eq_some_iff.mp hw)
    rw [bareValue, if_neg htrue, if_neg hfalse, hnone]

namespace SpellsValue

variable {v : StateValue} {cs : List Char}

theorem ne_nil (h : SpellsValue v cs) : cs ≠ [] := by
  cases h with
  | quoted => simp
  | bare hne => exact hne

theorem trimmed (h : SpellsValue v cs) : Trimmed cs := by
  cases h with
  | quoted =>
    exact trimmed_cons_append (by decide) _ (trimmed_of_forall (by decide)) (by simp)
  | bare _ htrimmed => exact htrimmed

theorem piece (h : SpellsValue v cs) : Piece cs := by
  cases h with
  | quoted ht => exact (enclosable_of_not_mem ht).piece
  | bare _ _ hcs => exact .of_bare hcs

/-- A spelling of a value is read as the value. -/
theorem readValue_eq (h : SpellsValue v cs) : readValue cs = .ok v := by
  cases h with
  | @quoted t => exact (StateValue.text t).readValue_chars
  | bare hne _ hcs hread =>
    rw [readValue_bare hne fun hmem => (hcs _ hmem).1 rfl, hread.bareValue_eq]

end SpellsValue

/-! ### Entries -/

namespace SpellsEntry

variable {e : String × StateValue} {p : List Char}

theorem piece (h : SpellsEntry e p) : Piece p := by
  obtain @⟨before, key, between, value, after, sep, hbefore, -, hkey, hsep, hbetween, hvalue,
    hafter⟩ := h
  have hsep : Piece [sep] := by
    rcases hsep with rfl | rfl <;> exact .of_bare (by decide)
  have hcore := hkey.piece.append (hsep.append ((piece_of_blanks hbetween).append hvalue.piece))
  exact ((piece_of_blanks hbefore).append hcore).append (piece_of_blanks hafter)

/-- A spelling of an entry is read as the entry, after the blanks around it are gone. -/
theorem readEntry_trim (h : SpellsEntry e p) : trim p ≠ [] ∧ readEntry (trim p) = .ok e := by
  obtain @⟨before, key, between, value, after, sep, hbefore, hne, hkey, hsep, hbetween, hvalue,
    hafter⟩ := h
  obtain ⟨c, rest, hcons, hc⟩ := hkey.exists_cons hne
  have hcore : Trimmed (key ++ sep :: (between ++ value)) := by
    have htrimmed := trimmed_cons_append hc (rest ++ sep :: between) hvalue.trimmed hvalue.ne_nil
    rw [hcons]
    simpa using htrimmed
  rw [hcore.trim_append hbefore hafter]
  refine ⟨by simp, ?_⟩
  have htrim : trim (between ++ value) = value := by
    have := hvalue.trimmed.trim_append hbetween (List.forall_mem_nil _)
    rwa [List.append_nil] at this
  have hempty : e.1.toList.isEmpty = false := by simpa using hne
  rw [readEntry, hkey.cutKey_eq (by simpa [isSeparator] using hsep)]
  show (if e.1.toList.isEmpty then _ else _) = _
  rw [hempty, htrim, hvalue.readValue_eq, String.ofList_toList]
  rfl

end SpellsEntry

namespace SpellsEntries

variable {es : List (String × StateValue)} {ps : List (List Char)}

theorem piece (h : SpellsEntries es ps) : ∀ p ∈ ps, Piece p := by
  induction h with
  | nil => simp
  | blank hp _ ih => exact List.forall_mem_cons.mpr ⟨piece_of_blanks hp, ih⟩
  | entry hp _ ih => exact List.forall_mem_cons.mpr ⟨hp.piece, ih⟩

/-- Spelled entries are put into a map one after the other. -/
theorem readEntries_eq (h : SpellsEntries es ps) (s : BlockStates) :
    readEntries s ps = .ok (es.foldl (fun s e => s.insert e.1 e.2) s) := by
  induction h generalizing s with
  | nil => rfl
  | @blank es p ps hp _ ih =>
    rw [readEntries, trim_eq_nil_of_blanks hp]
    exact ih s
  | @entry e es p ps hp _ ih =>
    obtain ⟨hne, hread⟩ := hp.readEntry_trim
    have hempty : (trim p).isEmpty = false := by simpa using hne
    rw [readEntries, hempty, hread]
    exact ih (s.insert e.1 e.2)

end SpellsEntries

/-! ### The whole text -/

/-- **Lenient spellings are read.** Every spelling of a list of entries, whatever its quotes, its
separators and its blanks are, is read as the map of the entries, and this gives to a key what comes
last under it. -/
theorem lenient_spelling_is_read {es : List (String × StateValue)} {s : String}
    (h : Spells es s) :
    parse s = .ok (ofList es) ∧ ∀ key, (ofList es).get? key = lastValue? es key := by
  refine ⟨?_, get?_ofList es⟩
  obtain ⟨before, pieces, after, htext, hbefore, hpieces, hafter⟩ := h
  rw [parse, htext, parseChars_brackets hbefore hafter hpieces.piece]
  exact hpieces.readEntries_eq empty

/-- Two entries with one key, and two texts: one that holds what stands between entries, and one of
digits for a number that no word is. -/
def mixedEntries : List (String × StateValue) :=
  [("a:b", .text "x,y"), ("facing", .int 2), ("big", .text "99999999999"), ("facing", .bool true)]

/-- A spelling of `mixedEntries`. -/
def mixedSpelling : String :=
  "\u3000[ \"a:b\" = \"x,y\" , ,facing : +02,big=99999999999,facing\t=\ttrue]\n"

theorem lenient_spelling_is_read_mixed :
    Spells mixedEntries mixedSpelling ∧ parse mixedSpelling = .ok (ofList mixedEntries) ∧
      (ofList mixedEntries).get? "facing" = some (.bool true) := by
  have hquoted : SpellsEntry ("a:b", .text "x,y") " \"a:b\" = \"x,y\" ".toList :=
    @SpellsEntry.intro ("a:b", .text "x,y") [' '] _ [' '] _ [' '] '=' (by decide) (by decide)
      (@SpellsKey.quoted "a:b" [' '] (by decide) (by decide)) (.inl rfl) (by decide)
      (@SpellsValue.quoted "x,y" (by decide)) (by decide)
  have hnumber : SpellsEntry ("facing", .int 2) "facing : +02".toList :=
    @SpellsEntry.intro ("facing", .int 2) [] _ [' '] "+02".toList [] ':' (by decide) (by decide)
      (@SpellsKey.bare "facing" [' '] (trimmed_of_forall (by decide)) (by decide) (by decide))
      (.inr rfl) (by decide)
      (.bare (by decide) (trimmed_of_forall (by decide)) (by decide)
        (.number (Word.read?_eq_some_iff.mp (by decide +kernel))))
      (by decide)
  have hbig : SpellsEntry ("big", .text "99999999999") "big=99999999999".toList := by
    have hnone : Word.read? "99999999999".toList = none := by decide +kernel
    refine @SpellsEntry.intro ("big", .text "99999999999") [] _ [] "99999999999".toList [] '='
      (by decide) (by decide)
      (@SpellsKey.bare "big" [] (trimmed_of_forall (by decide)) (by decide) (by decide))
      (.inl rfl) (by decide) ?_ (by decide)
    refine .bare (by decide) (trimmed_of_forall (by decide)) (by decide)
      (.text (by decide) (by decide) fun w hw => ?_)
    rw [Word.read?_eq_some_iff.mpr hw] at hnone
    exact nomatch hnone
  have htrue : SpellsEntry ("facing", .bool true) "facing\t=\ttrue".toList :=
    @SpellsEntry.intro ("facing", .bool true) [] _ ['\t'] "true".toList [] '=' (by decide)
      (by decide)
      (@SpellsKey.bare "facing" ['\t'] (trimmed_of_forall (by decide)) (by decide) (by decide))
      (.inl rfl) (by decide)
      (.bare (by decide) (trimmed_of_forall (by decide)) (by decide) .yes) (by decide)
  have hspells : Spells mixedEntries mixedSpelling :=
    ⟨['\u3000'], _, ['\n'], by decide +kernel, by decide,
      .entry hquoted (.blank (p := [' ']) (by decide)
        (.entry hnumber (.entry hbig (.entry htrue .nil)))), by decide⟩
  obtain ⟨hparse, hget⟩ := lenient_spelling_is_read hspells
  exact ⟨hspells, hparse, hget "facing"⟩

end BlockConsole.BlockStates
