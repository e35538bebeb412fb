import BlockConsole.Proofs.Command.Balance
import BlockConsole.Proofs.Command.Parser

/-!
# Commands about any block name

A block name is written into a command as it is, whatever characters it has. Here the name is
canonical and the states can be quoted, and nothing else is assumed (`Puts`).

If the quotes and brackets of the name are balanced, then the text of the command is read as the
command, or it has too many words (`Puts.parse_of_balanced`). If they are not, then the name runs
into the states, and the text is never read as the command (`Puts.parse_ne_of_not_balanced`): the
block that is read has a name that is cut off or goes on.
-/

namespace BlockConsole

open Text

/-! ### Words with spaces between them -/

theorem head?_intercalate {w : List Char} (hne : w ≠ []) (ws : List (List Char)) :
    ([' '].intercalate (w :: ws)).head? = w.head? := by
  cases ws with
  | nil => simp [List.intercalate]
  | cons w' ws =>
    rw [List.intercalate_cons_cons, List.append_assoc, List.head?_append_of_ne_nil _ hne]

theorem intercalate_concat {ws : List (List Char)} (hne : ws ≠ []) (w : List Char) :
    [' '].intercalate (ws ++ [w]) = [' '].intercalate ws ++ [' '] ++ w := by
  induction ws with
  | nil => exact absurd rfl hne
  | cons v rest ih =>
    cases rest with
    | nil => simp [List.intercalate]
    | cons v' rest =>
      rw [List.cons_append, List.cons_append, List.intercalate_cons_cons,
        List.intercalate_cons_cons, ← List.cons_append, ih (by simp)]
      simp

/-- Solid words are words of their own, whatever comes after them. -/
theorem tokenize_intercalate {ws : List (List Char)} (h : ∀ w ∈ ws, Solid w) (a b : List Char) :
    Token.tokenize ([' '].intercalate (ws ++ [a, b])) = ws ++ Token.tokenize (a ++ ' ' :: b) := by
  induction ws with
  | nil => simp [List.intercalate]
  | cons w rest ih =>
    obtain ⟨hw, hrest⟩ := List.forall_mem_cons.mp h
    obtain ⟨v, vs, hcons⟩ : ∃ v vs, rest ++ [a, b] = v :: vs :=
      List.exists_cons_of_ne_nil (by simp)
    rw [List.cons_append, hcons, List.intercalate_cons_cons, ← hcons, List.append_assoc,
      List.singleton_append, Token.tokenize_cut hw.passes hw.ne_nil (by decide), ih hrest,
      List.cons_append]

namespace Command

/-! ### Commands that put a block -/

/-- A command **puts** a block: it names the block and its states at its end. -/
inductive Puts (name : String) (states : BlockStates) : Command → Prop
  | fill (start stop : Position) : Puts name states (.fill start stop name states)
  | setBlock (pos : Position) : Puts name states (.setBlock pos name states)

/-- The words of a command up to the block that it puts. -/
def front : Command → List String
  | fill start stop _ _ => "fill" :: coordinateWords start ++ coordinateWords stop
  | setBlock pos _ _ => "setblock" :: coordinateWords pos
  | c => c.words

/-- The command with another block in the place of its own. -/
def withBlock : Command → String → BlockStates → Command
  | fill start stop _ _, name, states => .fill start stop name states
  | setBlock pos _ _, name, states => .setBlock pos name states
  | c, _, _ => c

namespace Puts

variable {name : String} {states : BlockStates} {c : Command}

theorem words_eq (hc : Puts name states c) : c.words = c.front ++ [name, states.text] := by
  cases hc <;> rfl

theorem solid_front (hc : Puts name states c) : ∀ w ∈ c.front.map String.toList, Solid w := by
  cases hc with
  | fill start stop =>
    rw [front, List.cons_append, List.map_cons, List.map_append, List.forall_mem_cons,
      List.forall_mem_append]
    exact ⟨Plain.solid (by decide) (by decide), solid_coordinateWords start,
      solid_coordinateWords stop⟩
  | setBlock pos =>
    rw [front, List.map_cons, List.forall_mem_cons]
    exact ⟨Plain.solid (by decide) (by decide), solid_coordinateWords pos⟩

theorem toList_text (hc : Puts name states c) :
    c.text.toList =
      [' '].intercalate (c.front.map String.toList ++ [name.toList, states.chars]) := by
  rw [text, String.toList_intercalate, hc.words_eq, List.map_append]
  simp [BlockStates.text]

/-- The text of the command begins with its own name. -/
theorem head?_text (hc : Puts name states c) :
    c.text.toList.head? = some 'f' ∨ c.text.toList.head? = some 's' := by
  rw [hc.toList_text]
  cases hc with
  | fill start stop =>
    left
    rw [front, List.cons_append, List.map_cons, List.cons_append, head?_intercalate (by decide)]
    rfl
  | setBlock pos =>
    right
    rw [front, List.map_cons, List.cons_append, head?_intercalate (by decide)]
    rfl

/-- It ends with the bracket that closes the states. -/
theorem trimmed_text (hc : Puts name states c) : Trimmed c.text.toList := by
  constructor
  · intro d hd
    rcases hc.head?_text with h | h <;> rw [h] at hd <;> obtain rfl := Option.some.inj hd <;> decide
  · intro d hd
    have hsplit : c.front.map String.toList ++ [name.toList, states.chars] =
        (c.front.map String.toList ++ [name.toList]) ++ [states.chars] := by simp
    have hne : states.chars ≠ [] := by simp [BlockStates.chars]
    rw [hc.toList_text, hsplit, intercalate_concat (by simp), Option.mem_def,
      List.getLast?_append_of_ne_nil _ hne] at hd
    exact states.trimmed_chars.last d hd

/-- The text of the command is read word by word up to the block. -/
theorem parse_text_eq (hc : Puts name states c) :
    parse c.text =
      ofTokens (c.front.map String.toList ++
        Token.tokenize (name.toList ++ ' ' :: states.chars)) := by
  have hslash : c.text.toList.head? ≠ some '/' := by
    rcases hc.head?_text with h | h <;> rw [h] <;> decide
  rw [parse, hc.trimmed_text.trim_eq, dropSlash_of_head? hslash, hc.toList_text,
    tokenize_intercalate hc.solid_front]

/-! ### Reading the words of the block -/

theorem withBlock_self (hc : Puts name states c) : c.withBlock name states = c := by
  cases hc <;> rfl

theorem withBlock_inj (hc : Puts name states c) {name' : String} {states' : BlockStates}
    (h : c.withBlock name' states' = c) : name' = name := by
  cases hc with
  | fill start stop => exact (Command.fill.inj h).2.2.1
  | setBlock pos => exact (Command.setBlock.inj h).2.1

theorem ofTokens_front_fill (start stop : Position) (block : String) (states : BlockStates)
    (args : List (List Char)) :
    ofTokens ((front (.fill start stop block states)).map String.toList ++ args) =
      parseFill (start.x.text.toList :: start.y.text.toList :: start.z.text.toList ::
        stop.x.text.toList :: stop.y.text.toList :: stop.z.text.toList :: args) := by
  have hname := lowercase_name "fill" (by decide +kernel)
  simp only [front, coordinateWords, List.cons_append, List.nil_append, List.map_cons,
    List.map_nil, ofTokens, hname]
  rfl

theorem ofTokens_front_setBlock (pos : Position) (block : String) (states : BlockStates)
    (args : List (List Char)) :
    ofTokens ((front (.setBlock pos block states)).map String.toList ++ args) =
      parseSetBlock (pos.x.text.toList :: pos.y.text.toList :: pos.z.text.toList :: args) := by
  have hname := lowercase_name "setblock" (by decide +kernel)
  simp only [front, coordinateWords, List.cons_append, List.nil_append, List.map_cons,
    List.map_nil, ofTokens, hname]
  rfl

/-- One word is the name of the block. -/
theorem ofTokens_one (hc : Puts name states c) (w : List Char) :
    ofTokens (c.front.map String.toList ++ [w]) = .ok (c.withBlock (blockName w) .empty) := by
  cases hc with
  | fill start stop =>
    rw [ofTokens_front_fill, parseFill, parsePosition_text, parsePosition_text]
    rfl
  | setBlock pos =>
    rw [ofTokens_front_setBlock, parseSetBlock, parsePosition_text]
    rfl

/-- Two words are the name of the block and its states. -/
theorem ofTokens_two (hc : Puts name states c) (w v : List Char) :
    ofTokens (c.front.map String.toList ++ [w, v]) =
      (parseBlockStates v).map (c.withBlock (blockName w)) := by
  cases hc with
  | fill start stop =>
    rw [ofTokens_front_fill, parseFill, parsePosition_text, parsePosition_text]
    cases parseBlockStates v <;> rfl
  | setBlock pos =>
    rw [ofTokens_front_setBlock, parseSetBlock, parsePosition_text]
    cases parseBlockStates v <;> rfl

/-- More than two words are too many. -/
theorem ofTokens_of_three (hc : Puts name states c) (w v u : List Char) (more : List (List Char)) :
    ∃ e, ofTokens (c.front.map String.toList ++ w :: v :: u :: more) = .error e := by
  cases hc with
  | fill start stop => exact ⟨_, ofTokens_front_fill start stop name states _⟩
  | setBlock pos => exact ⟨_, ofTokens_front_setBlock pos name states _⟩

/-- A command that is read puts the block that the first word names. -/
theorem exists_withBlock (hc : Puts name states c) {c' : Command} {w : List Char}
    {more : List (List Char)}
    (h : ofTokens (c.front.map String.toList ++ w :: more) = .ok c') :
    ∃ states', c' = c.withBlock (blockName w) states' := by
  rcases more with - | ⟨v, - | ⟨u, more⟩⟩
  · rw [hc.ofTokens_one] at h
    exact ⟨.empty, (Except.ok.inj h).symm⟩
  · rw [hc.ofTokens_two] at h
    cases hv : parseBlockStates v with
    | error e =>
      rw [hv] at h
      exact absurd h (by simp [Except.map])
    | ok states' =>
      rw [hv] at h
      exact ⟨states', (Except.ok.inj h).symm⟩
  · obtain ⟨e, he⟩ := hc.ofTokens_of_three w v u more
    rw [he] at h
    exact absurd h (by simp)

/-! ### Reading the text of the command -/

/-- Where the quotes and brackets of the name are balanced, the text is read as the command or not
at all. -/
theorem parse_of_balanced (hc : Puts (BlockName.canonical name) states c) (hs : states.Quotable)
    (hb : Balanced (BlockName.canonical name).toList) :
    parse c.text = .ok c ∨ ∃ e, parse c.text = .error e := by
  have hstates : Token.tokenize states.chars = [states.chars] :=
    (Spaced.last states.chars).tokenize_eq (by simpa using BlockStates.solid_chars hs)
  rw [hc.parse_text_eq, Token.tokenize_append_of_balanced hb (by decide), hstates]
  rcases Token.tokenize_of_trimmed (BlockName.trimmed_canonical name)
    (BlockName.toList_canonical_ne_nil name) with hone | ⟨v, w, words, hmany⟩
  · left
    rw [hone, List.singleton_append, hc.ofTokens_two,
      blockName_toList (BlockName.canonical_canonical name), parseBlockStates,
      BlockStates.parseChars_chars hs.faithful]
    exact congrArg Except.ok hc.withBlock_self
  · -- A name of two words or more leaves no place for the states.
    right
    obtain ⟨u, more, hmore⟩ : ∃ u more, words ++ [states.chars] = u :: more :=
      List.exists_cons_of_ne_nil (by simp)
    rw [hmany, List.cons_append, List.cons_append, hmore]
    exact hc.ofTokens_of_three v w u more

/-- Where they are not, another block is named than the command puts. -/
theorem parse_ne_of_not_balanced (hc : Puts (BlockName.canonical name) states c)
    (hb : ¬Balanced (BlockName.canonical name).toList) : parse c.text ≠ .ok c := by
  have hchars : states.chars = '[' :: states.chars.tail := rfl
  have hspace : isBlank ' ' = true := by decide
  have hbracket : isBlank '[' = false := by decide
  rw [hc.parse_text_eq, hchars]
  intro h
  rcases Token.tokenize_append_of_not_balanced hb (BlockName.trimmed_canonical name)
      (BlockName.toList_canonical_ne_nil name) hspace hbracket states.chars.tail with
    ⟨word, gap, rest, words, hcut, hgap, hword, htokens⟩ | ⟨more, words, htokens⟩
  · rw [htokens] at h
    obtain ⟨states', hread⟩ := hc.exists_withBlock h
    exact BlockName.canonical_ne_of_cut hcut hgap hword (hc.withBlock_inj hread.symm)
  · rw [htokens] at h
    obtain ⟨states', hread⟩ := hc.exists_withBlock h
    exact BlockName.canonical_ne_of_extended hbracket [' '] more (hc.withBlock_inj hread.symm)

/-- Whatever the name is, the text is read as the same command about some block, or not at all. -/
theorem exists_withBlock_of_parse (hc : Puts name states c) {c' : Command}
    (h : parse c.text = .ok c') :
    ∃ name' states', BlockName.canonical name' = name' ∧ c' = c.withBlock name' states' := by
  have hbracket : '[' ∈ name.toList ++ ' ' :: states.chars := by simp [BlockStates.chars]
  obtain ⟨w, more, hwords⟩ :=
    List.exists_cons_of_ne_nil (Token.tokenize_ne_nil hbracket (by decide))
  rw [hc.parse_text_eq, hwords] at h
  obtain ⟨states', hread⟩ := hc.exists_withBlock h
  exact ⟨blockName w, states', BlockName.canonical_canonical _, hread⟩

end Puts

end Command

end BlockConsole
