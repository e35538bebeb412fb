import BlockConsole.Command.Parser
import BlockConsole.Proofs.Block.Name
import BlockConsole.Proofs.Command.Token

/-!
# Reading commands back

A command that places a block can be read back if the block is `Writable`: its name is canonical
and without blanks, quotes and opening brackets, and its states can be quoted. All other commands
can be read back as they are. A text `Spells` a command if it consists of the words of the command
with any blanks between them; `Command.ofTokens_words` reads the words, and
`Command.parse_of_spells` the text.
-/

namespace BlockConsole

open Text

/-- A block can be **written** into a command: its name is canonical and plain, and its states can
be quoted. -/
structure Writable (name : String) (states : BlockStates) : Prop where
  canonical : BlockName.canonical name = name
  plain : Plain name.toList
  quotable : states.Quotable

theorem Writable.name_ne_empty {name : String} {states : BlockStates} (h : Writable name states) :
    name ≠ "" := by
  rintro rfl
  have : BlockName.canonical "" ≠ "" := by decide +kernel
  exact this h.canonical

namespace Command

/-- A command that can be **read back**. -/
def Readable : Command → Prop
  | fill _ _ block states => Writable block states
  | setBlock _ block states => Writable block states
  | _ => True

/-! ### The words of a command are solid -/

theorem solid_coordinate (w : Word) : Solid w.text.toList := by
  rw [Word.text, String.toList_ofList]
  exact (plain_decimal w.val).solid (decimal_ne_nil w.val)

theorem solid_coordinateWords (p : Position) :
    ∀ w ∈ (coordinateWords p).map String.toList, Solid w := by
  simp only [coordinateWords, List.map_cons, List.map_nil, List.forall_mem_cons]
  exact ⟨solid_coordinate p.x, solid_coordinate p.y, solid_coordinate p.z, by simp⟩

theorem solid_block {name : String} {states : BlockStates} (h : Writable name states) :
    ∀ w ∈ [name, states.text].map String.toList, Solid w := by
  simp only [List.map_cons, List.map_nil, List.forall_mem_cons]
  refine ⟨h.plain.solid (by simpa using h.name_ne_empty), ?_, by simp⟩
  rw [BlockStates.text, String.toList_ofList]
  exact BlockStates.solid_chars h.quotable

/-- Every word of a command that can be read back is solid. -/
theorem solid_words {c : Command} (h : c.Readable) : ∀ w ∈ c.words.map String.toList, Solid w := by
  cases c with
  | teleport target =>
    rw [words, List.map_cons, List.map_cons, List.forall_mem_cons, List.forall_mem_cons]
    exact ⟨Plain.solid (by decide) (by decide), Plain.solid (by decide) (by decide),
      solid_coordinateWords target⟩
  | gameMode mode =>
    rw [words]
    simp only [List.map_cons, List.map_nil, List.forall_mem_cons]
    refine ⟨Plain.solid (by decide) (by decide), ?_, Plain.solid (by decide) (by decide), by simp⟩
    cases mode <;> exact Plain.solid (by decide) (by decide)
  | fill start stop block states =>
    rw [words, List.cons_append, List.cons_append, List.map_cons, List.map_append, List.map_append,
      List.forall_mem_cons, List.forall_mem_append, List.forall_mem_append]
    exact ⟨Plain.solid (by decide) (by decide), ⟨solid_coordinateWords start,
      solid_coordinateWords stop⟩, solid_block h⟩
  | setBlock pos block states =>
    rw [words, List.cons_append, List.map_cons, List.map_append, List.forall_mem_cons,
      List.forall_mem_append]
    exact ⟨Plain.solid (by decide) (by decide), solid_coordinateWords pos, solid_block h⟩
  | clearInventory =>
    rw [words]
    simp only [List.map_cons, List.map_nil, List.forall_mem_cons]
    exact ⟨Plain.solid (by decide) (by decide), Plain.solid (by decide) (by decide), by simp⟩

/-! ### Reading the words -/

theorem parseCoordinate_text (w : Word) : parseCoordinate w.text.toList = .ok w := by
  rw [parseCoordinate, Word.text, String.toList_ofList, Word.read?_decimal]

theorem parsePosition_text (p : Position) :
    parsePosition p.x.text.toList p.y.text.toList p.z.text.toList = .ok p := by
  rw [parsePosition, parseCoordinate_text, parseCoordinate_text, parseCoordinate_text]
  rfl

theorem parseGameMode_name (mode : GameMode) : parseGameMode mode.name.toList = .ok mode := by
  have hname : GameMode.ofName? mode.name = some mode := by
    cases mode <;> decide +kernel
  rw [parseGameMode, String.ofList_toList, hname]

theorem requireSelf_selfTarget : requireSelf selfTarget.toList = .ok () := by
  rw [requireSelf, if_pos rfl]

theorem parseBlockStates_text {s : BlockStates} (h : s.Quotable) :
    parseBlockStates s.text.toList = .ok s := by
  rw [parseBlockStates, BlockStates.text, String.toList_ofList,
    BlockStates.parseChars_chars h.faithful]

theorem blockName_toList {name : String} (h : BlockName.canonical name = name) :
    blockName name.toList = name := by
  rw [blockName, String.ofList_toList, h]

/-- The names of commands are in small letters. -/
theorem lowercase_name (name : String) (h : ∀ c ∈ name.toList, settled c = true) :
    String.ofList (lowercase name.toList) = name := by
  rw [lowercase_of_settled h, String.ofList_toList]

/-- Reading the words of a command gives it back. -/
theorem ofTokens_words {c : Command} (h : c.Readable) :
    ofTokens (c.words.map String.toList) = .ok c := by
  cases c with
  | teleport target =>
    have hname := lowercase_name "tp" (by decide +kernel)
    simp only [words, coordinateWords, List.map_cons, List.map_nil, ofTokens, hname, parseTeleport]
    rw [requireSelf_selfTarget, parsePosition_text]
    rfl
  | gameMode mode =>
    have hname := lowercase_name "gamemode" (by decide +kernel)
    simp only [words, List.map_cons, List.map_nil, ofTokens, hname, parseSetMode]
    rw [requireSelf_selfTarget, parseGameMode_name]
    rfl
  | fill start stop block states =>
    have hname := lowercase_name "fill" (by decide +kernel)
    simp only [words, coordinateWords, List.cons_append, List.nil_append, List.map_cons,
      List.map_nil, ofTokens, hname, parseFill]
    rw [parsePosition_text, parsePosition_text, parseBlockStates_text h.quotable,
      blockName_toList h.canonical]
    rfl
  | setBlock pos block states =>
    have hname := lowercase_name "setblock" (by decide +kernel)
    simp only [words, coordinateWords, List.cons_append, List.nil_append, List.map_cons,
      List.map_nil, ofTokens, hname, parseSetBlock]
    rw [parsePosition_text, parseBlockStates_text h.quotable, blockName_toList h.canonical]
    rfl
  | clearInventory =>
    have hname := lowercase_name "clear" (by decide +kernel)
    simp only [words, List.map_cons, List.map_nil, ofTokens, hname, parseClear]
    rw [requireSelf_selfTarget]
    rfl

/-! ### Reading the text -/

theorem dropSlash_of_head? {cs : List Char} (h : cs.head? ≠ some '/') : dropSlash cs = cs := by
  cases cs with
  | nil => rfl
  | cons c cs => rw [dropSlash.eq_2 _ (by simpa using h)]

/-- The name of a command does not begin with a slash. -/
theorem head?_words_ne (c : Command) :
    (c.words.map String.toList).head?.bind List.head? ≠ some '/' := by
  cases c <;> simp only [words, List.cons_append, List.map_cons, List.head?_cons] <;> decide

/-- A text **spells** a command: it consists of the words of the command with one or more blanks
between each of them and the next, perhaps after a slash, and with blanks around all of it. -/
def Spells (c : Command) (s : String) : Prop :=
  ∃ before slash body after, s.toList = before ++ (slash ++ body) ++ after ∧
    (∀ b ∈ before, isBlank b = true) ∧ (slash = [] ∨ slash = ['/']) ∧
    Spaced body (c.words.map String.toList) ∧ ∀ b ∈ after, isBlank b = true

/-- Reading a text that spells a command gives the command. -/
theorem parse_of_spells {c : Command} (h : c.Readable) {s : String} (hs : c.Spells s) :
    parse s = .ok c := by
  obtain ⟨before, slash, body, after, heq, hbefore, hslash, hbody, hafter⟩ := hs
  have hsolid := solid_words h
  have htrimmed : Trimmed (slash ++ body) := by
    rcases hslash with rfl | rfl
    · exact hbody.trimmed hsolid
    · exact trimmed_cons_append (by decide) [] (hbody.trimmed hsolid) (hbody.ne_nil hsolid)
  have hdrop : dropSlash (slash ++ body) = body := by
    rcases hslash with rfl | rfl
    · refine dropSlash_of_head? ?_
      rw [List.nil_append, hbody.head?_eq hsolid]
      exact head?_words_ne c
    · rfl
  rw [parse, heq, htrimmed.trim_append hbefore hafter, hdrop, hbody.tokenize_eq hsolid,
    ofTokens_words h]

/-- The text of a command spells it. -/
theorem spells_text (c : Command) : c.Spells c.text := by
  have hne : c.words.map String.toList ≠ [] := by
    cases c <;> simp [words]
  refine ⟨[], [], c.text.toList, [], by simp, by simp, .inl rfl, ?_, by simp⟩
  rw [text, String.toList_intercalate]
  exact spaced_intercalate hne

/-- Reading the text of a command gives it back. -/
theorem parse_text {c : Command} (h : c.Readable) : parse c.text = .ok c :=
  parse_of_spells h (spells_text c)

end Command

end BlockConsole
