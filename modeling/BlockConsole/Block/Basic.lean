import BlockConsole.Space.Word
import BlockConsole.Text.Escape
import BlockConsole.Text.Lowercase

/-!
# Block names and block states

A block has a name with a namespace, such as `minecraft:chest`. `BlockName.canonical` brings a
spelling into this form: blanks at the ends go, letters become small, and a name without a colon
gets the namespace `minecraft:`. `BlockName.short` takes that namespace off again.

The states of a block are a finite map from keys to values, `BlockStates`. A value is a truth
value, a whole number or a text (`StateValue`). The entries of the map are kept in ascending order
of their keys, by code point, so two maps with the same entries are equal and have the same text.

`BlockStates.text` writes the **canonical form**, such as `["damage"="undamaged","open_bit"=true]`:
keys and text values between quotes, nothing escaped. `BlockStates.inspect` is the form used in
reports, which says of each value what kind it is.
-/

namespace BlockConsole

/-! ### Names -/

namespace BlockName

/-- The namespace of a name that is written without one. -/
def defaultNamespace : String := "minecraft:"

/-- The **canonical form** of a block name. -/
def canonical (name : String) : String :=
  let lower := Text.lowercase (Text.trim name.toList)
  if lower.contains ':' then String.ofList lower
  else defaultNamespace ++ String.ofList lower

/-- A block name without the default namespace. -/
def short (name : String) : String :=
  match defaultNamespace.toList.isPrefixOf? name.toList with
  | some rest => String.ofList rest
  | none => name

/-- The canonical name of air. -/
def air : String := "minecraft:air"

/-- The canonical name of an anvil. -/
def anvil : String := "minecraft:anvil"

/-- The canonical name of a loom. -/
def loom : String := "minecraft:loom"

end BlockName

/-! ### Values of states -/

/-- The **value** of one block state. -/
inductive StateValue where
  | bool (b : Bool)
  | int (i : Word)
  | text (s : String)
deriving DecidableEq

namespace StateValue

/-- The canonical form of a value. -/
def chars : StateValue → List Char
  | bool true => "true".toList
  | bool false => "false".toList
  | int i => Text.decimal i.val
  | text s => '"' :: s.toList ++ ['"']

/-- A value with its kind. -/
def inspect : StateValue → String
  | bool true => "Bool(true)"
  | bool false => "Bool(false)"
  | int i => "Int(" ++ i.text ++ ")"
  | text s => "Str(" ++ Text.quoted s ++ ")"

end StateValue

/-- **Block states**: a map from keys to values, as a list of entries with ascending keys. -/
structure BlockStates where
  entries : List (String × StateValue)
  ascending : entries.Pairwise fun a b => a.1 < b.1
deriving DecidableEq

namespace BlockStates

/-- The empty map. -/
def empty : BlockStates := ⟨[], .nil⟩

instance : Inhabited BlockStates := ⟨empty⟩

/-! ### Insertion -/

/-- Puts a value under a key into a list of entries with ascending keys. -/
def insertEntry (key : String) (value : StateValue) :
    List (String × StateValue) → List (String × StateValue)
  | [] => [(key, value)]
  | e :: rest =>
    if key < e.1 then (key, value) :: e :: rest
    else if key = e.1 then (key, value) :: rest
    else e :: insertEntry key value rest

/-- Every key after an insertion is the new key or was there before. -/
theorem mem_insertEntry {key : String} {value : StateValue} {es : List (String × StateValue)}
    {e : String × StateValue} (h : e ∈ insertEntry key value es) : e = (key, value) ∨ e ∈ es := by
  induction es with
  | nil => simpa [insertEntry] using h
  | cons d rest ih =>
    rw [insertEntry] at h
    split at h
    · simpa using h
    · split at h
      · rcases List.mem_cons.mp h with h | h
        · exact .inl h
        · exact .inr (List.mem_cons_of_mem _ h)
      · rcases List.mem_cons.mp h with h | h
        · exact .inr (h ▸ List.mem_cons_self)
        · exact (ih h).imp_right (List.mem_cons_of_mem _)

theorem ascending_insertEntry {key : String} {value : StateValue}
    {es : List (String × StateValue)} (h : es.Pairwise fun a b => a.1 < b.1) :
    (insertEntry key value es).Pairwise fun a b => a.1 < b.1 := by
  induction es with
  | nil => simp [insertEntry]
  | cons d rest ih =>
    rw [List.pairwise_cons] at h
    rw [insertEntry]
    split
    · next hlt =>
      refine .cons (fun e he => ?_) (.cons h.1 h.2)
      rcases List.mem_cons.mp he with rfl | he
      · exact hlt
      · exact String.lt_trans hlt (h.1 e he)
    · next hlt =>
      split
      · next heq => exact .cons (fun e he => heq ▸ h.1 e he) h.2
      · next hne =>
        refine .cons (fun e he => ?_) (ih h.2)
        rcases mem_insertEntry he with rfl | he
        · exact Std.lt_of_le_of_ne (Std.not_lt.mp hlt) (Ne.symm hne)
        · exact h.1 e he

/-- The map with a value put under a key, in place of the one that was there. -/
def insert (s : BlockStates) (key : String) (value : StateValue) : BlockStates :=
  ⟨insertEntry key value s.entries, ascending_insertEntry s.ascending⟩

/-- The map of a list of entries. Of two entries with one key the later counts. -/
def ofList (es : List (String × StateValue)) : BlockStates :=
  es.foldl (fun s e => s.insert e.1 e.2) empty

/-! ### Look-up -/

/-- The value under a key. -/
def get? (s : BlockStates) (key : String) : Option StateValue :=
  s.entries.lookup key

/-- The number under a key, if the value there is a number. -/
def getInt? (s : BlockStates) (key : String) : Option Word :=
  match s.get? key with
  | some (.int i) => some i
  | _ => none

/-- The number of entries. -/
def size (s : BlockStates) : Nat :=
  s.entries.length

/-- Whether there is no entry. -/
def isEmpty (s : BlockStates) : Bool :=
  s.entries.isEmpty

/-! ### Text -/

/-- The canonical form of one entry. -/
def entryChars (e : String × StateValue) : List Char :=
  '"' :: e.1.toList ++ '"' :: '=' :: e.2.chars

/-- The canonical form, as a list of characters. -/
def chars (s : BlockStates) : List Char :=
  '[' :: [','].intercalate (s.entries.map entryChars) ++ [']']

/-- The **canonical form** of block states. -/
def text (s : BlockStates) : String :=
  String.ofList s.chars

instance : ToString BlockStates := ⟨text⟩

/-- The entries with the kind of each value. -/
def inspect (s : BlockStates) : String :=
  let entries := s.entries.map fun e => Text.quoted e.1 ++ ": " ++ e.2.inspect
  "BlockStates(\x7b" ++ ", ".intercalate entries ++ "\x7d)"

end BlockStates

end BlockConsole
