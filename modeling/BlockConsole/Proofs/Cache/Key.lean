import BlockConsole.Cache.Key
import BlockConsole.Proofs.Block.Name
import Mathlib.Logic.ExistsUnique
import Mathlib.Logic.Function.Basic

/-!
# What a key tells apart

The key of an identity is the hash of its encoding. Hashes collide, but never over a single byte: a
step of the hash can be undone, since an exclusive or undoes itself and the factor, which is odd,
has an inverse modulo `2⁶⁴` (`fnvPrime_mul_fnvInverse`). So two byte strings with the same bytes
before and after one place share their hash only if they have the same byte there
(`fnv1a64_append_cons_inj`).

The facing is one byte of an encoding. So identities that differ in nothing else never share a key
(`one_byte_tells_apart`), while identities that differ in the spelling of the name always do
(`Identity.key_canonical`): a name enters the encoding in its canonical form, which is a normal form
(`canonical_form_is_normal`).
-/

namespace BlockConsole

/-! ### Undoing a step -/

namespace Text

/-- The **inverse** of the factor of a step, modulo `2⁶⁴`. -/
def fnvInverse : UInt64 := 0xce965057aff6957b

theorem fnvPrime_mul_fnvInverse : fnvPrime * fnvInverse = 1 := by decide

theorem mul_fnvPrime_inj {g h : UInt64} : g * fnvPrime = h * fnvPrime ↔ g = h := by
  have hundo (k : UInt64) : k * fnvPrime * fnvInverse = k := by
    rw [UInt64.mul_assoc, fnvPrime_mul_fnvInverse, UInt64.mul_one]
  constructor
  · intro heq
    calc g = g * fnvPrime * fnvInverse := (hundo g).symm
      _ = h * fnvPrime * fnvInverse := by rw [heq]
      _ = h := hundo h
  · rintro rfl
    rfl

/-- For a given byte, a step tells hashes apart. -/
theorem fnvStep_inj {g h : UInt64} {b : UInt8} : fnvStep g b = fnvStep h b ↔ g = h := by
  rw [fnvStep, fnvStep, mul_fnvPrime_inj, UInt64.xor_left_inj]

/-- From a given hash, a step tells bytes apart. -/
theorem fnvStep_byte_inj {h : UInt64} {b c : UInt8} : fnvStep h b = fnvStep h c ↔ b = c := by
  rw [fnvStep, fnvStep, mul_fnvPrime_inj, UInt64.xor_right_inj, UInt8.toUInt64_inj]

/-- Steps over the same bytes tell hashes apart, however many bytes there are. -/
theorem foldl_fnvStep_inj {g h : UInt64} (bytes : List UInt8) :
    bytes.foldl fnvStep g = bytes.foldl fnvStep h ↔ g = h := by
  induction bytes generalizing g h with
  | nil => rfl
  | cons b bytes ih => rw [List.foldl_cons, List.foldl_cons, ih, fnvStep_inj]

/-- One byte between the same bytes decides the hash. -/
theorem fnv1a64_append_cons_inj (before after : List UInt8) {b c : UInt8} :
    fnv1a64 (before ++ b :: after) = fnv1a64 (before ++ c :: after) ↔ b = c := by
  rw [fnv1a64, fnv1a64, List.foldl_append, List.foldl_append, List.foldl_cons, List.foldl_cons,
    foldl_fnvStep_inj, fnvStep_byte_inj]

/-- Byte strings of one length that differ in exactly one place are the same before that place and
after it. -/
theorem exists_split_of_existsUnique {as bs : List UInt8} (hlength : as.length = bs.length)
    (hone : ∃! i : Nat, as[i]? ≠ bs[i]?) :
    ∃ before a b after, as = before ++ a :: after ∧ bs = before ++ b :: after ∧ a ≠ b := by
  obtain ⟨i, hi, hunique⟩ := hone
  have hsame {j : Nat} (hj : j ≠ i) : as[j]? = bs[j]? := by
    by_contra hne
    exact hj (hunique j hne)
  have hlt : i < as.length := by
    by_contra hle
    exact hi (by rw [List.getElem?_eq_none (by omega), List.getElem?_eq_none (by omega)])
  have hlt' : i < bs.length := hlength ▸ hlt
  have htake : bs.take i = as.take i := by
    refine List.ext_getElem? fun j => ?_
    rw [List.getElem?_take, List.getElem?_take]
    split
    · next hj => exact (hsame (by omega)).symm
    · rfl
  have hdrop : bs.drop (i + 1) = as.drop (i + 1) := by
    refine List.ext_getElem? fun j => ?_
    rw [List.getElem?_drop, List.getElem?_drop, hsame (by omega)]
  refine ⟨as.take i, as[i], bs[i], as.drop (i + 1), ?_, ?_, fun heq => hi ?_⟩
  · rw [← List.drop_eq_getElem_cons hlt, List.take_append_drop]
  · rw [← htake, ← hdrop, ← List.drop_eq_getElem_cons hlt', List.take_append_drop]
  · rw [List.getElem?_eq_getElem hlt, List.getElem?_eq_getElem hlt', heq]

end Text

/-! ### Keys -/

namespace Identity

/-- The identity with its name in **canonical** spelling. -/
def canonical (i : Identity) : Identity := { i with name := BlockName.canonical i.name }

/-- All spellings of an identity share their key. -/
theorem key_canonical (i : Identity) : i.canonical.key = i.key := by
  simp only [key, encode, canonical, BlockName.canonical_canonical]

theorem facingByte_inj {f g : Option Facing} (h : facingByte f = facingByte g) : f = g := by
  revert h
  rcases f with _ | f <;> rcases g with _ | g
  · simp
  · cases g <;> decide
  · cases f <;> decide
  · cases f <;> cases g <;> decide

/-- **One byte is never lost.** Two byte strings of one length that differ in exactly one place have
different hashes. So, whatever the name, the states and the custom name are, the seven choices of a
facing, that of none included, have seven different keys. -/
theorem one_byte_tells_apart :
    (∀ as bs : List UInt8, as.length = bs.length → (∃! i : Nat, as[i]? ≠ bs[i]?) →
        Text.fnv1a64 as ≠ Text.fnv1a64 bs) ∧
      ∀ (name : String) (states : BlockStates) (customName : String),
        Function.Injective fun facing => key ⟨name, states, customName, facing⟩ := by
  constructor
  · intro as bs hlength hone heq
    obtain ⟨before, a, b, after, rfl, rfl, hne⟩ := Text.exists_split_of_existsUnique hlength hone
    exact hne ((Text.fnv1a64_append_cons_inj before after).mp heq)
  · intro name states customName f g hkey
    exact facingByte_inj ((Text.fnv1a64_append_cons_inj _ []).mp hkey)

theorem one_byte_tells_apart_inside :
    [7, 0, 255, 7].length = [7, 128, 255, 7].length ∧
      (∃! i : Nat, ([7, 0, 255, 7] : List UInt8)[i]? ≠ [7, 128, 255, 7][i]?) ∧
      Text.fnv1a64 [7, 0, 255, 7] ≠ Text.fnv1a64 [7, 128, 255, 7] := by
  have hone : ∃! i : Nat, ([7, 0, 255, 7] : List UInt8)[i]? ≠ [7, 128, 255, 7][i]? := by
    refine ⟨1, by decide, fun i hi => ?_⟩
    by_contra hne
    match i with
    | 0 | 2 | 3 => exact hi rfl
    | 1 => exact hne rfl
    | i + 4 => exact hi rfl
  exact ⟨rfl, hone, one_byte_tells_apart.1 _ _ rfl hone⟩

/-! ### Respelling a name -/

/-- **The canonical form of a name is a normal form.** It has no blanks at its ends, it has a colon,
and it is its own canonical form. A name without a colon and without a capital sigma may as well
be written with the default namespace in front. So containers and beliefs are made again from their
own names and states, and the key of an identity does not change when its name is brought into
canonical form. -/
theorem canonical_form_is_normal :
    (∀ name : String, BlockName.canonical (BlockName.canonical name) = BlockName.canonical name ∧
        Text.Trimmed (BlockName.canonical name).toList ∧
        ':' ∈ (BlockName.canonical name).toList) ∧
      (∀ name : String, ':' ∉ name.toList → '\u03A3' ∉ name.toList →
        BlockName.canonical ("minecraft:" ++ String.ofList (Text.trim name.toList)) =
          BlockName.canonical name) ∧
      (∀ (name : String) (states : BlockStates),
        Container.ofName (Container.ofName name states).name (Container.ofName name states).states =
            Container.ofName name states ∧
          Belief.containerOf (Belief.containerOf name states).name
              (Belief.containerOf name states).states =
            Belief.containerOf name states) ∧
      ∀ (name : String) (states : BlockStates) (customName : String) (facing : Option Facing),
        key ⟨BlockName.canonical name, states, customName, facing⟩ =
          key ⟨name, states, customName, facing⟩ := by
  refine ⟨fun name => ⟨BlockName.canonical_canonical name, BlockName.trimmed_canonical name,
    BlockName.colon_mem_canonical name⟩, fun name => BlockName.canonical_namespaced,
    fun name states => ⟨Container.ofName_self name states, ?_⟩,
    fun name states customName facing => key_canonical ⟨name, states, customName, facing⟩⟩
  exact congrArg Belief.container (Container.ofName_self name states)

/-- A name with a letter that becomes two characters, and with blanks at its ends. -/
theorem canonical_form_is_normal_dottedBox :
    ':' ∉ "\u2003\u0130ron Box\n".toList ∧ '\u03A3' ∉ "\u2003\u0130ron Box\n".toList ∧
      BlockName.canonical ("minecraft:" ++ "\u0130ron Box") =
        BlockName.canonical "\u2003\u0130ron Box\n" := by
  have hcolon : ':' ∉ "\u2003\u0130ron Box\n".toList := by decide
  have hsigma : '\u03A3' ∉ "\u2003\u0130ron Box\n".toList := by decide
  have htrim : String.ofList (Text.trim "\u2003\u0130ron Box\n".toList) = "\u0130ron Box" := by
    decide +kernel
  have hsame := canonical_form_is_normal.2.1 "\u2003\u0130ron Box\n" hcolon hsigma
  rw [htrim] at hsame
  exact ⟨hcolon, hsigma, hsame⟩

/-- After the namespace a capital sigma ends a word, and alone it does not. -/
example : BlockName.canonical "minecraft:\u03A3" ≠ BlockName.canonical "\u03A3" := by
  decide +kernel

end Identity

end BlockConsole
