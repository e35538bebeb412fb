import BlockConsole.Proofs.Block.StatesMap
import BlockConsole.Proofs.Cache.Key

/-!
# Encodings tell identities apart

The key of an identity is the hash of its encoding, so two identities may share a key by accident;
but their encodings differ unless the identities are the same up to the spelling of the name
(`encode_eq_iff`). A field says how long it is before it says what it is, so whatever follows it
is told from it (`fieldBytes_append_inj`), as long as the length fits into four bytes. What is
left is one byte for the facing.
-/

namespace BlockConsole.Identity

/-! ### Fields -/

/-- Four bytes tell numbers below `2³²` apart. -/
theorem lengthBytes_inj {m n : Nat} (hm : m < 2 ^ 32) (hn : n < 2 ^ 32)
    (h : lengthBytes m = lengthBytes n) : m = n := by
  have hbyte {a b : Nat} (hab : a.toUInt8 = b.toUInt8) : a % 256 = b % 256 := by
    simpa using congrArg UInt8.toNat hab
  simp only [lengthBytes, List.cons.injEq, and_true] at h
  obtain ⟨h₀, h₁, h₂, h₃⟩ := h
  have := hbyte h₀
  have := hbyte h₁
  have := hbyte h₂
  have := hbyte h₃
  omega

/-- A text has as many bytes as its size says. -/
theorem length_bytes (s : String) : s.toUTF8.data.toList.length = s.utf8ByteSize := by simp

theorem bytes_inj {s t : String} (h : s.toUTF8.data.toList = t.toUTF8.data.toList) : s = t := by
  have hdata : s.toUTF8.data = t.toUTF8.data := Array.toList_inj.mp h
  have hbytes : s.toByteArray = t.toByteArray := ByteArray.ext hdata
  exact String.toByteArray_inj.mp hbytes

/-- A field ends where it says it does. -/
theorem fieldBytes_append_inj {s t : String} {as bs : List UInt8} (hs : s.utf8ByteSize < 2 ^ 32)
    (ht : t.utf8ByteSize < 2 ^ 32) (h : fieldBytes s ++ as = fieldBytes t ++ bs) :
    s = t ∧ as = bs := by
  rw [fieldBytes, fieldBytes, List.append_assoc, List.append_assoc] at h
  obtain ⟨hlength, hrest⟩ := List.append_inj h rfl
  -- Only now that the sizes agree are both sides cut at the same place.
  have hsize := lengthBytes_inj hs ht hlength
  obtain ⟨hbytes, htail⟩ := List.append_inj hrest (by rw [length_bytes, length_bytes, hsize])
  exact ⟨bytes_inj hbytes, htail⟩

/-! ### Identities -/

/-- An identity is **encodable** if its states are free of quotes and each of its three texts has
fewer than `2³²` bytes, so that the texts are what they are encoded as. -/
structure Encodable (i : Identity) : Prop where
  states : i.states.QuoteFree
  name_size : (BlockName.canonical i.name).utf8ByteSize < 2 ^ 32
  states_size : i.states.text.utf8ByteSize < 2 ^ 32
  customName_size : i.customName.utf8ByteSize < 2 ^ 32

instance (i : Identity) : Decidable i.Encodable :=
  decidable_of_iff (i.states.QuoteFree ∧ (BlockName.canonical i.name).utf8ByteSize < 2 ^ 32 ∧
      i.states.text.utf8ByteSize < 2 ^ 32 ∧ i.customName.utf8ByteSize < 2 ^ 32)
    ⟨fun h => ⟨h.1, h.2.1, h.2.2.1, h.2.2.2⟩,
      fun h => ⟨h.states, h.name_size, h.states_size, h.customName_size⟩⟩

/-- Encodable identities with one encoding have the same fields, up to the spelling of the name. -/
theorem fields_eq_of_encode_eq {i j : Identity} (hi : i.Encodable) (hj : j.Encodable)
    (h : i.encode = j.encode) :
    BlockName.canonical i.name = BlockName.canonical j.name ∧ i.states = j.states ∧
      i.customName = j.customName ∧ i.facing = j.facing := by
  simp only [encode, List.append_assoc] at h
  obtain ⟨hname, h⟩ := fieldBytes_append_inj hi.name_size hj.name_size h
  obtain ⟨htext, h⟩ := fieldBytes_append_inj hi.states_size hj.states_size h
  obtain ⟨hcustom, h⟩ := fieldBytes_append_inj hi.customName_size hj.customName_size h
  obtain ⟨hfacing, -⟩ := List.cons.inj h
  exact ⟨hname, (BlockStates.text_inj hi.states hj.states).mp htext, hcustom,
    facingByte_inj hfacing⟩

/-- **Encodings tell identities apart.** Two encodable identities have the same encoding if and
only if their names have the same canonical form, their states have the same value under every
key, and custom name and facing are the same. The states come from lists of entries, as all
states do (`BlockStates.ofList_entries`), and of these only the last entry with a key counts. -/
theorem encode_eq_iff {name name' customName customName' : String}
    {es es' : List (String × StateValue)} {facing facing' : Option Facing}
    (h : Encodable ⟨name, .ofList es, customName, facing⟩)
    (h' : Encodable ⟨name', .ofList es', customName', facing'⟩) :
    encode ⟨name, .ofList es, customName, facing⟩ =
        encode ⟨name', .ofList es', customName', facing'⟩ ↔
      BlockName.canonical name = BlockName.canonical name' ∧
        (∀ key, BlockStates.lastValue? es key = BlockStates.lastValue? es' key) ∧
        customName = customName' ∧ facing = facing' := by
  constructor
  · intro heq
    obtain ⟨hname, hstates, hcustom, hfacing⟩ := fields_eq_of_encode_eq h h' heq
    have hstates : BlockStates.ofList es = BlockStates.ofList es' := hstates
    refine ⟨hname, fun key => ?_, hcustom, hfacing⟩
    rw [← BlockStates.get?_ofList, hstates, BlockStates.get?_ofList]
  · rintro ⟨hname, hvalues, rfl, rfl⟩
    have hstates : BlockStates.ofList es = BlockStates.ofList es' := by
      refine BlockStates.ext_get? fun key => ?_
      rw [BlockStates.get?_ofList, BlockStates.get?_ofList, hvalues]
    simp only [encode, hname, hstates]

/-- A shulker box, with a state that is overwritten. -/
def openBox : Identity :=
  ⟨" Shulker_Box", .ofList [("open", .int 1), ("a,=[", .text ""), ("open", .text "true")],
    "box", some .up⟩

/-- The same box in another spelling, with the states the other way round. -/
def openBoxRespelled : Identity :=
  ⟨"minecraft:shulker_box", .ofList [("open", .text "true"), ("a,=[", .text "")], "box", some .up⟩

/-- The same box once more, but open as a truth value and not as a text. -/
def openBoxRetyped : Identity :=
  ⟨"shulker_box", .ofList [("a,=[", .text ""), ("open", .bool true)], "box", some .up⟩

theorem encode_eq_iff_openBox :
    openBox.Encodable ∧ openBoxRespelled.Encodable ∧ openBoxRetyped.Encodable ∧
      openBox.encode = openBoxRespelled.encode ∧ openBox.encode ≠ openBoxRetyped.encode := by
  have hbox : openBox.Encodable := by decide +kernel
  have hrespelled : openBoxRespelled.Encodable := by decide +kernel
  have hretyped : openBoxRetyped.Encodable := by decide +kernel
  refine ⟨hbox, hrespelled, hretyped, ?_, ?_⟩
  · refine (encode_eq_iff hbox hrespelled).mpr ⟨by decide +kernel, fun key => ?_, rfl, rfl⟩
    simp only [BlockStates.lastValue?, List.reverse_cons, List.reverse_nil, List.nil_append,
      List.cons_append, BlockStates.lookup_entry_cons, List.lookup_nil]
    by_cases hopen : key = "open" <;> simp [hopen]
  · intro heq
    have hvalue := ((encode_eq_iff hbox hretyped).mp heq).2.1 "open"
    exact absurd hvalue (by decide +kernel)

end BlockConsole.Identity
