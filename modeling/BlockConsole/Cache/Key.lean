import BlockConsole.Block.Basic
import BlockConsole.Space.Facing

/-!
# Keys of the structure cache

A container in the cache is known by its **identity**: its name, its states, a custom name and a
facing. The key of an identity is the hash of its encoding. The encoding writes the canonical
name, the canonical form of the states and the custom name one after the other, each as the number
of its bytes in UTF-8 (four bytes, the lowest first) and those bytes, and then one byte for the
facing. So spellings of one name share a key, and the borders between the fields cannot shift.

The hash is FNV-1a with 64 bits (`Text.fnv1a64`): starting from a fixed basis, each byte is combined
by exclusive or and the result is multiplied by a fixed odd prime, all modulo `2⁶⁴`.
-/

namespace BlockConsole

/-! ### The hash of a byte string -/

namespace Text

/-- The hash of the empty byte string. -/
def fnvBasis : UInt64 := 0xcbf29ce484222325

/-- The factor of every step. -/
def fnvPrime : UInt64 := 0x100000001b3

/-- The hash after one more byte. -/
def fnvStep (h : UInt64) (b : UInt8) : UInt64 :=
  (h ^^^ b.toUInt64) * fnvPrime

/-- The **hash** of a byte string. -/
def fnv1a64 (bytes : List UInt8) : UInt64 :=
  bytes.foldl fnvStep fnvBasis

end Text

/-! ### Identities -/

/-- The **identity** of a container in the cache. -/
structure Identity where
  name : String
  states : BlockStates
  customName : String
  facing : Option Facing
deriving DecidableEq

namespace Identity

/-- Four bytes of a number, the lowest first. -/
def lengthBytes (n : Nat) : List UInt8 :=
  [n.toUInt8, (n / 256).toUInt8, (n / 65536).toUInt8, (n / 16777216).toUInt8]

/-- A text as the number of its bytes and the bytes. -/
def fieldBytes (s : String) : List UInt8 :=
  lengthBytes s.utf8ByteSize ++ s.toUTF8.data.toList

/-- The byte of a facing; 255 where there is none. -/
def facingByte : Option Facing → UInt8
  | none => 255
  | some f => f.index.val.toUInt8

/-- The **encoding** of an identity. -/
def encode (i : Identity) : List UInt8 :=
  fieldBytes (BlockName.canonical i.name) ++ fieldBytes i.states.text ++ fieldBytes i.customName ++
    [facingByte i.facing]

/-- The **key** of an identity. -/
def key (i : Identity) : UInt64 :=
  Text.fnv1a64 i.encode

end Identity

end BlockConsole
