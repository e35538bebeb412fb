import BlockConsole.Space.Word

/-!
# Positions, offsets and boxes

A `Position` is a block of the world, an `Offset` a step from one block to another. Both have
three coordinates, and all arithmetic between them saturates coordinate by coordinate.

`Position.distanceSq` is the squared distance of two positions. It is counted in numbers of 63
bits: each square and each sum that would be longer stays at `distanceLimit`.

A `Box` is given by its lowest and its highest corner and holds both. Any two opposite corners
span a box (`Box.ofCorners`), `Box.positions` lists its blocks with the third coordinate moving
fastest, and `Box.volume` counts the blocks between two corners without listing them, in numbers of
64 bits.
-/

namespace BlockConsole

/-- A **position**: the coordinates of a block. -/
structure Position where
  x : Word
  y : Word
  z : Word
deriving DecidableEq, Hashable

/-- An **offset**: how far one block is from another along each axis. -/
structure Offset where
  x : Word
  y : Word
  z : Word
deriving DecidableEq, Hashable

/-! ### Offsets -/

namespace Offset

/-- The offset of a block from itself. -/
def zero : Offset := ⟨0, 0, 0⟩

instance : Inhabited Offset := ⟨zero⟩

instance : Add Offset := ⟨fun a b => ⟨a.x + b.x, a.y + b.y, a.z + b.z⟩⟩

instance : Sub Offset := ⟨fun a b => ⟨a.x - b.x, a.y - b.y, a.z - b.z⟩⟩

instance : Neg Offset := ⟨fun a => ⟨-a.x, -a.y, -a.z⟩⟩

/-- The coordinates between parentheses, as in `(3, 0, -3)`. -/
def text (o : Offset) : String :=
  "(" ++ o.x.text ++ ", " ++ o.y.text ++ ", " ++ o.z.text ++ ")"

end Offset

/-! ### Positions -/

/-- The longest squared distance that is told apart, `2⁶³ - 1`. -/
def distanceLimit : Nat := 9223372036854775807

namespace Position

/-- The position with every coordinate zero. -/
def origin : Position := ⟨0, 0, 0⟩

instance : Inhabited Position := ⟨origin⟩

instance : HAdd Position Offset Position := ⟨fun p o => ⟨p.x + o.x, p.y + o.y, p.z + o.z⟩⟩

instance : HSub Position Offset Position := ⟨fun p o => ⟨p.x - o.x, p.y - o.y, p.z - o.z⟩⟩

/-- The difference of two positions is the offset of the first from the second. -/
instance : HSub Position Position Offset := ⟨fun p q => ⟨p.x - q.x, p.y - q.y, p.z - q.z⟩⟩

/-- The square of the distance of two coordinates, at most `distanceLimit`. -/
def spanSq (a b : Word) : Nat :=
  min ((a.val - b.val).natAbs * (a.val - b.val).natAbs) distanceLimit

/-- The squared distance of two positions, at most `distanceLimit` after every step. -/
def distanceSq (a b : Position) : Nat :=
  min (min (spanSq a.x b.x + spanSq a.y b.y) distanceLimit + spanSq a.z b.z) distanceLimit

/-- The coordinates one after the other, as commands write them. -/
def text (p : Position) : String :=
  p.x.text ++ " " ++ p.y.text ++ " " ++ p.z.text

instance : ToString Position := ⟨text⟩

end Position

/-! ### Boxes -/

/-- A **box** of blocks, from its lowest to its highest corner. -/
structure Box where
  low : Position
  high : Position
deriving DecidableEq

namespace Box

/-- The box with two given opposite corners. -/
def ofCorners (a b : Position) : Box where
  low := ⟨min a.x b.x, min a.y b.y, min a.z b.z⟩
  high := ⟨max a.x b.x, max a.y b.y, max a.z b.z⟩

/-- The positions of a box, in ascending order of the first, second and third coordinate. -/
def positions (b : Box) : List Position :=
  (Word.upTo b.low.x b.high.x).flatMap fun x =>
    (Word.upTo b.low.y b.high.y).flatMap fun y =>
      (Word.upTo b.low.z b.high.z).map fun z => ⟨x, y, z⟩

/-- The offset from the lowest corner of a box to its highest one. -/
def extent (b : Box) : Offset :=
  b.high - b.low

/-- The number of coordinates from one to another, both included. -/
def span (a b : Word) : UInt64 :=
  .ofNat (a.val - b.val).natAbs + 1

/-- The number of blocks in the box with two given opposite corners. -/
def volume (a b : Position) : UInt64 :=
  span a.x b.x * span a.y b.y * span a.z b.z

end Box

end BlockConsole
