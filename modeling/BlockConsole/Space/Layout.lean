import BlockConsole.Space.Facing

/-!
# The layout of the work area

The work area has nine **slots** on one layer: slot 0 in the center and slots 1 to 8 on a ring
around it, three blocks out, beginning in the east and turning toward the south. Around each slot
lie its six neighbors. The slots are far enough apart that no two of them share a neighbor.

`slotOffset` and `neighborOffset` say where slots and neighbors lie relative to the center;
`slotAt?` and `neighborAt?` go the other way. `bounds` is the box around all of them.
-/

namespace BlockConsole

/-- A **slot** of the work area. -/
abbrev Slot := Fin 9

namespace Layout

/-- The number of the slot in the center. -/
def centerSlot : Slot := 0

/-- The distance of the ring from the center along each axis. -/
def ringRadius : Word := 3

/-- Where a slot lies relative to the center. -/
def offsetOf : Slot → Offset
  | 0 => ⟨0, 0, 0⟩
  | 1 => ⟨ringRadius, 0, 0⟩
  | 2 => ⟨ringRadius, 0, ringRadius⟩
  | 3 => ⟨0, 0, ringRadius⟩
  | 4 => ⟨-ringRadius, 0, ringRadius⟩
  | 5 => ⟨-ringRadius, 0, 0⟩
  | 6 => ⟨-ringRadius, 0, -ringRadius⟩
  | 7 => ⟨0, 0, -ringRadius⟩
  | 8 => ⟨ringRadius, 0, -ringRadius⟩

/-- The slots in the order of their numbers. -/
def slots : List Slot := List.finRange 9

/-- The slots of a search, from the center on or from the ring on. -/
def slotsFrom (includeCenter : Bool) : List Slot :=
  if includeCenter then slots else slots.tail

/-- Where the slot with a given number lies relative to the center. A number that no slot has
stands for the center. -/
def slotOffset (index : Nat) : Offset :=
  if h : index < 9 then offsetOf ⟨index, h⟩ else offsetOf centerSlot

/-- The slot at an offset from the center. -/
def slotAt? (o : Offset) : Option Slot :=
  slots.find? fun s => offsetOf s == o

/-- The slot at an offset from the center; the center where there is none. -/
def slotAtOrCenter (o : Offset) : Slot :=
  (slotAt? o).getD centerSlot

/-- Where a neighbor of a slot lies relative to the center. -/
def neighborOffset (index : Nat) (f : Facing) : Offset :=
  slotOffset index + f.offset

/-- The slot and the face of the neighbor at an offset from the center. -/
def neighborAt? (o : Offset) : Option (Slot × Facing) :=
  slots.findSome? fun s => (Facing.ofOffset? (o - offsetOf s)).map fun f => (s, f)

/-- The offsets of the lowest and the highest corner of the box around all slots and neighbors. -/
def bounds : Offset × Offset :=
  let reach := ringRadius + 1
  (⟨-reach, -1, -reach⟩, ⟨reach, 1, reach⟩)

end Layout

end BlockConsole
