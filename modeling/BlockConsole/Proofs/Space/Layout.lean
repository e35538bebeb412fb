import BlockConsole.Proofs.Space.Box
import BlockConsole.Space.Layout

/-!
# The cells of the work area

A `Cell` is a slot or a neighbor of a slot, and there are 63 of them. No two cells share an offset
from the center: `Cell.at?` finds the cell back. Around a center that `HasRoom`, coordinates do not
saturate, so no two cells share a position either (`Cell.position_inj`), and every cell lies in the
working volume, where the neighbors below the slots make up the floor.
-/

namespace BlockConsole

theorem Word.add_zero (w : Word) : w + 0 = w := by
  have hval : (0 : Word).val = 0 := by decide
  exact Word.clamp_eq (by omega)

/-- The offsets of the corners of the working volume. -/
theorem bounds_val :
    (Layout.bounds.1.x.val = -4 ∧ Layout.bounds.1.y.val = -1 ∧ Layout.bounds.1.z.val = -4) ∧
      (Layout.bounds.2.x.val = 4 ∧ Layout.bounds.2.y.val = 1 ∧ Layout.bounds.2.z.val = 4) := by
  decide +kernel

/-! ### Cells -/

/-- A **cell** of the work area. -/
inductive Cell where
  | slot (i : Slot)
  | neighbor (i : Slot) (f : Facing)
deriving DecidableEq

namespace Cell

/-- Where a cell lies relative to the center. -/
def offset : Cell → Offset
  | slot i => Layout.slotOffset i
  | neighbor i f => Layout.neighborOffset i f

/-- The position of a cell around a center. -/
def position (center : Position) : Cell → Position
  | slot i => center + Layout.slotOffset i
  | neighbor i f => center + Layout.slotOffset i + f.offset

/-- Whether a cell is part of the floor. -/
def isFloor : Cell → Bool
  | neighbor _ .down => true
  | _ => false

/-- The cell at an offset from the center. -/
def at? (o : Offset) : Option Cell :=
  ((Layout.slotAt? o).map slot).or ((Layout.neighborAt? o).map fun e => neighbor e.1 e.2)

/-- A cell is found back at its offset. -/
theorem at?_offset (c : Cell) : at? c.offset = some c := by
  cases c with
  | slot i => revert i; decide +kernel
  | neighbor i f => cases f <;> revert i <;> decide +kernel

/-- The offsets of slots are at most 3, and those of faces at most 1. -/
theorem slotOffset_bounds (i : Slot) :
    (-3 ≤ (Layout.slotOffset i).x.val ∧ (Layout.slotOffset i).x.val ≤ 3) ∧
      (Layout.slotOffset i).y.val = 0 ∧
      (-3 ≤ (Layout.slotOffset i).z.val ∧ (Layout.slotOffset i).z.val ≤ 3) := by
  revert i
  decide +kernel

theorem facingOffset_bounds (f : Facing) :
    (-1 ≤ f.offset.x.val ∧ f.offset.x.val ≤ 1) ∧
      (-1 ≤ f.offset.y.val ∧ f.offset.y.val ≤ 1 ∧ (f.offset.y.val = -1 ↔ f = .down)) ∧
      (-1 ≤ f.offset.z.val ∧ f.offset.z.val ≤ 1) := by
  cases f <;> decide +kernel

/-- The slot in the center lies at the center. -/
theorem position_center (center : Position) :
    (slot Layout.centerSlot).position center = center :=
  Position.ext (Word.add_zero center.x) (Word.add_zero center.y) (Word.add_zero center.z)

end Cell

/-- A center **has room** if the working volume around it stays within the range of coordinates. -/
structure HasRoom (center : Position) : Prop where
  x_min : -2147483648 + 4 ≤ center.x.val
  x_max : center.x.val ≤ 2147483647 - 4
  y_min : -2147483648 + 1 ≤ center.y.val
  y_max : center.y.val ≤ 2147483647 - 1
  z_min : -2147483648 + 4 ≤ center.z.val
  z_max : center.z.val ≤ 2147483647 - 4

theorem hasRoom_origin : HasRoom .origin := by
  constructor <;> decide

namespace Cell

variable {center : Position}

/-- Where there is room, the coordinates of a cell are those of the center and of the offset added
up, and they stay within the working volume. -/
theorem position_val (h : HasRoom center) (c : Cell) :
    ((c.position center).x.val = center.x.val + c.offset.x.val ∧
      -4 ≤ c.offset.x.val ∧ c.offset.x.val ≤ 4) ∧
    ((c.position center).y.val = center.y.val + c.offset.y.val ∧
      -1 ≤ c.offset.y.val ∧ c.offset.y.val ≤ 1 ∧ (c.offset.y.val = -1 ↔ c.isFloor = true)) ∧
    ((c.position center).z.val = center.z.val + c.offset.z.val ∧
      -4 ≤ c.offset.z.val ∧ c.offset.z.val ≤ 4) := by
  obtain ⟨hx₀, hx₁, hy₀, hy₁, hz₀, hz₁⟩ := h
  cases c with
  | slot i =>
    obtain ⟨hx, hy, hz⟩ := slotOffset_bounds i
    simp only [position, offset, isFloor, Bool.false_eq_true, iff_false, Position.x_add,
      Position.y_add, Position.z_add, Word.val_add, Word.val_clamp]
    omega
  | neighbor i f =>
    obtain ⟨hx, hy, hz⟩ := slotOffset_bounds i
    obtain ⟨hfx, ⟨hfy₀, hfy₁, hdown⟩, hfz⟩ := facingOffset_bounds f
    have hfloor : (neighbor i f).isFloor = true ↔ f = .down := by
      cases f <;> simp [isFloor]
    have hox : (neighbor i f).offset.x = (Layout.slotOffset i).x + f.offset.x := rfl
    have hoy : (neighbor i f).offset.y = (Layout.slotOffset i).y + f.offset.y := rfl
    have hoz : (neighbor i f).offset.z = (Layout.slotOffset i).z + f.offset.z := rfl
    simp only [hfloor, ← hdown, hox, hoy, hoz, position, Position.x_add, Position.y_add,
      Position.z_add, Word.val_add, Word.val_clamp]
    omega

/-- Where there is room, a cell is where its offset from the center leads in one step. -/
theorem position_eq_add (h : HasRoom center) (c : Cell) :
    c.position center = center + c.offset := by
  obtain ⟨⟨hx, -, -⟩, ⟨hy, -⟩, hz, -, -⟩ := position_val h c
  exact Position.ext (Word.clamp_eq hx).symm (Word.clamp_eq hy).symm (Word.clamp_eq hz).symm

/-- The offset of a cell is found back from its position. -/
theorem position_sub_center (h : HasRoom center) (c : Cell) :
    (c.position center - center : Offset) = c.offset := by
  obtain ⟨⟨hx, -, -⟩, ⟨hy, -⟩, hz, -, -⟩ := position_val h c
  show Offset.mk (_ - _) (_ - _) (_ - _) = _
  rw [Word.sub_eq_of_val hx, Word.sub_eq_of_val hy, Word.sub_eq_of_val hz]

/-- Where there is room, no two cells share a position. -/
theorem position_inj (h : HasRoom center) {c d : Cell}
    (heq : c.position center = d.position center) : c = d := by
  have hoffset : c.offset = d.offset := by
    rw [← position_sub_center h c, ← position_sub_center h d, heq]
  -- The layout finds a cell from its offset alone.
  have := at?_offset c
  rw [hoffset, at?_offset] at this
  exact (Option.some.inj this).symm

end Cell

/-! ### Where there is no room -/

/-- A position is at the **edge** on the side of a face if no coordinate lies beyond it there. -/
def Position.AtEdge (p : Position) : Facing → Prop
  | .down => p.y.val = -2147483648
  | .up => p.y.val = 2147483647
  | .north => p.z.val = -2147483648
  | .south => p.z.val = 2147483647
  | .west => p.x.val = -2147483648
  | .east => p.x.val = 2147483647

/-- A step over the edge leads nowhere. -/
theorem Position.add_offset_of_atEdge {p : Position} {f : Facing} (h : p.AtEdge f) :
    p + f.offset = p := by
  have hstay {w d : Word} (hw : w.val = 2147483647 ∧ 0 ≤ d.val ∨
      w.val = -2147483648 ∧ d.val ≤ 0) : w + d = w := by
    refine Word.ext ?_
    rw [Word.val_add, Word.val_clamp]
    omega
  have hforward {w : Word} (hw : w.val = 2147483647) : w + 1 = w := hstay (.inl ⟨hw, by decide⟩)
  have hback {w : Word} (hw : w.val = -2147483648) : w + -1 = w := hstay (.inr ⟨hw, by decide⟩)
  have hzero := Word.add_zero
  cases f with
  | down => exact Position.ext (hzero p.x) (hback h) (hzero p.z)
  | up => exact Position.ext (hzero p.x) (hforward h) (hzero p.z)
  | north => exact Position.ext (hzero p.x) (hzero p.y) (hback h)
  | south => exact Position.ext (hzero p.x) (hzero p.y) (hforward h)
  | west => exact Position.ext (hback h) (hzero p.y) (hzero p.z)
  | east => exact Position.ext (hforward h) (hzero p.y) (hzero p.z)

/-- Where no two cells share a position, there is room: the outermost slots are not at the edge, or
their neighbors on that side would be where they are. -/
theorem HasRoom.of_injective {center : Position}
    (h : Function.Injective fun c : Cell => c.position center) : HasRoom center := by
  have hedge (i : Slot) (f : Facing) : ¬(center + Layout.slotOffset i).AtEdge f := fun hat =>
    Cell.noConfusion (@h (.neighbor i f) (.slot i) (Position.add_offset_of_atEdge hat))
  obtain ⟨hcenter, heast, hwest, hsouth, hnorth⟩ :
      (Layout.slotOffset (0 : Slot)).y.val = 0 ∧ (Layout.slotOffset (1 : Slot)).x.val = 3 ∧
        (Layout.slotOffset (5 : Slot)).x.val = -3 ∧ (Layout.slotOffset (3 : Slot)).z.val = 3 ∧
        (Layout.slotOffset (7 : Slot)).z.val = -3 := by decide +kernel
  have hxMin := hedge 5 .west
  have hxMax := hedge 1 .east
  have hyMin := hedge 0 .down
  have hyMax := hedge 0 .up
  have hzMin := hedge 7 .north
  have hzMax := hedge 3 .south
  simp only [Position.AtEdge, Position.x_add, Position.y_add, Position.z_add, Word.val_add,
    Word.val_clamp, hcenter, heast, hwest, hsouth, hnorth] at hxMin hxMax hyMin hyMax hzMin hzMax
  constructor <;> omega

end BlockConsole
