import BlockConsole.Space.Position

/-!
# Boxes and their extents

Coordinates saturate, so a box can be moved only where its extent leads to no coordinate out of
range (`Position.HasRoomFor`). There the blocks of the box are the positions that the offsets inside
the extent lead to (`Box.mem_positions_add`), no two offsets lead to one position
(`Position.add_inj`), and subtracting finds the offset back (`Position.add_sub_of_inside`). A box
whose corners an offset `Spans` has its extent and its room by itself.
-/

namespace BlockConsole

/-! ### Words and boxes -/

/-- The number of a word is in range, so clamping makes it that word. -/
theorem Word.clamp_eq {w : Word} {i : Int} (h : w.val = i) : Word.clamp i = w := by
  have hmin := w.min_le
  have hmax := w.le_max
  refine Word.ext ?_
  rw [Word.val_clamp]
  omega

/-- A difference that a word has is not clamped. -/
theorem Word.sub_eq_of_val {a b d : Word} (h : a.val = b.val + d.val) : a - b = d :=
  Word.clamp_eq (by omega)

theorem Word.mem_upTo {low high w : Word} :
    w ∈ Word.upTo low high ↔ low.val ≤ w.val ∧ w.val ≤ high.val := by
  have hmin := w.min_le
  have hmax := w.le_max
  simp only [Word.upTo, List.mem_map, List.mem_range]
  constructor
  · rintro ⟨k, hk, rfl⟩
    have hlow := low.min_le
    have hhigh := high.le_max
    simp only [Word.val_clamp]
    omega
  · rintro ⟨hlow, hhigh⟩
    exact ⟨(w.val - low.val).toNat, by omega, Word.clamp_eq (by omega)⟩

/-- A position lies in a box if each of its coordinates lies between those of the corners. -/
theorem Box.mem_positions {b : Box} {p : Position} :
    p ∈ b.positions ↔ (b.low.x.val ≤ p.x.val ∧ p.x.val ≤ b.high.x.val) ∧
      (b.low.y.val ≤ p.y.val ∧ p.y.val ≤ b.high.y.val) ∧
      (b.low.z.val ≤ p.z.val ∧ p.z.val ≤ b.high.z.val) := by
  simp only [Box.positions, List.mem_flatMap, List.mem_map, Word.mem_upTo]
  constructor
  · rintro ⟨x, hx, y, hy, z, hz, rfl⟩
    exact ⟨hx, hy, hz⟩
  · rintro ⟨hx, hy, hz⟩
    exact ⟨p.x, hx, p.y, hy, p.z, hz, rfl⟩

theorem Word.val_min (a b : Word) : (min a b).val = min a.val b.val := by
  show (if a.val ≤ b.val then a else b).val = _
  split <;> omega

theorem Word.val_max (a b : Word) : (max a b).val = max a.val b.val := by
  show (if a.val ≤ b.val then b else a).val = _
  split <;> omega

/-- The box with one corner is that block. -/
theorem Box.positions_singleton (p : Position) : (Box.mk p p).positions = [p] := by
  have hone (w : Word) : Word.upTo w w = [w] := by
    simp [Word.upTo, List.range_succ, Word.clamp_eq rfl]
  simp [Box.positions, hone]

theorem Box.ofCorners_self (p : Position) : Box.ofCorners p p = ⟨p, p⟩ := by
  have hmin (w : Word) : min w w = w := by
    refine Word.ext ?_
    rw [Word.val_min, Int.min_self]
  have hmax (w : Word) : max w w = w := by
    refine Word.ext ?_
    rw [Word.val_max, Int.max_self]
  simp [Box.ofCorners, hmin, hmax]

namespace Position

@[ext] theorem ext {p q : Position} (hx : p.x = q.x) (hy : p.y = q.y) (hz : p.z = q.z) :
    p = q := by
  cases p
  cases q
  subst hx hy hz
  rfl

@[simp] theorem x_add (p : Position) (o : Offset) : (p + o).x = p.x + o.x := rfl

@[simp] theorem y_add (p : Position) (o : Offset) : (p + o).y = p.y + o.y := rfl

@[simp] theorem z_add (p : Position) (o : Offset) : (p + o).z = p.z + o.z := rfl

/-- The offset of a block from itself leads nowhere. -/
theorem add_sub_self (p : Position) : p + (p - p : Offset) = p := by
  have hword (w : Word) : w + (w - w) = w := by
    have hzero : (w - w).val = 0 := by
      rw [Word.val_sub, Word.val_clamp]
      omega
    exact Word.clamp_eq (by omega)
  show Position.mk (p.x + (p.x - p.x)) (p.y + (p.y - p.y)) (p.z + (p.z - p.z)) = p
  simp only [hword]

/-- A position is at no distance from itself. -/
theorem distanceSq_self (p : Position) : p.distanceSq p = 0 := by
  simp [distanceSq, spanSq]

end Position

/-! ### Extents -/

/-- An offset lies **inside** an extent if it leads forward along each axis, and no further than
the extent does. -/
structure Offset.Inside (o extent : Offset) : Prop where
  x : 0 ≤ o.x.val ∧ o.x.val ≤ extent.x.val
  y : 0 ≤ o.y.val ∧ o.y.val ≤ extent.y.val
  z : 0 ≤ o.z.val ∧ o.z.val ≤ extent.z.val

/-- A position **has room for** an extent that leads from there to no coordinate out of range. -/
structure Position.HasRoomFor (p : Position) (extent : Offset) : Prop where
  x : p.x.val + extent.x.val ≤ 2147483647
  y : p.y.val + extent.y.val ≤ 2147483647
  z : p.z.val + extent.z.val ≤ 2147483647

/-- Two corners are **spanned** by an offset if a word can hold their difference along each axis. -/
structure Position.Spanned (start stop : Position) : Prop where
  x : (start.x.val - stop.x.val).natAbs ≤ 2147483647
  y : (start.y.val - stop.y.val).natAbs ≤ 2147483647
  z : (start.z.val - stop.z.val).natAbs ≤ 2147483647

/-- A step forward that stays in range does not saturate. -/
theorem Word.val_add_of_le {a d e : Word} (hd : 0 ≤ d.val ∧ d.val ≤ e.val)
    (hroom : a.val + e.val ≤ 2147483647) : (a + d).val = a.val + d.val := by
  have hmin := a.min_le
  rw [Word.val_add, Word.val_clamp]
  omega

/-- The difference of two words that a word can hold leads from the one to the other. -/
theorem Word.sub_of_le {a b : Word} (hle : a.val ≤ b.val) (hspan : b.val - a.val ≤ 2147483647) :
    (b - a).val = b.val - a.val ∧ a + (b - a) = b := by
  have hmin := b.min_le
  have hmax := b.le_max
  have hval : (b - a).val = b.val - a.val := by
    rw [Word.val_sub, Word.val_clamp]
    omega
  exact ⟨hval, Word.clamp_eq (by omega)⟩

namespace Position

section

variable {p : Position} {o o' extent : Offset} (hroom : p.HasRoomFor extent)

include hroom

/-- Offsets inside an extent there is room for lead where they say. -/
theorem val_add_of_inside (ho : o.Inside extent) :
    (p + o).x.val = p.x.val + o.x.val ∧ (p + o).y.val = p.y.val + o.y.val ∧
      (p + o).z.val = p.z.val + o.z.val :=
  ⟨Word.val_add_of_le ho.x hroom.x, Word.val_add_of_le ho.y hroom.y,
    Word.val_add_of_le ho.z hroom.z⟩

/-- They are found back from where they lead. -/
theorem add_sub_of_inside (ho : o.Inside extent) : (p + o - p : Offset) = o := by
  obtain ⟨hx, hy, hz⟩ := val_add_of_inside hroom ho
  show Offset.mk (_ - _) (_ - _) (_ - _) = o
  rw [Word.sub_eq_of_val hx, Word.sub_eq_of_val hy, Word.sub_eq_of_val hz]

theorem add_inj (ho : o.Inside extent) (ho' : o'.Inside extent) (h : p + o = p + o') : o = o' := by
  rw [← add_sub_of_inside hroom ho, h, add_sub_of_inside hroom ho']

end

end Position

namespace Box

/-- The blocks of a box there is room for are those that the offsets inside its extent lead to. -/
theorem mem_positions_add {p q : Position} {extent : Offset} (hforward : extent.Inside extent)
    (hroom : p.HasRoomFor extent) :
    q ∈ (Box.mk p (p + extent)).positions ↔ ∃ o : Offset, o.Inside extent ∧ p + o = q := by
  obtain ⟨hx, hy, hz⟩ := Position.val_add_of_inside hroom hforward
  rw [mem_positions, hx, hy, hz]
  constructor
  · have hword {a b e : Word} (h : a.val ≤ b.val ∧ b.val ≤ a.val + e.val) :
        (0 ≤ (b - a).val ∧ (b - a).val ≤ e.val) ∧ a + (b - a) = b := by
      have hmax := e.le_max
      obtain ⟨hval, hadd⟩ := Word.sub_of_le h.1 (by omega)
      exact ⟨by omega, hadd⟩
    rintro ⟨hqx, hqy, hqz⟩
    obtain ⟨hox, hx⟩ := hword hqx
    obtain ⟨hoy, hy⟩ := hword hqy
    obtain ⟨hoz, hz⟩ := hword hqz
    exact ⟨q - p, ⟨hox, hoy, hoz⟩, Position.ext hx hy hz⟩
  · rintro ⟨o, ho, rfl⟩
    obtain ⟨hox, hoy, hoz⟩ := Position.val_add_of_inside hroom ho
    obtain ⟨hix, hiy, hiz⟩ := ho
    rw [hox, hoy, hoz]
    dsimp only
    omega

/-- The extent of a box leads forward, from its lowest corner to its highest one. -/
theorem extent_of_spanned {start stop : Position} (h : start.Spanned stop) :
    (ofCorners start stop).extent.Inside (ofCorners start stop).extent ∧
      (ofCorners start stop).low.HasRoomFor (ofCorners start stop).extent ∧
      (ofCorners start stop).low + (ofCorners start stop).extent =
        (ofCorners start stop).high := by
  have hword {a b : Word} (h : (a.val - b.val).natAbs ≤ 2147483647) :
      0 ≤ (max a b - min a b).val ∧ (min a b).val + (max a b - min a b).val ≤ 2147483647 ∧
        min a b + (max a b - min a b) = max a b := by
    have hle : (min a b).val ≤ (max a b).val := by
      rw [Word.val_max, Word.val_min]
      omega
    have hspan : (max a b).val - (min a b).val ≤ 2147483647 := by
      rw [Word.val_max, Word.val_min]
      omega
    have hmax := (max a b).le_max
    obtain ⟨hval, hadd⟩ := Word.sub_of_le hle hspan
    exact ⟨by omega, by omega, hadd⟩
  obtain ⟨hx, hrx, hax⟩ := hword h.x
  obtain ⟨hy, hry, hay⟩ := hword h.y
  obtain ⟨hz, hrz, haz⟩ := hword h.z
  exact ⟨⟨⟨hx, Int.le_refl _⟩, ⟨hy, Int.le_refl _⟩, ⟨hz, Int.le_refl _⟩⟩, ⟨hrx, hry, hrz⟩,
    Position.ext hax hay haz⟩

end Box

end BlockConsole
