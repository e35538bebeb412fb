import BlockConsole.Proofs.Space.Layout

/-!
# Finding cells by their offsets

`Layout.slotAt?` and `Layout.neighborAt?` search the work area for what lies at an offset from the
center. Each of them finds a cell exactly if the cell lies there (`Layout.slotAt?_eq_some_iff`,
`Layout.neighborAt?_eq_some_iff`). They never both find one, and what is found lies in bounds.

The search for a neighbor takes the differences between the offset and the slots. A difference that
leads out of a face is too small to have been clamped, so the search is right at every offset. Where
the offset keeps a distance of three from the limits, no difference is clamped at all
(`Layout.val_sub_offsetOf`).
-/

namespace BlockConsole

/-! ### Steps out of a face -/

/-- A difference that is not at the limits was not clamped. -/
theorem Word.add_eq_of_sub_eq {a b d : Word} (h : a - b = d)
    (hd : -2147483648 < d.val ∧ d.val < 2147483647) : b + d = a := by
  have hval : (a - b).val = d.val := congrArg Word.val h
  rw [Word.val_sub, Word.val_clamp] at hval
  exact Word.clamp_eq (by omega)

theorem Facing.ofOffset?_eq_some_iff {o : Offset} {f : Facing} :
    ofOffset? o = some f ↔ f.offset = o := by
  constructor
  · intro h
    simpa using List.find?_some h
  · rintro rfl
    cases f <;> decide

/-- If the difference of two offsets leads out of a face, then so does the way between them. -/
theorem Offset.add_eq_of_sub_eq {a b : Offset} {f : Facing} (h : a - b = f.offset) :
    b + f.offset = a := by
  obtain ⟨hx, ⟨hy₀, hy₁, -⟩, hz⟩ := Cell.facingOffset_bounds f
  have hxAdd : b.x + f.offset.x = a.x := Word.add_eq_of_sub_eq (congrArg Offset.x h) (by omega)
  have hyAdd : b.y + f.offset.y = a.y := Word.add_eq_of_sub_eq (congrArg Offset.y h) (by omega)
  have hzAdd : b.z + f.offset.z = a.z := Word.add_eq_of_sub_eq (congrArg Offset.z h) (by omega)
  show Offset.mk (b.x + f.offset.x) (b.y + f.offset.y) (b.z + f.offset.z) = a
  rw [hxAdd, hyAdd, hzAdd]

/-! ### The two searches -/

namespace Cell

variable {o : Offset} {s : Slot} {f : Facing}

theorem at?_eq_slot_iff : at? o = some (slot s) ↔ Layout.slotAt? o = some s := by
  simp [at?, Option.or_eq_some_iff]

/-- A neighbor is looked for where there is no slot. -/
theorem at?_eq_neighbor_iff :
    at? o = some (neighbor s f) ↔ Layout.slotAt? o = none ∧ Layout.neighborAt? o = some (s, f) := by
  simp [at?, Option.or_eq_some_iff]

end Cell

namespace Layout

variable {o : Offset} {s : Slot} {f : Facing}

theorem slotOffset_val (s : Slot) : slotOffset s = offsetOf s :=
  dif_pos s.isLt

/-- A slot is found exactly where it lies. -/
theorem slotAt?_eq_some_iff : slotAt? o = some s ↔ slotOffset s = o := by
  constructor
  · intro h
    rw [slotOffset_val]
    simpa using List.find?_some h
  · rintro rfl
    exact Cell.at?_eq_slot_iff.mp (Cell.at?_offset (.slot s))

/-- A neighbor is found exactly where it lies. -/
theorem neighborAt?_eq_some_iff : neighborAt? o = some (s, f) ↔ neighborOffset s f = o := by
  constructor
  · intro h
    obtain ⟨t, -, hface⟩ := List.exists_of_findSome?_eq_some h
    obtain ⟨g, hg, heq⟩ := Option.map_eq_some_iff.mp hface
    obtain ⟨rfl, rfl⟩ := Prod.mk.inj heq
    rw [neighborOffset, slotOffset_val]
    exact Offset.add_eq_of_sub_eq (Facing.ofOffset?_eq_some_iff.mp hg).symm
  · rintro rfl
    exact (Cell.at?_eq_neighbor_iff.mp (Cell.at?_offset (.neighbor s f))).2

/-- Where a neighbor lies there is no slot. -/
theorem slotAt?_of_neighborAt? (h : neighborAt? o = some (s, f)) : slotAt? o = none := by
  obtain rfl := neighborAt?_eq_some_iff.mp h
  exact (Cell.at?_eq_neighbor_iff.mp (Cell.at?_offset (.neighbor s f))).1

/-- The numbers under which slots are found: those below nine, each where its slot lies. -/
theorem map_slotAt?_eq_some_iff {i : Nat} :
    (slotAt? o).map Fin.val = some i ↔ i < 9 ∧ slotOffset i = o := by
  constructor
  · intro h
    obtain ⟨s, hs, rfl⟩ := Option.map_eq_some_iff.mp h
    exact ⟨s.isLt, slotAt?_eq_some_iff.mp hs⟩
  · rintro ⟨hi, hoffset⟩
    have hs : slotAt? o = some ⟨i, hi⟩ := slotAt?_eq_some_iff.mpr hoffset
    rw [hs, Option.map_some]

theorem map_neighborAt?_eq_some_iff {i : Nat} :
    (neighborAt? o).map (Prod.map Fin.val id) = some (i, f) ↔ i < 9 ∧ neighborOffset i f = o := by
  constructor
  · intro h
    obtain ⟨⟨s, g⟩, hs, heq⟩ := Option.map_eq_some_iff.mp h
    obtain ⟨rfl, rfl⟩ := Prod.mk.inj heq
    exact ⟨s.isLt, neighborAt?_eq_some_iff.mp hs⟩
  · rintro ⟨hi, hoffset⟩
    have hs : neighborAt? o = some (⟨i, hi⟩, f) := neighborAt?_eq_some_iff.mpr hoffset
    rw [hs, Option.map_some, Prod.map_apply, id]

/-- The center is found where it lies, and where there is no slot. -/
theorem slotAtOrCenter_eq_center_iff :
    slotAtOrCenter o = centerSlot ↔ o = .zero ∨ ∀ i < 9, slotOffset i ≠ o := by
  have hcenter : slotAt? o = some centerSlot ↔ o = .zero := by
    rw [slotAt?_eq_some_iff]
    exact eq_comm
  rw [slotAtOrCenter]
  cases h : slotAt? o with
  | none =>
    refine iff_of_true rfl (.inr fun i hi hoffset => ?_)
    have hfound := map_slotAt?_eq_some_iff.mpr ⟨hi, hoffset⟩
    rw [h] at hfound
    exact absurd hfound (by simp)
  | some s =>
    rw [h, Option.some_inj] at hcenter
    rw [Option.getD_some, hcenter, or_iff_left]
    exact fun hno => hno s s.isLt (slotAt?_eq_some_iff.mp h)

/-! ### Bounds -/

/-- An offset lies **in bounds** if it leads into the box around all slots and neighbors. -/
structure InBounds (o : Offset) : Prop where
  x : bounds.1.x.val ≤ o.x.val ∧ o.x.val ≤ bounds.2.x.val
  y : bounds.1.y.val ≤ o.y.val ∧ o.y.val ≤ bounds.2.y.val
  z : bounds.1.z.val ≤ o.z.val ∧ o.z.val ≤ bounds.2.z.val

theorem inBounds_offset (c : Cell) : InBounds c.offset := by
  obtain ⟨⟨-, hx⟩, ⟨-, hy₀, hy₁, -⟩, -, hz⟩ := c.position_val hasRoom_origin
  obtain ⟨⟨hlx, hly, hlz⟩, hhx, hhy, hhz⟩ := bounds_val
  constructor <;> omega

/-- At a distance of three from the limits no difference to a slot is clamped. -/
theorem val_sub_offsetOf (hx : -2147483648 + 3 ≤ o.x.val ∧ o.x.val ≤ 2147483647 - 3)
    (hz : -2147483648 + 3 ≤ o.z.val ∧ o.z.val ≤ 2147483647 - 3) (s : Slot) :
    (o - offsetOf s).x.val = o.x.val - (offsetOf s).x.val ∧
      (o - offsetOf s).y.val = o.y.val - (offsetOf s).y.val ∧
      (o - offsetOf s).z.val = o.z.val - (offsetOf s).z.val := by
  obtain ⟨hsx, hsy, hsz⟩ := Cell.slotOffset_bounds s
  rw [slotOffset_val] at hsx hsy hsz
  have hmin := o.y.min_le
  have hmax := o.y.le_max
  show (o.x - (offsetOf s).x).val = _ ∧ (o.y - (offsetOf s).y).val = _ ∧
    (o.z - (offsetOf s).z).val = _
  simp only [Word.val_sub, Word.val_clamp]
  omega

/-- **Cells are found exactly.** At an offset that keeps a distance of three from the limits, no
difference to a slot is clamped. What is found there is the slot or the neighbor that lies there, in
bounds, and never both are found. The center stands for the offset where it lies, and where no slot
does. -/
theorem cells_found_exactly (o : Offset)
    (hx : -2147483648 + 3 ≤ o.x.val ∧ o.x.val ≤ 2147483647 - 3)
    (hz : -2147483648 + 3 ≤ o.z.val ∧ o.z.val ≤ 2147483647 - 3) :
    (∀ s : Slot, (o - offsetOf s).x.val = o.x.val - (offsetOf s).x.val ∧
        (o - offsetOf s).y.val = o.y.val - (offsetOf s).y.val ∧
        (o - offsetOf s).z.val = o.z.val - (offsetOf s).z.val) ∧
      (∀ i, (slotAt? o).map Fin.val = some i ↔ i < 9 ∧ slotOffset i = o) ∧
      (∀ i f, (neighborAt? o).map (Prod.map Fin.val id) = some (i, f) ↔
        i < 9 ∧ neighborOffset i f = o) ∧
      (slotAt? o = none ∨ neighborAt? o = none) ∧
      ((slotAt? o).isSome ∨ (neighborAt? o).isSome → InBounds o) ∧
      (slotAtOrCenter o = centerSlot ↔ o = .zero ∨ ∀ i < 9, slotOffset i ≠ o) := by
  refine ⟨val_sub_offsetOf hx hz, fun i => map_slotAt?_eq_some_iff,
    fun i f => map_neighborAt?_eq_some_iff, ?_, ?_, slotAtOrCenter_eq_center_iff⟩
  · cases h : neighborAt? o with
    | none => exact .inr rfl
    | some e => exact .inl (slotAt?_of_neighborAt? h)
  · rintro (h | h)
    · obtain ⟨s, hs⟩ := Option.isSome_iff_exists.mp h
      rw [← slotAt?_eq_some_iff.mp hs]
      exact inBounds_offset (.slot s)
    · obtain ⟨⟨s, f⟩, hs⟩ := Option.isSome_iff_exists.mp h
      rw [← neighborAt?_eq_some_iff.mp hs]
      exact inBounds_offset (.neighbor s f)

/-- The offset of the neighbor to the east of the slot in the corner. -/
def cornerNeighbor : Offset := ⟨4, 0, -3⟩

theorem cells_found_exactly_corner :
    (-2147483648 + 3 ≤ cornerNeighbor.x.val ∧ cornerNeighbor.x.val ≤ 2147483647 - 3) ∧
      (-2147483648 + 3 ≤ cornerNeighbor.z.val ∧ cornerNeighbor.z.val ≤ 2147483647 - 3) ∧
      (neighborAt? cornerNeighbor).map (Prod.map Fin.val id) = some (8, .east) ∧
      slotAt? cornerNeighbor = none ∧ InBounds cornerNeighbor ∧
      slotAtOrCenter cornerNeighbor = centerSlot := by
  have hx : -2147483648 + 3 ≤ cornerNeighbor.x.val ∧ cornerNeighbor.x.val ≤ 2147483647 - 3 := by
    decide
  have hz : -2147483648 + 3 ≤ cornerNeighbor.z.val ∧ cornerNeighbor.z.val ≤ 2147483647 - 3 := by
    decide
  obtain ⟨-, hslot, hneighbor, hone, hbounds, hcenter⟩ := cells_found_exactly cornerNeighbor hx hz
  have hfound := (hneighbor 8 .east).mpr ⟨by decide, by decide⟩
  have hsome : (neighborAt? cornerNeighbor).isSome = true := by
    rw [← Option.isSome_map, hfound]
    rfl
  have hnone : slotAt? cornerNeighbor = none :=
    hone.resolve_right (Option.isSome_iff_ne_none.mp hsome)
  refine ⟨hx, hz, hfound, hnone, hbounds (.inr hsome), hcenter.mpr (.inr fun i hi hoffset => ?_)⟩
  have hat := (hslot i).mpr ⟨hi, hoffset⟩
  rw [hnone] at hat
  exact absurd hat (by simp)

end Layout

end BlockConsole
