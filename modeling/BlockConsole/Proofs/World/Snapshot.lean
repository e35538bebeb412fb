import BlockConsole.Proofs.World.Basic

/-!
# Captured boxes

Putting a snapshot back empties a box and then puts the captured blocks into it, and
`World.blockAt_putBack` says what is found after both. Where the corners of the captured box are
spanned by an offset and there is room for its extent, the box is `Copied` as it was when it was
captured (`World.copied_putBack`). A box of a single block can be captured and put back anywhere
(`World.blockAt_putBack_ofBlock`).
-/

namespace BlockConsole

/-- The snapshot of a single block. -/
def Snapshot.ofBlock (found : Option Block) : Snapshot where
  extent := (Position.origin - Position.origin : Offset)
  blocks := found.toList.map fun b => ((Position.origin - Position.origin : Offset), b)

/-- The block that a snapshot put back at `pos` has for a position, if it has one; where it has
several, the last one counts. -/
def Snapshot.blockFor? (snapshot : Snapshot) (pos q : Position) : Option Block :=
  (snapshot.blocks.reverse.find? fun e => pos + e.1 == q).map Prod.snd

namespace World

/-! ### What is found after a snapshot was put back -/

theorem rebuilt_putBack (w : World) (snapshot : Snapshot) (pos : Position) :
    Rebuilt w (w.putBack snapshot pos) := ⟨_, rfl⟩

theorem getElem?_foldl_erase (blocks : Std.HashMap Position Block) (ps : List Position)
    (q : Position) :
    (ps.foldl (fun blocks p => blocks.erase p) blocks)[q]? =
      if q ∈ ps then none else blocks[q]? := by
  induction ps generalizing blocks with
  | nil => simp
  | cons p ps ih =>
    rw [List.foldl_cons, ih, Std.HashMap.getElem?_erase]
    have hcomm : (p = q) = (q = p) := propext eq_comm
    by_cases hps : q ∈ ps <;> by_cases hp : q = p <;> simp [hps, hp, hcomm]

theorem getElem?_foldl_insert (blocks : Std.HashMap Position Block) (es : List (Offset × Block))
    (pos q : Position) :
    (es.foldl (fun blocks e => blocks.insert (pos + e.1) e.2) blocks)[q]? =
      ((es.reverse.find? fun e => pos + e.1 == q).map Prod.snd).or blocks[q]? := by
  induction es generalizing blocks with
  | nil => simp
  | cons e es ih =>
    rw [List.foldl_cons, ih, Std.HashMap.getElem?_insert, List.reverse_cons, List.find?_append]
    cases es.reverse.find? fun e => pos + e.1 == q with
    | some b => simp
    | none => cases h : pos + e.1 == q <;> simp [h]

/-- What is found after a snapshot was put back: the block it has for the position, and otherwise
nothing in the box and what was there outside of it. -/
theorem blockAt_putBack (w : World) (snapshot : Snapshot) (pos q : Position) :
    (w.putBack snapshot pos).blockAt q =
      (snapshot.blockFor? pos q).or
        (if q ∈ (Box.mk pos (pos + snapshot.extent)).positions then none else w.blockAt q) := by
  rw [Snapshot.blockFor?, blockAt, blockAt, ← getElem?_foldl_erase, ← getElem?_foldl_insert]
  rfl

/-! ### Boxes -/

section

variable (source : World) {start stop : Position} (hspan : start.Spanned stop)

include hspan

/-- The snapshot of a box holds each block of the box by its offset. -/
theorem mem_capture {o : Offset} {b : Block} :
    (o, b) ∈ (source.capture (.ofCorners start stop)).blocks ↔
      o.Inside (Box.ofCorners start stop).extent ∧
        source.blockAt ((Box.ofCorners start stop).low + o) = some b := by
  obtain ⟨hforward, hlow, hhigh⟩ := Box.extent_of_spanned hspan
  generalize Box.ofCorners start stop = box at hforward hlow hhigh
  -- Seen from its lowest corner, the box is what its extent spans.
  have hbox : box.positions = (Box.mk box.low (box.low + box.extent)).positions := by rw [hhigh]
  simp only [capture, List.mem_filterMap, Option.map_eq_some_iff, Prod.mk.injEq, hbox]
  constructor
  · rintro ⟨p, hp, b', hb, rfl, rfl⟩
    obtain ⟨o, ho, rfl⟩ := (Box.mem_positions_add hforward hlow).mp hp
    rw [Position.add_sub_of_inside hlow ho]
    exact ⟨ho, hb⟩
  · rintro ⟨ho, hb⟩
    exact ⟨box.low + o, (Box.mem_positions_add hforward hlow).mpr ⟨o, ho, rfl⟩, b, hb,
      Position.add_sub_of_inside hlow ho, rfl⟩

/-- The block that a captured box has for a position was at an offset that leads there. -/
theorem exists_of_blockFor? {pos q : Position} {b : Block}
    (h : (source.capture (.ofCorners start stop)).blockFor? pos q = some b) :
    ∃ o : Offset, o.Inside (Box.ofCorners start stop).extent ∧ pos + o = q ∧
      source.blockAt ((Box.ofCorners start stop).low + o) = some b := by
  obtain ⟨⟨o, b⟩, hfind, rfl⟩ := Option.map_eq_some_iff.mp h
  have hmem := List.mem_reverse.mp (List.mem_of_find?_eq_some hfind)
  obtain ⟨ho, hb⟩ := (mem_capture source hspan).mp hmem
  have heq : pos + o = q := by simpa using List.find?_some hfind
  exact ⟨o, ho, heq, hb⟩

/-- Where there is room, it is the block at that very offset. -/
theorem blockFor?_capture {pos : Position}
    (hroom : pos.HasRoomFor (Box.ofCorners start stop).extent) {o : Offset}
    (ho : o.Inside (Box.ofCorners start stop).extent) :
    (source.capture (.ofCorners start stop)).blockFor? pos (pos + o) =
      source.blockAt ((Box.ofCorners start stop).low + o) := by
  cases h : (source.capture (.ofCorners start stop)).blockFor? pos (pos + o) with
  | some b =>
    obtain ⟨o', ho', heq, hb⟩ := exists_of_blockFor? source hspan h
    rw [← Position.add_inj hroom ho' ho heq, hb]
  | none =>
    cases hb : source.blockAt ((Box.ofCorners start stop).low + o) with
    | none => rfl
    | some b =>
      -- A block of the box is in the snapshot, so the search comes upon it.
      have hmem := (mem_capture source hspan).mpr ⟨ho, hb⟩
      have hnone := List.find?_eq_none.mp (Option.map_eq_none_iff.mp h) _
        (List.mem_reverse.mpr hmem)
      exact absurd (beq_self_eq_true _) hnone

end

/-- A box of a world `source` is **copied** to a position between two worlds: the blocks of the
box are found there, and everywhere else nothing has changed. -/
structure Copied (source : World) (box : Box) (pos : Position) (w w' : World) : Prop where
  inside : ∀ o : Offset, o.Inside box.extent →
    w'.blockAt (pos + o) = source.blockAt (box.low + o)
  outside : ∀ q, q ∉ (Box.mk pos (pos + box.extent)).positions → w'.blockAt q = w.blockAt q

/-- A captured box that is put back is copied. -/
theorem copied_putBack (source w : World) {start stop pos : Position} (hspan : start.Spanned stop)
    (hroom : pos.HasRoomFor (Box.ofCorners start stop).extent) :
    Copied source (.ofCorners start stop) pos w
      (w.putBack (source.capture (.ofCorners start stop)) pos) := by
  have hforward := (Box.extent_of_spanned hspan).1
  constructor
  · intro o ho
    have hmem : pos + o ∈
        (Box.mk pos (pos + (source.capture (.ofCorners start stop)).extent)).positions :=
      (Box.mem_positions_add hforward hroom).mpr ⟨o, ho, rfl⟩
    rw [blockAt_putBack, if_pos hmem, Option.or_none]
    exact blockFor?_capture source hspan hroom ho
  · intro q hq
    have hnone : (source.capture (.ofCorners start stop)).blockFor? pos q = none := by
      refine Option.eq_none_iff_forall_ne_some.mpr fun b h => hq ?_
      obtain ⟨o, ho, heq, -⟩ := exists_of_blockFor? source hspan h
      exact (Box.mem_positions_add hforward hroom).mpr ⟨o, ho, heq⟩
    rw [blockAt_putBack, hnone, Option.none_or]
    exact if_neg hq

/-! ### Single blocks -/

/-- The offset of a block from itself is the same everywhere. -/
theorem sub_self_eq (p : Position) : (p - p : Offset) = Position.origin - Position.origin := by
  have hword (w : Word) : w - w = (0 : Word) - 0 := by
    refine Word.ext ?_
    simp only [Word.val_sub, Word.val_clamp, Int.sub_self]
  show Offset.mk (p.x - p.x) (p.y - p.y) (p.z - p.z) = _
  rw [hword p.x, hword p.y, hword p.z]
  rfl

theorem capture_self (w : World) (p : Position) :
    w.capture (Box.ofCorners p p) = .ofBlock (w.blockAt p) := by
  rw [capture, Box.ofCorners_self, Box.positions_singleton, Box.extent, sub_self_eq,
    Snapshot.ofBlock]
  cases h : w.blockAt p <;> simp [h, sub_self_eq]

/-- What is found after a snapshot of one block was put back at a position. -/
theorem blockAt_putBack_ofBlock (w : World) (p q : Position) (found : Option Block) :
    (w.putBack (.ofBlock found) p).blockAt q = if q = p then found else w.blockAt q := by
  have hself : p + (Position.origin - Position.origin : Offset) = p := by
    rw [← sub_self_eq p, Position.add_sub_self]
  have hfor : (Snapshot.ofBlock found).blockFor? p q = if q = p then found else none := by
    have hcomm : (p = q) = (q = p) := propext eq_comm
    cases found <;> simp [Snapshot.blockFor?, Snapshot.ofBlock, hself, hcomm]
  rw [blockAt_putBack, hfor, Snapshot.ofBlock, hself, Box.positions_singleton]
  by_cases hq : q = p <;> simp [hq]

end World

end BlockConsole
