import BlockConsole.Proofs.Space.Box
import Mathlib.Algebra.Group.Nat.Defs
import Mathlib.Data.List.Nodup

/-!
# How many blocks a box has

The positions of a box are listed without repeats (`Box.nodup_positions`). Whichever two opposite
corners span the box, these are the positions that lie between them along each axis
(`Box.mem_positions_ofCorners`), and their number is the product of the three spans
(`Box.length_positions_ofCorners`).

`Box.volume` multiplies the spans in numbers of 64 bits. A span has at most 33 of them, so only the
products can be cut off: the volume is the number of blocks modulo `2⁶⁴` (`Box.toNat_volume`).
-/

namespace BlockConsole

/-! ### Words and positions between two others -/

/-- A word lies **between** two others, in whichever order they come. -/
def Word.Between (w a b : Word) : Prop :=
  (a.val ≤ w.val ∧ w.val ≤ b.val) ∨ (b.val ≤ w.val ∧ w.val ≤ a.val)

/-- A position lies **between** two others if it does so along each axis. -/
def Position.Between (p a b : Position) : Prop :=
  p.x.Between a.x b.x ∧ p.y.Between a.y b.y ∧ p.z.Between a.z b.z

instance (w a b : Word) : Decidable (w.Between a b) :=
  inferInstanceAs (Decidable (_ ∨ _))

instance (p a b : Position) : Decidable (p.Between a b) :=
  inferInstanceAs (Decidable (_ ∧ _))

theorem Word.between_iff {w a b : Word} :
    w.Between a b ↔ (min a b).val ≤ w.val ∧ w.val ≤ (max a b).val := by
  rw [Between, Word.val_min, Word.val_max]
  omega

/-! ### Lists of words -/

namespace Word

theorem length_upTo (low high : Word) :
    (upTo low high).length = (high.val - low.val + 1).toNat := by
  simp [upTo]

theorem nodup_upTo (low high : Word) : (upTo low high).Nodup := by
  refine List.nodup_range.map_on fun i hi j hj heq => ?_
  have hlow := low.min_le
  have hhigh := high.le_max
  have hval := congrArg Word.val heq
  rw [List.mem_range] at hi hj
  simp only [val_clamp] at hval
  omega

end Word

/-! ### The positions of a box -/

namespace Box

/-- Lists without repeats whose members can be told apart are joined without repeats. -/
theorem nodup_flatMap_of_key {α β : Type} {l : List α} {f : α → List β} (key : β → α)
    (hl : l.Nodup) (hf : ∀ a, (f a).Nodup) (hkey : ∀ a, ∀ b ∈ f a, key b = a) :
    (l.flatMap f).Nodup := by
  refine List.nodup_flatMap.mpr ⟨fun a _ => hf a, hl.imp fun {a a'} hne b hb hb' => ?_⟩
  exact hne ((hkey a b hb).symm.trans (hkey a' b hb'))

/-- No position of a box is listed twice. -/
theorem nodup_positions (b : Box) : b.positions.Nodup := by
  refine nodup_flatMap_of_key Position.x (Word.nodup_upTo _ _) (fun x => ?_) fun x p hp => ?_
  · refine nodup_flatMap_of_key Position.y (Word.nodup_upTo _ _) (fun y => ?_) fun y p hp => ?_
    · exact (Word.nodup_upTo _ _).map fun z z' heq => congrArg Position.z heq
    · obtain ⟨z, -, rfl⟩ := List.mem_map.mp hp
      rfl
  · obtain ⟨y, -, hp⟩ := List.mem_flatMap.mp hp
    obtain ⟨z, -, rfl⟩ := List.mem_map.mp hp
    rfl

theorem length_positions (b : Box) :
    b.positions.length = (b.high.x.val - b.low.x.val + 1).toNat *
      ((b.high.y.val - b.low.y.val + 1).toNat * (b.high.z.val - b.low.z.val + 1).toNat) := by
  simp only [positions, List.length_flatMap, List.length_map, Word.length_upTo, List.map_const',
    List.sum_replicate_nat]

variable (a b : Position)

/-- The positions of a box are the ones between its corners, whichever two of them span it. -/
theorem mem_positions_ofCorners {p : Position} :
    p ∈ (ofCorners a b).positions ↔ p.Between a b := by
  simp only [mem_positions, Position.Between, Word.between_iff, ofCorners]

/-- So each of these is listed once, and no other one is listed. -/
theorem count_positions_ofCorners (p : Position) :
    (ofCorners a b).positions.count p = if p.Between a b then 1 else 0 := by
  split
  · next hp =>
    exact List.count_eq_one_of_mem (nodup_positions _) ((mem_positions_ofCorners a b).mpr hp)
  · next hp =>
    exact List.count_eq_zero_of_not_mem fun hmem => hp ((mem_positions_ofCorners a b).mp hmem)

theorem length_positions_ofCorners :
    (ofCorners a b).positions.length = ((a.x.val - b.x.val).natAbs + 1) *
      (((a.y.val - b.y.val).natAbs + 1) * ((a.z.val - b.z.val).natAbs + 1)) := by
  have hspan (u v : Word) :
      ((max u v).val - (min u v).val + 1).toNat = (u.val - v.val).natAbs + 1 := by
    rw [Word.val_max, Word.val_min]
    omega
  rw [length_positions]
  simp only [ofCorners, hspan]

/-! ### The volume -/

/-- A span is exact: the coordinates are too few to be cut off. -/
theorem toNat_span (u v : Word) : (span u v).toNat = (u.val - v.val).natAbs + 1 := by
  have hu := u.min_le
  have hu' := u.le_max
  have hv := v.min_le
  have hv' := v.le_max
  rw [span, UInt64.toNat_add, UInt64.toNat_ofNat', UInt64.toNat_one]
  omega

/-- The volume is the number of blocks modulo `2⁶⁴`. -/
theorem toNat_volume :
    (volume a b).toNat = (ofCorners a b).positions.length % 2 ^ 64 := by
  rw [volume, UInt64.toNat_mul, UInt64.toNat_mul, toNat_span, toNat_span, toNat_span,
    length_positions_ofCorners, Nat.mod_mul_mod, Nat.mul_assoc]

/-- Where the number of blocks has 64 bits, the volume is this number. -/
theorem toNat_volume_of_lt (h : (ofCorners a b).positions.length < 2 ^ 64) :
    (volume a b).toNat = (ofCorners a b).positions.length := by
  rw [toNat_volume, Nat.mod_eq_of_lt h]

end Box

end BlockConsole
