import BlockConsole.Proofs.Bench.Orderly

/-!
# No damage outside the work area

Whatever is requested, the world changes only in the box around the work area of the console
(`request_confined`). The commands that lay out a work area fill two parts of this box, however they
are read, and every other request writes marks, which lie in cells. None of this takes room around
the center: where coordinates saturate, the box is cut off where the cells are.
-/

namespace BlockConsole

open Work Console

variable {s : Site World}

/-! ### The box around the work area -/

/-- The box around the work area with a given center. -/
def workBox (center : Position) : Box :=
  ⟨center + Layout.bounds.1, center + Layout.bounds.2⟩

/-- A box contains every box that has two opposite corners in it. -/
theorem Box.mem_of_mem_ofCorners {box : Box} {a b p : Position} (ha : a ∈ box.positions)
    (hb : b ∈ box.positions) (hp : p ∈ (Box.ofCorners a b).positions) : p ∈ box.positions := by
  obtain ⟨⟨hax, hax'⟩, ⟨hay, hay'⟩, haz, haz'⟩ := Box.mem_positions.mp ha
  obtain ⟨⟨hbx, hbx'⟩, ⟨hby, hby'⟩, hbz, hbz'⟩ := Box.mem_positions.mp hb
  rw [Box.mem_positions] at hp ⊢
  simp only [Box.ofCorners, Word.val_min, Word.val_max] at hp
  obtain ⟨hx, hy, hz⟩ := hp
  exact ⟨⟨(le_min hax hbx).trans hx.1, hx.2.trans (max_le hax' hbx')⟩,
    ⟨(le_min hay hby).trans hy.1, hy.2.trans (max_le hay' hby')⟩,
    (le_min haz hbz).trans hz.1, hz.2.trans (max_le haz' hbz')⟩

section

variable (center : Position) {p : Position}

/-- Offsets between those of the corners lead into the box, also in two steps and where coordinates
saturate. -/
theorem add_add_mem_workBox {d e : Offset}
    (hx : (-4 ≤ d.x.val ∧ d.x.val ≤ 4) ∧ (-4 ≤ e.x.val ∧ e.x.val ≤ 4) ∧
      -4 ≤ d.x.val + e.x.val ∧ d.x.val + e.x.val ≤ 4)
    (hy : (-1 ≤ d.y.val ∧ d.y.val ≤ 1) ∧ (-1 ≤ e.y.val ∧ e.y.val ≤ 1) ∧
      -1 ≤ d.y.val + e.y.val ∧ d.y.val + e.y.val ≤ 1)
    (hz : (-4 ≤ d.z.val ∧ d.z.val ≤ 4) ∧ (-4 ≤ e.z.val ∧ e.z.val ≤ 4) ∧
      -4 ≤ d.z.val + e.z.val ∧ d.z.val + e.z.val ≤ 4) :
    center + d + e ∈ (workBox center).positions := by
  obtain ⟨⟨hlx, hly, hlz⟩, hhx, hhy, hhz⟩ := bounds_val
  have hbetween {low high d e : Word} (hd : low.val ≤ d.val ∧ d.val ≤ high.val)
      (he : low.val ≤ e.val ∧ e.val ≤ high.val)
      (hsum : low.val ≤ d.val + e.val ∧ d.val + e.val ≤ high.val) (c : Word) :
      (c + low).val ≤ (c + d + e).val ∧ (c + d + e).val ≤ (c + high).val := by
    have hmin := c.min_le
    have hmax := c.le_max
    simp only [Word.val_add, Word.val_clamp]
    omega
  rw [Box.mem_positions]
  exact ⟨hbetween (by omega) (by omega) (by omega) center.x,
    hbetween (by omega) (by omega) (by omega) center.y,
    hbetween (by omega) (by omega) (by omega) center.z⟩

theorem add_mem_workBox {d : Offset} (hx : -4 ≤ d.x.val ∧ d.x.val ≤ 4)
    (hy : -1 ≤ d.y.val ∧ d.y.val ≤ 1) (hz : -4 ≤ d.z.val ∧ d.z.val ≤ 4) :
    center + d ∈ (workBox center).positions := by
  obtain ⟨⟨hlx, hly, hlz⟩, hhx, hhy, hhz⟩ := bounds_val
  have hmono {a b : Word} (h : a.val ≤ b.val) (c : Word) : (c + a).val ≤ (c + b).val := by
    simp only [Word.val_add, Word.val_clamp]
    omega
  rw [Box.mem_positions]
  exact ⟨⟨hmono (by omega) center.x, hmono (by omega) center.x⟩,
    ⟨hmono (by omega) center.y, hmono (by omega) center.y⟩,
    hmono (by omega) center.z, hmono (by omega) center.z⟩

/-- Every cell lies in the box. -/
theorem Cell.mem_workBox (cell : Cell) : cell.position center ∈ (workBox center).positions := by
  cases cell with
  | slot i =>
    obtain ⟨hx, hy, hz⟩ := slotOffset_bounds i
    exact add_mem_workBox center (by omega) (by omega) (by omega)
  | neighbor i f =>
    obtain ⟨hx, hy, hz⟩ := slotOffset_bounds i
    obtain ⟨hfx, ⟨hfy₀, hfy₁, -⟩, hfz⟩ := facingOffset_bounds f
    exact add_add_mem_workBox center (by omega) (by omega) (by omega)

variable {center}

/-- So do the boxes that are filled when a work area is laid out. -/
theorem mem_workBox_of_floorBox (h : p ∈ (floorBox center).positions) :
    p ∈ (workBox center).positions := by
  refine Box.mem_of_mem_ofCorners ?_ ?_ h
  · exact add_mem_workBox center (by decide +kernel) (by decide +kernel) (by decide +kernel)
  · exact add_mem_workBox center (by decide +kernel) (by decide +kernel) (by decide +kernel)

theorem mem_workBox_of_clearBox (h : p ∈ (clearBox center).positions) :
    p ∈ (workBox center).positions := by
  refine Box.mem_of_mem_ofCorners ?_ ?_ h
  · exact add_mem_workBox center (by decide +kernel) (by decide +kernel) (by decide +kernel)
  · exact add_mem_workBox center (by decide +kernel) (by decide +kernel) (by decide +kernel)

end

/-! ### Laying out -/

/-- Changing nothing outside a box, as a frame. -/
def confined (box : Box) : Frame World where
  Allows s s' _ := ∀ p ∉ box.positions, s'.world.blockAt p = s.world.blockAt p
  quiet _ _ _ _ := rfl
  trans h₁ h₂ p hp := (h₂ p hp).trans (h₁ p hp)

/-- Sending a command is confined to a box if it is so however the command is read. -/
theorem confined_sendChecked {box : Box} {c : Command} (timeout : Nat) (s : Site World)
    (h : ∀ read, Command.parse c.text = .ok read →
      ∀ p ∉ box.positions, (s.world.after read).blockAt p = s.world.blockAt p) :
    Within (confined box) (sendChecked c timeout) s := by
  rw [Within, run_sendChecked]
  intro p hp
  show (World.respond (.send c timeout) s.world).world.blockAt p = _
  cases hout : c.outcome (World.respond (.send c timeout) s.world).reply with
  | error e => exact (World.alike_of_outcome_error hout).blockAt p
  | ok a =>
    obtain ⟨read, hread, halike⟩ := World.exists_read_of_outcome_ok hout
    exact (halike.blockAt p).trans (h read hread p hp)

/-- The same for a command that can be read back. -/
theorem confined_sendChecked_readable {box : Box} {c : Command} (hc : c.Readable) (timeout : Nat)
    (s : Site World)
    (h : ∀ p ∉ box.positions, (s.world.after c).blockAt p = s.world.blockAt p) :
    Within (confined box) (sendChecked c timeout) s := by
  refine confined_sendChecked timeout s fun read hread => ?_
  obtain rfl : c = read := Except.ok.inj ((Command.parse_text hc).symm.trans hread)
  exact h

theorem confined_act_holdSlot (box : Box) (slot : Nat) (s : Site World) :
    Within (confined box) (act (.holdSlot slot)) s := by
  have hwrote := wrote_holdSlot (s := s) slot
  exact fun p _ => congrFun hwrote.blocks p

theorem confined_update (box : Box) (g : Console → Console) (s : Site World) :
    Within (confined box) (Work.update g : Work World Failure Unit) s :=
  fun _ _ => rfl

/-- Building a work area is confined to the box around it, whatever the floor block is called and
however far it gets. -/
theorem confined_buildArea (settings : Settings) (dimension : Word) (center : Position)
    (s : Site World) :
    Within (confined (workBox center)) (buildArea settings dimension center) s := by
  refine .bind within_log fun _ _ => .bind within_logAll fun _ _ => ?_
  refine .bind (confined_sendChecked_readable (c := .gameMode settings.gameMode) trivial _ _
    fun _ _ => rfl) fun _ _ => ?_
  refine .bind (within_read (.bind (confined_sendChecked_readable (c := .teleport center) trivial _
    _ fun _ _ => rfl) fun _ _ => confined_update _ _ _)) fun _ _ => ?_
  refine .bind (confined_sendChecked_readable (readable_clearCommand center) _ _
    fun p hp => ?_) fun _ _ => ?_
  · refine (World.blockAt_putAll ..).trans (if_neg fun hmem => hp ?_)
    exact mem_workBox_of_clearBox hmem
  -- The name of the floor block may be anything, but it cannot make the command fill another box.
  refine .bind (confined_sendChecked _ _ fun read hread p hp => ?_) fun _ _ => ?_
  · obtain ⟨name, states, -, rfl⟩ := exists_floorFill_of_parse hread
    refine (World.blockAt_putAll ..).trans (if_neg fun hmem => hp ?_)
    exact mem_workBox_of_floorBox hmem
  refine .bind (confined_sendChecked_readable (c := .clearInventory) trivial _ _
    fun _ _ => rfl) fun _ _ => ?_
  exact .bind (confined_act_holdSlot _ _ _) fun _ _ =>
    .bind (confined_update _ laidOut _) fun _ _ => within_log

theorem confined_layOut (dimension : Word) (center : Position) (s : Site World) :
    Within (confined (workBox center)) (layOut dimension center) s :=
  within_layOut (fun _ _ => rfl) (confined_buildArea _ dimension center _)

/-- However laying out ends, the console has the new center. -/
theorem center_layOut (dimension : Word) (center : Position) (b : Bench World) :
    ((Request.layOut dimension center).perform b).bench.site.console.center = center := by
  obtain ⟨p, hconsole | hconsole⟩ := console_layOut dimension center b.site
  · exact congrArg Console.center hconsole
  · exact congrArg Console.center hconsole

/-! ### All requests -/

/-- Marks are confined to the box around the work area. -/
theorem Wrote.confined {marks : List Mark} {s' : Site World} (h : Wrote marks s s') {p : Position}
    (hp : p ∉ (workBox s.console.center).positions) :
    s'.world.blockAt p = s.world.blockAt p := by
  refine h.blockAt_of_forall_ne fun m _ heq => hp ?_
  rw [← heq]
  exact m.cell.mem_workBox s.console.center

/-- **No request does damage outside the work area.** However a bench was used before, and whatever
the world refuses, a request changes nothing outside the box around the work area that the console
has afterwards. The floor and support blocks may be called anything, and the work area may be
anywhere. -/
theorem request_confined (settings : Settings) (world : World) (turns : List Turn) (r : Request)
    {p : Position} (hp : p ∉ (workBox (r.perform
      ((Bench.new settings world).play turns)).bench.site.console.center).positions) :
    (r.perform ((Bench.new settings world).play turns)).bench.site.world.blockAt p =
      ((Bench.new settings world).play turns).site.world.blockAt p := by
  have horderly := (Bench.Orderly.new settings world).play turns
  generalize (Bench.new settings world).play turns = b at hp horderly ⊢
  cases hlay : r.isLayOut with
  | true =>
    cases r with
    | layOut dimension center =>
      rw [center_layOut] at hp
      exact confined_layOut dimension center b.site p hp
    | _ => exact absurd hlay Bool.false_ne_true
  | false =>
    obtain ⟨marks, -, hwrote⟩ := Request.exists_wrote hlay horderly
    rw [hwrote.center] at hp
    exact hwrote.confined hp

/-- A center so near to the greatest coordinate that the work area around it is cut off. -/
def edgeCenter : Position := ⟨2147483646, 64, 1000⟩

/-- A world with a block next to the work area around `edgeCenter`. -/
def fencedWorld : World := ({} : World).put ⟨2147483641, 64, 1000⟩ "glass" .empty

/-- A work area is laid out at the edge of the world, with a floor block that is read as another
one, and cannot be finished. -/
theorem request_confined_edgeCenter :
    ⟨2147483641, 64, 1000⟩ ∉ (workBox edgeCenter).positions ∧
      ((Request.layOut 0 edgeCenter).perform ((Bench.new { floorBlock := "stone[" }
        fencedWorld).play [.fail .holdSlot])).bench.site.world.blockAt ⟨2147483641, 64, 1000⟩ =
        some ⟨"minecraft:glass", .empty⟩ := by
  have houtside : ⟨2147483641, 64, 1000⟩ ∉ (workBox edgeCenter).positions := by
    rw [Box.mem_positions]
    decide +kernel
  have hglass : fencedWorld.blockAt ⟨2147483641, 64, 1000⟩ = some ⟨"minecraft:glass", .empty⟩ := by
    have hnamed : Block.named? "glass" .empty = some ⟨"minecraft:glass", .empty⟩ := by
      decide +kernel
    rw [fencedWorld, World.blockAt_put, if_pos rfl, hnamed]
  refine ⟨houtside, (request_confined { floorBlock := "stone[" } fencedWorld [.fail .holdSlot]
    (.layOut 0 edgeCenter) ?_).trans hglass⟩
  rw [center_layOut]
  exact houtside

end BlockConsole
