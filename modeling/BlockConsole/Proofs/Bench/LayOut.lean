import BlockConsole.Proofs.Bench.Move
import BlockConsole.Proofs.Command.Naming

/-!
# What laying out builds

Laying out clears one box and floors another. Where there is room around the center, the boxes hold
the cells that belong there, and that is exactly where no two cells collide
(`cells_apart_iff_hasRoom`).

If laying out succeeds, then the world has become `builtWorld`: the agent stands at the center, the
floor lies in the neighbors below the slots, and every other cell is empty (`ends_buildArea`). That
takes a floor block whose canonical name can stand in a command as it is. With any other name the
floor consists of the block that the command was read as (`ends_buildArea_read`).
-/

namespace BlockConsole

open Work Console

variable {P : Container → Prop} {s s' : Site World}

/-! ### The boxes that are filled -/

/-- The box of the upper layers around a center. -/
def clearBox (center : Position) : Box :=
  .ofCorners (center + (⟨Layout.bounds.1.x, 0, Layout.bounds.1.z⟩ : Offset))
    (center + Layout.bounds.2)

/-- The box of the floor around a center. -/
def floorBox (center : Position) : Box :=
  .ofCorners (center + Layout.bounds.1)
    (center + (⟨Layout.bounds.2.x, Layout.bounds.1.y, Layout.bounds.2.z⟩ : Offset))

section

variable {center : Position} (h : HasRoom center) (c : Cell)

include h

/-- The floor cells are those in the lowest layer. -/
theorem mem_floorBox : c.position center ∈ (floorBox center).positions ↔ c.isFloor = true := by
  obtain ⟨⟨hx, hx₀, hx₁⟩, ⟨hy, hy₀, hy₁, hfloor⟩, hz, hz₀, hz₁⟩ := c.position_val h
  obtain ⟨⟨hlx, hly, hlz⟩, hhx, hhy, hhz⟩ := bounds_val
  obtain ⟨hcx₀, hcx₁, hcy₀, hcy₁, hcz₀, hcz₁⟩ := h
  rw [← hfloor, Box.mem_positions]
  simp only [floorBox, Box.ofCorners, Word.val_min, Word.val_max, Position.x_add, Position.y_add,
    Position.z_add, Word.val_add, Word.val_clamp, hx, hy, hz, hlx, hly, hlz, hhx, hhz]
  omega

/-- The other cells are in the layers above. -/
theorem mem_clearBox : c.position center ∈ (clearBox center).positions ↔ c.isFloor = false := by
  have hzero : (0 : Word).val = 0 := by decide
  obtain ⟨⟨hx, hx₀, hx₁⟩, ⟨hy, hy₀, hy₁, hfloor⟩, hz, hz₀, hz₁⟩ := c.position_val h
  obtain ⟨⟨hlx, hly, hlz⟩, hhx, hhy, hhz⟩ := bounds_val
  obtain ⟨hcx₀, hcx₁, hcy₀, hcy₁, hcz₀, hcz₁⟩ := h
  rw [← Bool.not_eq_true, ← hfloor, Box.mem_positions]
  simp only [clearBox, Box.ofCorners, Word.val_min, Word.val_max, Position.x_add, Position.y_add,
    Position.z_add, Word.val_add, Word.val_clamp, hx, hy, hz, hlx, hlz, hhx, hhy, hhz, hzero]
  omega

end

/-- The box that a command **fills**, if it fills one. -/
def Command.filled? : Command → Option Box
  | .fill start stop _ _ => some (.ofCorners start stop)
  | _ => none

/-- Where a console takes a cell to be. It adds a slot to the center first, and then the step to a
neighbor. -/
def Console.cellPosition (k : Console) : Cell → Position
  | .slot i => k.slotPosition i
  | .neighbor i f => k.slotPosition i + f.offset

/-- **No two cells collide, exactly where there is room.** Around any center whatever, the nine
slots and their neighbors are at 63 different positions if and only if the center is far enough from
the limits of the coordinates. There every cell is where its offset from the center leads in one
step, the floor cells lie in the box that laying out floors, and all others in the box that it
clears. -/
theorem cells_apart_iff_hasRoom (k : Console) :
    (Function.Injective k.cellPosition ↔ HasRoom k.center) ∧
      (HasRoom k.center → ∀ cell : Cell,
        k.cellPosition cell = k.center + cell.offset ∧
          (cell.isFloor = false → ∃ b, (clearCommand k.center).filled? = some b ∧
            k.cellPosition cell ∈ b.positions) ∧
          (cell.isFloor = true →
            ∃ b, (floorCommand k.center k.settings.floorBlock).filled? = some b ∧
              k.cellPosition cell ∈ b.positions)) := by
  have hposition : k.cellPosition = fun cell => cell.position k.center := by
    funext cell
    cases cell <;> rfl
  rw [hposition]
  refine ⟨⟨HasRoom.of_injective, fun h c d heq => Cell.position_inj h heq⟩, fun h cell => ?_⟩
  refine ⟨cell.position_eq_add h, fun hfloor => ?_, fun hfloor => ?_⟩
  · exact ⟨clearBox k.center, rfl, (mem_clearBox h cell).mpr hfloor⟩
  · exact ⟨floorBox k.center, rfl, (mem_floorBox h cell).mpr hfloor⟩

/-- A console whose center is as near to the limits of the coordinates as can be. -/
def corneredConsole : Console :=
  { settings := {}, center := ⟨2147483643, -2147483647, -2147483644⟩ }

theorem cells_apart_iff_hasRoom_cornered :
    HasRoom corneredConsole.center ∧ Function.Injective corneredConsole.cellPosition ∧
      corneredConsole.cellPosition (.neighbor 8 .down) =
        corneredConsole.center + (⟨3, -1, -3⟩ : Offset) := by
  have hroom : HasRoom corneredConsole.center := by constructor <;> decide
  have hdown := ((cells_apart_iff_hasRoom corneredConsole).2 hroom (.neighbor 8 .down)).1
  exact ⟨hroom, (cells_apart_iff_hasRoom corneredConsole).1.mpr hroom, hdown⟩

/-- What is believed of the cells of a work area that was just laid out. -/
theorem believed_laidOut (c : Console) (cell : Cell) :
    (laidOut c).believed cell =
      if cell.isFloor then .markerOf c.settings.floorBlock else .air := by
  cases cell with
  | slot i => simp [believed, slot, laidOut, Cell.isFloor]
  | neighbor i f =>
    have hrow : (laidOut c).believed (.neighbor i f) =
        (neighborsOver c.settings.floorBlock)[f.index] := by
      simp [believed, neighbor, laidOut]
    rw [hrow, neighborsOver, Fin.getElem_fin, Vector.getElem_set, Vector.getElem_replicate]
    cases f <;> rfl

/-! ### The world that is built -/

/-- The world after a work area was laid out around a center. -/
def builtWorld (settings : Settings) (center : Position) (w : World) : World :=
  { ((((w.after (.gameMode settings.gameMode)).after (.teleport center)).after
      (clearCommand center)).after (floorCommand center settings.floorBlock)).after .clearInventory
    with held := 0 }

/-- The command that fills the floor around a center with a block as it is. -/
def floorFill (center : Position) (name : String) (states : BlockStates) : Command :=
  .fill (center + Layout.bounds.1)
    (center + (⟨Layout.bounds.2.x, Layout.bounds.1.y, Layout.bounds.2.z⟩ : Offset)) name states

/-- The world after a work area was laid out, where the command that lays the floor was read as
filling it with any block. -/
def builtOver (settings : Settings) (center : Position) (name : String) (states : BlockStates)
    (w : World) : World :=
  { ((((w.after (.gameMode settings.gameMode)).after (.teleport center)).after
      (clearCommand center)).after (floorFill center name states)).after .clearInventory
    with held := 0 }

/-- What is found at a position of a world that was built. -/
theorem blockAt_builtOver (settings : Settings) (center : Position) (name : String)
    (states : BlockStates) (w : World) (p : Position) :
    (builtOver settings center name states w).blockAt p =
      if p ∈ (floorBox center).positions then Block.named? name states
      else if p ∈ (clearBox center).positions then none
      else w.blockAt p := by
  have hair : Block.named? (BlockName.canonical BlockName.air) .empty = none := by
    rw [Block.named?_canonical, Block.named?_air]
  show (((w.after (.gameMode settings.gameMode)).after (.teleport center)).putAll
    (clearBox center).positions (BlockName.canonical BlockName.air) .empty |>.putAll
      (floorBox center).positions name states).blockAt p = _
  rw [World.blockAt_putAll, World.blockAt_putAll, hair]
  rfl

/-- The floor lies in the cells that are part of it, and the others are empty. -/
theorem blockAt_builtOver_cell {center : Position} (h : HasRoom center) (settings : Settings)
    (name : String) (states : BlockStates) (w : World) (cell : Cell) :
    (builtOver settings center name states w).blockAt (cell.position center) =
      if cell.isFloor then Block.named? name states else none := by
  rw [blockAt_builtOver]
  cases hfloor : cell.isFloor with
  | true => rw [if_pos ((mem_floorBox h cell).mpr hfloor), if_pos rfl]
  | false =>
    have hnot : cell.position center ∉ (floorBox center).positions := by
      rw [mem_floorBox h cell, hfloor]
      decide
    rw [if_neg hnot, if_pos ((mem_clearBox h cell).mpr hfloor), if_neg (by decide)]

theorem blockAt_builtWorld (settings : Settings) (center : Position) (w : World) (p : Position) :
    (builtWorld settings center w).blockAt p =
      if p ∈ (floorBox center).positions then Block.named? settings.floorBlock .empty
      else if p ∈ (clearBox center).positions then none
      else w.blockAt p := by
  rw [← Block.named?_canonical]
  exact blockAt_builtOver settings center (BlockName.canonical settings.floorBlock) .empty w p

/-- Apart from the blocks, laying out sets the game mode, the player and the hotbar slot in hand. -/
theorem rebuilt_builtOver (settings : Settings) (center : Position) (name : String)
    (states : BlockStates) (w : World) :
    World.Rebuilt { w with gameMode := settings.gameMode, player := center, held := 0 }
      (builtOver settings center name states w) := by
  have hclear := World.rebuilt_putAll ((w.after (.gameMode settings.gameMode)).after
    (.teleport center)) (clearBox center).positions (BlockName.canonical BlockName.air) .empty
  have hfloor := hclear.trans (World.rebuilt_putAll _ (floorBox center).positions name states)
  obtain ⟨blocks, hblocks⟩ := hfloor
  exact ⟨blocks, congrArg (fun v : World => { v with held := 0 }) hblocks⟩

theorem rebuilt_builtWorld (settings : Settings) (center : Position) (w : World) :
    World.Rebuilt { w with gameMode := settings.gameMode, player := center, held := 0 }
      (builtWorld settings center w) :=
  rebuilt_builtOver settings center (BlockName.canonical settings.floorBlock) .empty w

/-! ### Laying out with success -/

/-- A command that was sent with success has been read and applied. -/
theorem exists_read_of_ends {c : Command} {timeout : Nat} (h : Ends (sendChecked c timeout) s s') :
    s'.console = s.console ∧
      ∃ read, Command.parse c.text = .ok read ∧ World.Alike (s.world.after read) s'.world := by
  obtain ⟨⟨a, ha⟩, rfl⟩ := h
  rw [run_sendChecked] at ha ⊢
  refine ⟨rfl, ?_⟩
  cases hout : c.outcome (Environment.respond (.send c timeout) s.world).reply with
  | error e =>
    rw [hout] at ha
    exact absurd ha (by simp)
  | ok a' => exact World.exists_read_of_outcome_ok hout

/-- A command that can be read back has been applied as it is. -/
theorem ends_sendChecked {c : Command} (hc : c.Readable) {timeout : Nat}
    (h : Ends (sendChecked c timeout) s s') :
    s'.console = s.console ∧ World.Alike (s.world.after c) s'.world := by
  obtain ⟨hconsole, read, hread, halike⟩ := exists_read_of_ends h
  obtain rfl : c = read := Except.ok.inj ((Command.parse_text hc).symm.trans hread)
  exact ⟨hconsole, halike⟩

theorem ends_teleport {target : Position} (h : Ends (teleport target) s s') :
    s'.console = s.console.movedTo target ∧
      World.Alike (s.world.after (.teleport target)) s'.world := by
  obtain ⟨⟨a, ha⟩, rfl⟩ := h
  cases hout : teleportOutcome s target with
  | error e =>
    rw [run_teleport_of_error hout] at ha
    exact absurd ha (by simp)
  | ok a' =>
    rw [run_teleport_of_ok hout]
    exact ⟨rfl, World.after_of_outcome_ok (c := .teleport target) trivial hout⟩

theorem ends_holdSlot {slot : Nat} (h : Ends (Work.act (.holdSlot slot)) s s') :
    s'.console = s.console ∧ World.Alike { s.world with held := slot } s'.world := by
  obtain ⟨⟨a, ha⟩, rfl⟩ := h
  rw [run_act] at ha ⊢
  refine ⟨rfl, ?_⟩
  cases hr : (Environment.respond (.holdSlot slot) s.world).reply with
  | error e =>
    rw [hr] at ha
    exact absurd ha (by simp)
  | ok x => exact World.held_of_holdSlot hr

/-- A floor block is **plain** if its canonical name can stand in a command as it is. -/
def PlainFloor (settings : Settings) : Prop :=
  Plain (BlockName.canonical settings.floorBlock).toList

theorem writable_of_plain {name : String} (h : Plain (BlockName.canonical name).toList) :
    Writable (BlockName.canonical name) .empty :=
  ⟨BlockName.canonical_canonical name, h, BlockStates.quotable_empty⟩

theorem readable_clearCommand (center : Position) : (clearCommand center).Readable :=
  writable_of_plain (by decide +kernel)

theorem readable_floorCommand {settings : Settings} (h : PlainFloor settings)
    (center : Position) : (floorCommand center settings.floorBlock).Readable :=
  writable_of_plain h

/-- Whatever the floor block is called, the command that lays the floor is read as filling the floor
with some block, if it is read at all. -/
theorem exists_floorFill_of_parse {center : Position} {floorBlock : String} {read : Command}
    (h : Command.parse (floorCommand center floorBlock).text = .ok read) :
    ∃ name states, BlockName.canonical name = name ∧ read = floorFill center name states :=
  (Command.Puts.fill _ _).exists_withBlock_of_parse h

/-- If the area was built, then the console is the one over a new work area, and the world is the
one that its commands make, as they were read. -/
theorem ends_buildArea_read {settings : Settings} {dimension : Word} {center : Position}
    (h : Ends (buildArea settings dimension center) s s') :
    s'.console = laidOut (s.console.movedTo center) ∧
      ∃ name states, BlockName.canonical name = name ∧
        Command.parse (floorCommand center settings.floorBlock).text =
          .ok (floorFill center name states) ∧
        World.Alike (builtOver settings center name states s.world) s'.world := by
  -- What is said leaves the site alone; each step after it makes its own change.
  obtain ⟨s₁, ⟨-, h₁⟩, h⟩ := h.seq
  obtain ⟨s₂, ⟨-, h₂⟩, h⟩ := h.seq
  obtain rfl : s = s₁ := h₁
  obtain rfl : s = s₂ := h₂
  obtain ⟨s₃, h₃, h⟩ := h.seq
  obtain ⟨s₄, h₄, h⟩ := h.seq
  obtain ⟨s₅, h₅, h⟩ := h.seq
  obtain ⟨s₆, h₆, h⟩ := h.seq
  obtain ⟨s₇, h₇, h⟩ := h.seq
  obtain ⟨s₈, h₈, h⟩ := h.seq
  obtain ⟨s₉, ⟨-, h₉⟩, h⟩ := h.seq
  obtain ⟨hc₃, hw₃⟩ := ends_sendChecked (c := .gameMode settings.gameMode) trivial h₃
  obtain ⟨hc₄, hw₄⟩ := ends_teleport h₄
  obtain ⟨hc₅, hw₅⟩ := ends_sendChecked (readable_clearCommand center) h₅
  obtain ⟨hc₆, read, hread, hw₆⟩ := exists_read_of_ends h₆
  obtain ⟨name, states, hname, rfl⟩ := exists_floorFill_of_parse hread
  obtain ⟨hc₇, hw₇⟩ := ends_sendChecked (c := .clearInventory) trivial h₇
  obtain ⟨hc₈, hw₈⟩ := ends_holdSlot h₈
  obtain rfl : ⟨laidOut s₈.console, s₈.world⟩ = s₉ := h₉
  obtain rfl : ⟨laidOut s₈.console, s₈.world⟩ = s' := h.2
  refine ⟨?_, name, states, hname, hread, ?_⟩
  · show laidOut s₈.console = _
    rw [hc₈, hc₇, hc₆, hc₅, hc₄, hc₃]
  · have hw := ((((hw₃.after _).trans hw₄).after _).trans hw₅).after (floorFill center name states)
    have hheld := ((hw.trans hw₆).after .clearInventory).trans hw₇
    exact (hheld.hold 0).trans hw₈

/-- If laying out succeeds, then the area was built. -/
theorem ends_of_layOut {dimension : Word} {center : Position} {x : Unit}
    (h : ((layOut dimension center).run s).result = .ok x) :
    Ends (buildArea s.console.settings dimension center) (relocatedSite s dimension center)
      ((layOut dimension center).run s).site := by
  cases hsafe : isUnsafeCenter s.console.settings center with
  | true =>
    rw [run_layOut_refused hsafe] at h
    exact absurd h (by simp)
  | false =>
    rw [run_layOut_of_safe hsafe] at h ⊢
    exact ⟨⟨x, h⟩, rfl⟩

/-- A plain floor block is laid as it is. -/
theorem ends_buildArea {settings : Settings} (hfloor : PlainFloor settings) {dimension : Word}
    {center : Position} (h : Ends (buildArea settings dimension center) s s') :
    s'.console = laidOut (s.console.movedTo center) ∧
      World.Alike (builtWorld settings center s.world) s'.world := by
  obtain ⟨hconsole, name, states, -, hread, halike⟩ := ends_buildArea_read h
  have hself := Command.parse_text (readable_floorCommand hfloor center)
  obtain ⟨-, -, rfl, rfl⟩ := Command.fill.inj (Except.ok.inj (hself.symm.trans hread))
  exact ⟨hconsole, halike⟩

end BlockConsole
