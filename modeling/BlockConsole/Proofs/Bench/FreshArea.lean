import BlockConsole.Proofs.Bench.LayOut
import BlockConsole.Proofs.Space.Volume
import BlockConsole.Proofs.World.Agent

/-!
# A fresh work area

Over an obliging world laying out fails only at a center too near to the origin, and then it takes
no action. Otherwise every step of it succeeds, and four commands are sent besides a teleport
(`sends_buildArea`): the commands can be read back, and both boxes are far smaller than what one
fill may cover. Whatever stood there before, the work area is `Fresh` afterwards, in memory and in
the world, and outside the working volume nothing has changed (`layOut_freshens`).
-/

namespace BlockConsole

open Work Console

variable {s s' : Site World}

/-! ### Success in an obliging world -/

section

variable {α β : Type}

/-- Work **succeeds** at a site if it ends with a result and leaves an obliging world. -/
def Succeeds (w : Work World Failure α) (s : Site World) : Prop :=
  (∃ a, (w.run s).result = .ok a) ∧ (w.run s).site.world.Obliging

/-- Work that succeeds, followed by work that succeeds in the obliging world it leaves. -/
theorem Succeeds.bind {w : Work World Failure α} {f : α → Work World Failure β}
    (hw : Succeeds w s)
    (hf : ∀ a s₁, s₁.world.Obliging → Succeeds (f a) s₁) : Succeeds (w >>= f) s := by
  obtain ⟨⟨a, ha⟩, hobliging⟩ := hw
  rw [Succeeds, run_bind, ha]
  exact hf a _ hobliging

end

theorem succeeds_sendChecked (hw : s.world.Obliging) {c : Command} (hc : c.Readable)
    (hmodest : c.Modest) (timeout : Nat) : Succeeds (sendChecked c timeout) s := by
  obtain ⟨a, ha⟩ := hw.outcome_send hc hmodest timeout
  have hout : c.outcome (Environment.respond (.send c timeout) s.world).reply = .ok a := ha
  rw [Succeeds, run_sendChecked, hout]
  exact ⟨⟨a, rfl⟩, (World.after_of_outcome_ok hc ha).obliging (hw.after c)⟩

theorem succeeds_teleport (hw : s.world.Obliging) (target : Position) :
    Succeeds (teleport target) s := by
  obtain ⟨a, ha⟩ := hw.outcome_send (c := .teleport target) trivial trivial
    s.console.settings.teleportTimeout
  have hrun := run_teleport_of_ok ha
  rw [Succeeds, hrun]
  have halike := World.after_of_outcome_ok (c := .teleport target) trivial ha
  exact ⟨⟨(), rfl⟩, halike.obliging (hw.after (.teleport target))⟩

theorem succeeds_holdSlot (hw : s.world.Obliging) {slot : Nat} (hslot : slot < World.hotbarSlots) :
    Succeeds (act (.holdSlot slot)) s := by
  have hr : (Environment.respond (.holdSlot slot) s.world).reply = .ok () :=
    hw.reply_holdSlot hslot
  rw [Succeeds, run_act, hr]
  have hheld : World.Obliging { s.world with held := slot } := ⟨hw.failing, hw.teleports⟩
  exact ⟨⟨(), rfl⟩, (World.held_of_holdSlot hr).obliging hheld⟩

/-- A fill is modest if its corners are at most eight blocks apart along each axis. -/
theorem modest_fillWith {start stop : Position} (name : String)
    (hx : (start.x.val - stop.x.val).natAbs ≤ 8) (hy : (start.y.val - stop.y.val).natAbs ≤ 8)
    (hz : (start.z.val - stop.z.val).natAbs ≤ 8) : (Command.fillWith start stop name).Modest := by
  show Box.volume start stop ≤ World.fillLimit
  have hyz := Nat.mul_le_mul (Nat.succ_le_succ hy) (Nat.succ_le_succ hz)
  have hsize := Nat.mul_le_mul (Nat.succ_le_succ hx) hyz
  rw [← Box.length_positions_ofCorners start stop] at hsize
  rw [UInt64.le_iff_toNat_le, Box.toNat_volume_of_lt start stop (hsize.trans_lt (by decide))]
  exact hsize.trans (by decide)

/-- So is a fill of the working volume between two heights. -/
theorem modest_layers (center : Position) {low high : Word} (name : String)
    (hy : (low.val - high.val).natAbs ≤ 8) :
    (Command.fillWith ⟨center.x + Layout.bounds.1.x, low, center.z + Layout.bounds.1.z⟩
      ⟨center.x + Layout.bounds.2.x, high, center.z + Layout.bounds.2.z⟩ name).Modest := by
  obtain ⟨⟨hlx, -, hlz⟩, hhx, -, hhz⟩ := bounds_val
  refine modest_fillWith name ?_ hy ?_
  · simp only [Word.val_add, Word.val_clamp, hlx, hhx]
    omega
  · simp only [Word.val_add, Word.val_clamp, hlz, hhz]
    omega

theorem modest_clearCommand (center : Position) : (clearCommand center).Modest := by
  have hzero : (0 : Word).val = 0 := by decide
  have hlayers : ((center.y + 0).val - (center.y + Layout.bounds.2.y).val).natAbs ≤ 8 := by
    simp only [Word.val_add, Word.val_clamp, hzero, bounds_val.2.2.1]
    omega
  exact modest_layers center _ hlayers

theorem modest_floorCommand (center : Position) (floorBlock : String) :
    (floorCommand center floorBlock).Modest := by
  have hlayer : ((center.y + Layout.bounds.1.y).val -
      (center.y + Layout.bounds.1.y).val).natAbs ≤ 8 := by
    omega
  exact modest_layers center floorBlock hlayer

/-- Work **sends** so many commands besides teleports, and succeeds. -/
def Sends {α : Type} (n : Int) (w : Work World Failure α) (s : Site World) : Prop :=
  Succeeds w s ∧ (w.run s).site.world.surplus = s.world.surplus + n

theorem Sends.bind {α β : Type} {m n : Int} {w : Work World Failure α}
    {f : α → Work World Failure β} (hw : Sends m w s)
    (hf : ∀ a s₁, s₁.world.Obliging → Sends n (f a) s₁) : Sends (m + n) (w >>= f) s := by
  obtain ⟨hsucceeds, hsurplus⟩ := hw
  refine ⟨hsucceeds.bind fun a s₁ h => (hf a s₁ h).1, ?_⟩
  obtain ⟨⟨a, ha⟩, hobliging⟩ := hsucceeds
  have hrest := (hf a (w.run s).site hobliging).2
  rw [run_bind, ha]
  simp only [Outcome.after_site, hrest, hsurplus, add_assoc]

theorem sends_sendChecked (hw : s.world.Obliging) {c : Command} (hc : c.Readable)
    (hmodest : c.Modest) (hother : ∀ target, c ≠ .teleport target) (timeout : Nat) :
    Sends 1 (sendChecked c timeout) s := by
  refine ⟨succeeds_sendChecked hw hc hmodest timeout, ?_⟩
  rw [run_sendChecked]
  exact World.surplus_send hw hc hother timeout

theorem sends_teleport (hw : s.world.Obliging) (target : Position) :
    Sends 0 (teleport target) s := by
  obtain ⟨a, ha⟩ := hw.outcome_send (c := .teleport target) trivial trivial
    s.console.settings.teleportTimeout
  refine ⟨succeeds_teleport hw target, ?_⟩
  have hrun := run_teleport_of_ok ha
  rw [hrun, add_zero]
  exact World.surplus_teleport hw target _

theorem sends_holdSlot (hw : s.world.Obliging) {slot : Nat} (hslot : slot < World.hotbarSlots) :
    Sends 0 (act (.holdSlot slot)) s := by
  refine ⟨succeeds_holdSlot hw hslot, ?_⟩
  rw [run_act, add_zero]
  exact (World.sameAgent_respond (a := .holdSlot slot) (by simp [Action.kind]) s.world).surplus

/-- Over an obliging world the work area is built, by four commands and a teleport. -/
theorem sends_buildArea (hw : s.world.Obliging) {settings : Settings}
    (hfloor : PlainFloor settings) (dimension : Word) (center : Position) :
    Sends 4 (buildArea settings dimension center) s := by
  have hmode : (Command.gameMode settings.gameMode).Readable := trivial
  have hinventory : Command.clearInventory.Readable := trivial
  have hquiet {w : Work World Failure Unit} {s₁ : Site World} {c : Console} {events : List Event}
      (hrun : w.run s₁ = ⟨.ok (), { s₁ with console := c }, events⟩) (h : s₁.world.Obliging) :
      Sends 0 w s₁ := by
    rw [Sends, Succeeds, hrun]
    exact ⟨⟨⟨(), rfl⟩, h⟩, (add_zero _).symm⟩
  -- One summand for each step: of the five commands only the teleport does not count.
  have hchain : Sends (0 + (0 + (1 + (0 + (1 + (1 + (1 + (0 + (0 + 0)))))))))
      (buildArea settings dimension center) s := by
    refine .bind (hquiet rfl hw) fun _ s₁ h₁ => .bind (hquiet rfl h₁) fun _ s₂ h₂ => ?_
    refine .bind (sends_sendChecked h₂ hmode trivial (by simp) _) fun _ s₃ h₃ => ?_
    refine .bind (sends_teleport h₃ center) fun _ s₄ h₄ => ?_
    refine .bind (sends_sendChecked h₄ (readable_clearCommand center)
      (modest_clearCommand center) (by simp [clearCommand, Command.fillWith]) _) fun _ s₅ h₅ => ?_
    refine .bind (sends_sendChecked h₅ (readable_floorCommand hfloor center)
      (modest_floorCommand center _) (by simp [floorCommand, Command.fillWith]) _)
      fun _ s₆ h₆ => ?_
    refine .bind (sends_sendChecked h₆ hinventory trivial (by simp) _) fun _ s₇ h₇ => ?_
    refine .bind (sends_holdSlot h₇ (by decide)) fun _ s₈ h₈ => ?_
    exact .bind (hquiet rfl h₈) fun _ s₉ h₉ => hquiet rfl h₉
  exact hchain

theorem succeeds_buildArea (hw : s.world.Obliging) {settings : Settings}
    (hfloor : PlainFloor settings) (dimension : Word) (center : Position) :
    Succeeds (buildArea settings dimension center) s :=
  (sends_buildArea hw hfloor dimension center).1

/-! ### What was built -/

/-- A position is **within the working volume** around a center if it is at most four blocks away
along the horizontal axes and at most one block along the vertical one. -/
def InVolume (center p : Position) : Prop :=
  (p.x.val - center.x.val).natAbs ≤ 4 ∧ (p.y.val - center.y.val).natAbs ≤ 1 ∧
    (p.z.val - center.z.val).natAbs ≤ 4

/-- An offset moves a position by no more than itself. -/
theorem inVolume_add {center : Position} {d : Offset} (hx : d.x.val.natAbs ≤ 4)
    (hy : d.y.val.natAbs ≤ 1) (hz : d.z.val.natAbs ≤ 4) : InVolume center (center + d) := by
  have moved (a e : Word) : ((a + e).val - a.val).natAbs ≤ e.val.natAbs := by
    have hmin := a.min_le
    have hmax := a.le_max
    rw [Word.val_add, Word.val_clamp]
    omega
  exact ⟨(moved _ d.x).trans hx, (moved _ d.y).trans hy, (moved _ d.z).trans hz⟩

/-- The working volume contains every box that has two opposite corners in it. -/
theorem InVolume.of_mem {center a b p : Position} (ha : InVolume center a) (hb : InVolume center b)
    (hp : p ∈ (Box.ofCorners a b).positions) : InVolume center p := by
  obtain ⟨⟨hx₀, hx₁⟩, ⟨hy₀, hy₁⟩, hz₀, hz₁⟩ := Box.mem_positions.mp hp
  have between {n : Nat} {c u v q : Word} (hu : (u.val - c.val).natAbs ≤ n)
      (hv : (v.val - c.val).natAbs ≤ n) (h₀ : (min u v).val ≤ q.val)
      (h₁ : q.val ≤ (max u v).val) : (q.val - c.val).natAbs ≤ n := by
    rw [Word.val_min] at h₀
    rw [Word.val_max] at h₁
    omega
  exact ⟨between ha.1 hb.1 hx₀ hx₁, between ha.2.1 hb.2.1 hy₀ hy₁, between ha.2.2 hb.2.2 hz₀ hz₁⟩

/-- Both boxes that are filled lie within the working volume. -/
theorem inVolume_of_mem {center p : Position}
    (h : p ∈ (floorBox center).positions ∨ p ∈ (clearBox center).positions) :
    InVolume center p := by
  obtain hfloor | hclear := h
  · have hlow : InVolume center (center + Layout.bounds.1) :=
      inVolume_add (by decide +kernel) (by decide +kernel) (by decide +kernel)
    have hhigh : InVolume center
        (center + (⟨Layout.bounds.2.x, Layout.bounds.1.y, Layout.bounds.2.z⟩ : Offset)) :=
      inVolume_add (by decide +kernel) (by decide +kernel) (by decide +kernel)
    rw [floorBox] at hfloor
    exact hlow.of_mem hhigh hfloor
  · have hlow : InVolume center
        (center + (⟨Layout.bounds.1.x, 0, Layout.bounds.1.z⟩ : Offset)) :=
      inVolume_add (by decide +kernel) (by decide +kernel) (by decide +kernel)
    have hhigh : InVolume center (center + Layout.bounds.2) :=
      inVolume_add (by decide +kernel) (by decide +kernel) (by decide +kernel)
    rw [clearBox] at hclear
    exact hlow.of_mem hhigh hclear

/-- A work area is **fresh**: it was just laid out around a center, in memory and in the world, and
the world outside it is as it was. -/
structure Fresh (settings : Settings) (dimension : Word) (center : Position) (before : World)
    (s : Site World) : Prop where
  ready : s.console.initialized = true ∧ s.console.dimension = dimension ∧ s.console.center = center
  slot : ∀ i : Slot, s.console.slot i = .air ∧ s.world.blockAt (s.console.slotPosition i) = none
  neighbor : ∀ (i : Slot) (f : Facing), f ≠ .down → s.console.neighbor i f = .air ∧
    s.world.blockAt (s.console.slotPosition i + f.offset) = none
  floor : ∀ i : Slot, s.console.neighbor i .down = .markerOf settings.floorBlock ∧
    s.world.blockAt (s.console.slotPosition i + Facing.down.offset) =
      Block.named? settings.floorBlock .empty
  position : s.console.position = center ∧ s.world.player = center
  hotbar : s.console.hotbarSlot = 0 ∧ s.world.held = 0
  inventory : ∀ place : Fin inventorySize, s.console.inventory[place] = false
  gameMode : s.world.gameMode = settings.gameMode
  outside : ∀ p, ¬InVolume center p → s.world.blockAt p = before.blockAt p

/-- What was built is fresh. -/
theorem fresh_built {c : Console} {settings : Settings} {dimension : Word} {center : Position}
    {w w' : World} (hroom : HasRoom center) (hsettings : c.settings = settings)
    (hdimension : c.dimension = dimension) (hcenter : c.center = center)
    (hposition : c.position = center)
    (h : World.Alike (builtWorld settings center w) w') :
    Fresh settings dimension center w ⟨laidOut c, w'⟩ := by
  subst hcenter
  have hrebuilt := rebuilt_builtWorld settings c.center w
  have hcell (cell : Cell) : (laidOut c).believed cell =
        (if cell.isFloor then .markerOf settings.floorBlock else .air) ∧
      w'.blockAt (cell.position c.center) =
        if cell.isFloor then Block.named? settings.floorBlock .empty else none := by
    refine ⟨hsettings ▸ believed_laidOut c cell, ?_⟩
    rw [h.blockAt, ← Block.named?_canonical settings.floorBlock]
    exact blockAt_builtOver_cell hroom settings (BlockName.canonical settings.floorBlock) .empty w
      cell
  constructor
  · exact ⟨rfl, hdimension, rfl⟩
  · exact fun i => hcell (.slot i)
  · intro i f hf
    have hnot : (Cell.neighbor i f).isFloor = false := by
      cases f <;> first | rfl | exact absurd rfl hf
    have hboth := hcell (.neighbor i f)
    rw [hnot] at hboth
    exact hboth
  · exact fun i => hcell (.neighbor i .down)
  · exact ⟨hposition, h.player.trans hrebuilt.player⟩
  · exact ⟨rfl, h.held.trans hrebuilt.held⟩
  · intro place
    simp [laidOut]
  · exact h.gameMode.trans hrebuilt.gameMode
  · intro p hp
    have hfloor : p ∉ (floorBox c.center).positions := fun hmem => hp (inVolume_of_mem (.inl hmem))
    have hclear : p ∉ (clearBox c.center).positions := fun hmem => hp (inVolume_of_mem (.inr hmem))
    show w'.blockAt p = w.blockAt p
    rw [h.blockAt, blockAt_builtWorld, if_neg hfloor, if_neg hclear]

/-- A center is **too near** to the origin of the world if both its horizontal coordinates are
nearer to zero than the settings allow. -/
def TooNear (settings : Settings) (center : Position) : Prop :=
  center.x.val.natAbs < settings.originExclusionRadius ∧
    center.z.val.natAbs < settings.originExclusionRadius

theorem isUnsafeCenter_iff {settings : Settings} {center : Position} :
    isUnsafeCenter settings center = true ↔ TooNear settings center := by
  simp [isUnsafeCenter, TooNear]

/-- **Laying out freshens the work area.** Over an obliging world, whatever it and the console have
in them, laying out is refused exactly if the center is too near to the origin, and then it takes
no action; and otherwise it succeeds, and the work area is fresh. -/
theorem layOut_freshens (hw : s.world.Obliging) (hfloor : PlainFloor s.console.settings)
    {center : Position} (hroom : HasRoom center) (dimension : Word) :
    (((layOut dimension center).run s).result =
        .error (.error (.unsafeCenter center s.console.settings.originExclusionRadius)) ↔
      TooNear s.console.settings center) ∧
    (TooNear s.console.settings center →
      ((layOut dimension center).run s).events = [] ∧
        ((layOut dimension center).run s).site.world = s.world) ∧
    (¬TooNear s.console.settings center →
      ((layOut dimension center).run s).result = .ok () ∧
        Fresh s.console.settings dimension center s.world
          ((layOut dimension center).run s).site) := by
  rw [← isUnsafeCenter_iff]
  cases hsafe : isUnsafeCenter s.console.settings center with
  | true =>
    rw [run_layOut_refused hsafe]
    exact ⟨iff_of_true rfl rfl, fun _ => ⟨rfl, rfl⟩, fun hnot => absurd rfl hnot⟩
  | false =>
    obtain ⟨⟨x, hok⟩, -⟩ := succeeds_buildArea (s := relocatedSite s dimension center) hw hfloor
      dimension center
    obtain ⟨hconsole, hworld⟩ := ends_buildArea hfloor ⟨⟨x, hok⟩, rfl⟩
    have hfresh := fresh_built (c := (s.console.relocated dimension center).movedTo center)
      hroom rfl rfl rfl rfl hworld
    rw [run_layOut_of_safe hsafe, hok]
    refine ⟨iff_of_false (by simp) (by decide), fun h => absurd h (by decide), fun _ => ⟨rfl, ?_⟩⟩
    -- From here on it does not matter how the console and the world came to be like this.
    generalize ((buildArea s.console.settings dimension center).run
      (relocatedSite s dimension center)).site = s' at hconsole hfresh
    obtain ⟨c', w'⟩ := s'
    obtain rfl : c' = _ := hconsole
    exact hfresh

/-- A world in use: one block inside the working volume around `farCenter`, one outside of it, and
another hotbar slot in hand. -/
def usedWorld : World :=
  { ((({} : World).put ⟨2147483647, -2147483646, -4⟩ "dirt" .empty).put ⟨0, 70, 0⟩ "glass"
      .empty) with held := 5 }

/-- A center as far to one side and as far down as there is room for a working volume. -/
def farCenter : Position := ⟨2147483643, -2147483647, 0⟩

theorem layOut_freshens_farCenter :
    usedWorld.Obliging ∧ PlainFloor {} ∧ HasRoom farCenter ∧ ¬TooNear {} farCenter ∧
      ((layOut 1 farCenter).run ⟨{ settings := {} }, usedWorld⟩).result = .ok () ∧
      Fresh {} 1 farCenter usedWorld
        ((layOut 1 farCenter).run ⟨{ settings := {} }, usedWorld⟩).site := by
  have hobliging : usedWorld.Obliging := ⟨by decide +kernel, by decide +kernel⟩
  have hfloor : PlainFloor {} := by
    unfold PlainFloor
    decide +kernel
  have hroom : HasRoom farCenter := by constructor <;> decide
  have hfar : ¬TooNear {} farCenter := by
    unfold TooNear
    decide
  exact ⟨hobliging, hfloor, hroom, hfar,
    (layOut_freshens (s := ⟨{ settings := {} }, usedWorld⟩) hobliging hfloor hroom 1).2.2 hfar⟩

end BlockConsole
