import BlockConsole.Proofs.Command.Naming
import BlockConsole.Proofs.Space.Volume
import BlockConsole.Proofs.World.Respond

/-!
# What a fill covers

A fill is decided by a number and carried out position by position. The number is the volume of its
box, counted in 64 bits; the positions are listed by three loops over the sorted corners. The two
agree wherever 64 bits suffice (`Box.toNat_volume_of_lt`), so a fill of at most `fillLimit` blocks
puts its block at each position between its corners and nowhere else, and a larger one puts none
(`fill_covers_box`).

The block that is found afterwards is the one that the command names: a command that can be read
back has a canonical block name (`Command.canonical_of_parse_fill`).
-/

namespace BlockConsole

/-- A fill that can be read back names its block canonically. -/
theorem Command.canonical_of_parse_fill {start stop : Position} {block : String}
    {states : BlockStates}
    (h : parse (fill start stop block states).text = .ok (fill start stop block states)) :
    BlockName.canonical block = block := by
  obtain ⟨name, states', hname, hread⟩ := (Puts.fill start stop).exists_withBlock_of_parse h
  obtain rfl : block = name := (fill.inj hread).2.2.1
  exact hname

theorem Block.named?_of_canonical {name : String} (h : BlockName.canonical name = name)
    (states : BlockStates) :
    named? name states = if name = BlockName.air then none else some ⟨name, states⟩ := by
  rw [named?, h]

namespace World

variable {start stop : Position}

/-! ### Applying a fill -/

/-- Whether the volume exceeds the limit is a question about the number of blocks. -/
theorem fillLimit_lt_volume_iff (h : (Box.ofCorners start stop).positions.length < 2 ^ 64) :
    fillLimit < Box.volume start stop ↔ 32768 < (Box.ofCorners start stop).positions.length := by
  have hlimit : fillLimit.toNat = 32768 := rfl
  rw [UInt64.lt_iff_toNat_lt, hlimit, Box.toNat_volume_of_lt start stop h]

section

variable (w : World) (text : String) (timeout : Nat) (block : String) (states : BlockStates)

/-- A fill within the limit puts its block at every position between its corners, and at no other
one. -/
theorem apply_fill_of_le (h : ¬ fillLimit < Box.volume start stop) :
    (∃ a, (w.apply text timeout (.fill start stop block states)).1 = .ok a ∧ a.isSuccess = true) ∧
      ∀ p, (w.apply text timeout (.fill start stop block states)).2.blockAt p =
        if p.Between start stop then Block.named? block states else w.blockAt p := by
  simp only [apply, if_neg h, blockAt_putAll, Box.mem_positions_ofCorners]
  exact ⟨⟨_, rfl, rfl⟩, fun _ => trivial⟩

/-- A fill beyond the limit is acknowledged without success, and leaves the world alone. -/
theorem apply_fill_of_lt (h : fillLimit < Box.volume start stop) :
    (∃ a, (w.apply text timeout (.fill start stop block states)).1 = .ok a ∧ a.successCount = 0) ∧
      (w.apply text timeout (.fill start stop block states)).2 = w := by
  simp only [apply, if_pos h, and_true]
  exact ⟨_, rfl, rfl⟩

end

/-- An acknowledgment that counts no success is the error of the command. -/
theorem sendChecked_of_failure {w : World} {c : Command} {timeout : Nat} {a : Acknowledgment}
    (h : (respond (.send c timeout) w).reply = .ok a) (hcount : a.successCount = 0) :
    (Environment.sendChecked c timeout w).reply = .error (.commandFailed c.text a.summary) := by
  have hfailed : a.isSuccess = false := by simp [Acknowledgment.isSuccess, hcount]
  show c.outcome (respond (.send c timeout) w).reply = _
  rw [h, Command.outcome, hfailed]
  rfl

/-! ### Sending a fill -/

section

variable {block : String} {states : BlockStates} {w : World}
  (hparse : Command.parse (Command.fill start stop block states).text =
    .ok (.fill start stop block states))
  (hfailing : w.failing.contains .send = false)
  (hsize : (Box.ofCorners start stop).positions.length < 2 ^ 64) (timeout : Nat)

include hparse hfailing hsize

theorem respond_fill_of_le (hle : (Box.ofCorners start stop).positions.length ≤ 32768) :
    (∃ a, (respond (.send (.fill start stop block states) timeout) w).reply = .ok a ∧
        a.isSuccess = true) ∧
      ∀ p, (respond (.send (.fill start stop block states) timeout) w).world.blockAt p =
        if p.Between start stop then if block = BlockName.air then none else some ⟨block, states⟩
        else w.blockAt p := by
  have hwithin : ¬ fillLimit < Box.volume start stop :=
    fun hlt => absurd ((fillLimit_lt_volume_iff hsize).mp hlt) (not_lt.mpr hle)
  have hnamed := Block.named?_of_canonical (Command.canonical_of_parse_fill hparse) states
  rw [respond_send_of_parse hparse timeout hfailing]
  obtain ⟨hreply, hblocks⟩ := apply_fill_of_le (w.logged (.fill start stop block states)) _ timeout
    block states hwithin
  refine ⟨hreply, fun p => ?_⟩
  rw [← hnamed]
  exact hblocks p

theorem respond_fill_of_lt (hlt : 32768 < (Box.ofCorners start stop).positions.length) :
    (∃ a, (respond (.send (.fill start stop block states) timeout) w).reply = .ok a ∧
        a.successCount = 0) ∧
      ∀ p, (respond (.send (.fill start stop block states) timeout) w).world.blockAt p =
        w.blockAt p := by
  rw [respond_send_of_parse hparse timeout hfailing]
  obtain ⟨hreply, hsame⟩ := apply_fill_of_lt (w.logged (.fill start stop block states)) _ timeout
    block states ((fillLimit_lt_volume_iff hsize).mpr hlt)
  refine ⟨hreply, fun p => ?_⟩
  dsimp only
  rw [hsame]
  rfl

end

/-- **A fill covers exactly its box.** The positions that lie between two corners are each listed
once, and no other one is, whichever two opposite corners are given; where 64 bits suffice, the
volume is their number. Let a command fill such a box, let it be read back from its text, and let
the world not refuse commands. If there are at most 32768 blocks, then afterwards the block of the
command is found at each of these positions, or nothing if this is air, and everywhere else what was
found before. If there are more, then no block has changed, the acknowledgment counts no success,
and for who insists on success the command has failed. -/
theorem fill_covers_box :
    (∀ start stop : Position,
      (∀ p, (Box.ofCorners start stop).positions.count p =
        if p.Between start stop then 1 else 0) ∧
      ((Box.ofCorners start stop).positions.length < 2 ^ 64 →
        (Box.volume start stop).toNat = (Box.ofCorners start stop).positions.length)) ∧
    ∀ (start stop : Position) (block : String) (states : BlockStates) (w : World) (timeout : Nat),
      let fill := Command.fill start stop block states
      let size := (Box.ofCorners start stop).positions.length
      let r := respond (.send fill timeout) w
      Command.parse fill.text = .ok fill → w.failing.contains .send = false → size < 2 ^ 64 →
        (size ≤ 32768 → (∃ a, r.reply = .ok a ∧ a.isSuccess = true) ∧
          ∀ p, r.world.blockAt p =
            if p.Between start stop then
              if block = BlockName.air then none else some ⟨block, states⟩
            else w.blockAt p) ∧
        (32768 < size → (∀ p, r.world.blockAt p = w.blockAt p) ∧
          ∃ a, r.reply = .ok a ∧ a.successCount = 0 ∧
            (Environment.sendChecked fill timeout w).reply =
              .error (.commandFailed fill.text a.summary)) := by
  refine ⟨fun start stop => ⟨Box.count_positions_ofCorners start stop,
    Box.toNat_volume_of_lt start stop⟩, ?_⟩
  intro start stop block states w timeout fill size r hparse hfailing hsize
  refine ⟨respond_fill_of_le hparse hfailing hsize timeout, fun hlt => ?_⟩
  obtain ⟨⟨a, ha, hcount⟩, hsame⟩ := respond_fill_of_lt hparse hfailing hsize timeout hlt
  exact ⟨hsame, a, ha, hcount, sendChecked_of_failure ha hcount⟩

/-- A wall between two corners in no particular order. -/
def wallCommand : Command :=
  .fill ⟨2, 64, -1⟩ ⟨-1, 66, -1⟩ "minecraft:stone" .empty

/-- A line from one end of the world to the other one. -/
def lineCommand : Command :=
  .fill ⟨.clamp (2 ^ 31 - 1), 64, 0⟩ ⟨.clamp (-2 ^ 31), 64, 0⟩ "minecraft:stone" .empty

/-- The wall is built, whichever of its corners come first. The line is far too long, and the empty
world stays empty. -/
theorem fill_covers_box_wall_line :
    Command.parse wallCommand.text = .ok wallCommand ∧
      Command.parse lineCommand.text = .ok lineCommand ∧
      (∀ p, (respond (.send wallCommand 1000) {}).world.blockAt p =
        if p.Between ⟨2, 64, -1⟩ ⟨-1, 66, -1⟩ then some ⟨"minecraft:stone", .empty⟩ else none) ∧
      (∀ p, (respond (.send lineCommand 1000) {}).world.blockAt p = none) ∧
      ∃ message, (Environment.sendChecked lineCommand 1000 ({} : World)).reply =
        .error (.commandFailed lineCommand.text message) := by
  have hwall : Command.parse wallCommand.text = .ok wallCommand := by decide +kernel
  have hline : Command.parse lineCommand.text = .ok lineCommand := by decide +kernel
  have hempty (p : Position) : ({} : World).blockAt p = none := Std.HashMap.getElem?_empty
  have hstone : "minecraft:stone" ≠ BlockName.air := by decide
  have hsmall : (Box.ofCorners ⟨2, 64, -1⟩ ⟨-1, 66, -1⟩).positions.length = 12 := by
    rw [Box.length_positions_ofCorners]
    decide +kernel
  have hlarge : (Box.ofCorners ⟨.clamp (2 ^ 31 - 1), 64, 0⟩
      ⟨.clamp (-2 ^ 31), 64, 0⟩).positions.length = 2 ^ 32 := by
    rw [Box.length_positions_ofCorners]
    decide +kernel
  obtain ⟨-, hfill⟩ := fill_covers_box
  obtain ⟨-, hbuilt⟩ := (hfill _ _ _ _ {} 1000 hwall rfl (by rw [hsmall]; decide)).1
    (by rw [hsmall]; decide)
  obtain ⟨hsame, a, -, -, hfailed⟩ := (hfill _ _ _ _ {} 1000 hline rfl (by rw [hlarge]; decide)).2
    (by rw [hlarge]; decide)
  refine ⟨hwall, hline, fun p => ?_, fun p => (hsame p).trans (hempty p), _, hfailed⟩
  exact (hbuilt p).trans (by rw [hempty, if_neg hstone])

end World

end BlockConsole
