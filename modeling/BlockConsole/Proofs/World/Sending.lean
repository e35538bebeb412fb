import BlockConsole.Proofs.Command.Naming
import BlockConsole.Proofs.World.Respond

/-!
# Which command a world applies

A world applies what the text of a command is read as. For a command that can be read back that is
the command itself, however its text is spaced, and a block that is placed by a command is the
block that the action of its own places (`spelled_command_is_applied`).

A command that fills a box or places a block is built from a name that may be any text. What its
text is read as, if it is read at all, is the command itself exactly if the quotes and brackets of
the canonical name are balanced (`accepted_block_command_iff`).
-/

namespace BlockConsole.World

open Command (Spells fillWith placeNamed)

/-! ### Commands that can be read back -/

/-- A block is placed by a command as it is by the action of its own. -/
theorem blocks_send_eq_blocks_placeBlock {pos : Position} {block : String} {states : BlockStates}
    (hc : Writable block states) (w : World) (timeout : Nat)
    (h : w.failing.contains Action.Kind.send = w.failing.contains Action.Kind.placeBlock) :
    (respond (.send (.setBlock pos block states) timeout) w).world.blocks =
      (respond (.placeBlock pos block states.text) w).world.blocks := by
  cases hfail : w.failing.contains Action.Kind.placeBlock with
  | true =>
    rw [respond_of_failing (h.trans hfail), respond_of_failing hfail]
    rfl
  | false =>
    have hread := BlockStates.parse_text hc.quotable.faithful
    have hplaced := (respond_placeBlock hread pos block hfail).2.blocks
    have hsent : Alike (w.put pos block states)
        (respond (.send (.setBlock pos block states) timeout) w).world := by
      have hreadable : (Command.setBlock pos block states).Readable := hc
      rw [respond_send hreadable timeout (h.trans hfail)]
      exact (alike_logged w _).put pos block states
    rw [hsent.blocks, hplaced, hc.canonical]

/-- **A command is applied as it is, however it is spelled.** Every text that spells a command that
can be read back is read as the command. So a world that does not refuse commands applies the
command itself, and it puts a block by a command as it does by the action that places a block. -/
theorem spelled_command_is_applied {c : Command} (hc : c.Readable) :
    (∀ s, c.Spells s → Command.parse s = .ok c) ∧
      (∀ (w : World) (timeout : Nat), respond (.send c timeout) w =
        if w.failing.contains Action.Kind.send then
          ⟨.error (.rejected Action.Kind.send.name "injected failure"), w.count .send, []⟩
        else
          ⟨((w.logged c).apply c.text timeout c).1, ((w.logged c).apply c.text timeout c).2, []⟩) ∧
      ∀ {pos block states}, c = .setBlock pos block states → ∀ (w : World) (timeout : Nat),
        w.failing.contains Action.Kind.send = w.failing.contains Action.Kind.placeBlock →
          (respond (.send c timeout) w).world.blocks =
            (respond (.placeBlock pos block states.text) w).world.blocks := by
  refine ⟨fun s hs => Command.parse_of_spells hc hs, fun w timeout => ?_, ?_⟩
  · split
    · next hfail => exact respond_of_failing hfail
    · next hfail => exact respond_send hc timeout (by simpa using hfail)
  · rintro pos block states rfl w timeout hfail
    exact blocks_send_eq_blocks_placeBlock hc w timeout hfail

/-- A sign whose states hold what looks like the syntax around them. -/
def signCommand : Command :=
  .setBlock ⟨-3, 64, 1000⟩ "minecraft:sign"
    (.ofList [("a key", .text "[1, 2]: x = y"), ("lit", .bool true)])

/-- The sign, spelled with many blanks. -/
def spacedSign : String :=
  " /setblock\t-3  64 1000\u3000minecraft:sign [\"a key\"=\"[1, 2]: x = y\",\"lit\"=true]\n"

theorem spelled_command_is_applied_sign :
    signCommand.Readable ∧ signCommand.Spells spacedSign ∧
      Command.parse spacedSign = .ok signCommand ∧
      (respond (.send signCommand 1000) {}).world.blocks =
        (respond (.placeBlock ⟨-3, 64, 1000⟩ "minecraft:sign"
          "[\"a key\"=\"[1, 2]: x = y\",\"lit\"=true]") {}).world.blocks := by
  have hreadable : signCommand.Readable :=
    ⟨by decide +kernel, by decide +kernel, by decide +kernel⟩
  have hspells : signCommand.Spells spacedSign := by
    have hbody : Spaced
        ("setblock".toList ++ ("\t".toList ++ ("-3".toList ++ ("  ".toList ++ ("64".toList ++
          (" ".toList ++ ("1000".toList ++ ("\u3000".toList ++ ("minecraft:sign".toList ++
            (" ".toList ++ "[\"a key\"=\"[1, 2]: x = y\",\"lit\"=true]".toList))))))))))
        (signCommand.words.map String.toList) :=
      .cons _ (by decide) (by decide) (.cons _ (by decide) (by decide)
        (.cons _ (by decide) (by decide) (.cons _ (by decide) (by decide)
          (.cons _ (by decide) (by decide) (.last _)))))
    exact ⟨" ".toList, "/".toList, _, "\n".toList, by decide +kernel, by decide, .inr rfl, hbody,
      by decide⟩
  obtain ⟨hread, -, hblocks⟩ := spelled_command_is_applied hreadable
  refine ⟨hreadable, hspells, hread _ hspells, ?_⟩
  exact hblocks rfl {} 1000 rfl

/-! ### Commands about any block name -/

/-- **No command is replaced by another one if its block name is balanced.** Let a command fill a
box or place a block, with any name and with states that can be quoted. A command that its text is
read as is the command itself exactly if the quotes and brackets of the canonical name are
balanced. So with such a name a world applies the command itself, or it replies with an error and
does nothing but count the action. -/
theorem accepted_block_command_iff {name : String} {states : BlockStates}
    (hs : states.Quotable) (start stop pos : Position) {c : Command}
    (hc : c = fillWith start stop name ∨ c = placeNamed pos name states) :
    (∀ c', Command.parse c.text = .ok c' →
        (c' = c ↔ Balanced (BlockName.canonical name).toList)) ∧
      (Balanced (BlockName.canonical name).toList → ∀ (w : World) (timeout : Nat),
        respond (.send c timeout) w =
            ⟨((w.logged c).apply c.text timeout c).1, ((w.logged c).apply c.text timeout c).2, []⟩ ∨
          (∃ e, (respond (.send c timeout) w).reply = .error e) ∧
            Alike w (respond (.send c timeout) w).world) := by
  -- A command that fills a box has no states, and these can be quoted too.
  obtain ⟨s, hs', hputs⟩ :
      ∃ s : BlockStates, s.Quotable ∧ c.Puts (BlockName.canonical name) s := by
    rcases hc with rfl | rfl
    · exact ⟨.empty, BlockStates.quotable_empty, .fill start stop⟩
    · exact ⟨states, hs, .setBlock pos⟩
  constructor
  · intro c' hread
    constructor
    · rintro rfl
      by_contra hb
      exact hputs.parse_ne_of_not_balanced hb hread
    · intro hb
      rcases hputs.parse_of_balanced hs' hb with hok | ⟨e, he⟩
      · exact Except.ok.inj (hread.symm.trans hok)
      · rw [he] at hread
        exact absurd hread (by simp)
  · intro hb w timeout
    cases hfail : w.failing.contains Action.Kind.send with
    | true =>
      right
      rw [respond_of_failing hfail]
      exact ⟨⟨_, rfl⟩, alike_count w .send⟩
    | false =>
      rcases hputs.parse_of_balanced hs' hb with hok | ⟨e, he⟩
      · exact .inl (respond_send_of_parse hok timeout hfail)
      · obtain ⟨⟨cause, hcause⟩, hworld⟩ := respond_send_of_unread he timeout hfail
        refine .inr ⟨⟨_, hcause⟩, ?_⟩
        rw [hworld]
        exact alike_logged w c

/-- A lamp with a block name that has brackets of its own, and with states. -/
def lampCommand : Command :=
  placeNamed ⟨0, 64, 0⟩ "Lamp[lit]" (.ofList [("facing", .text "up")])

theorem accepted_block_command_iff_lamp :
    Balanced (BlockName.canonical "Lamp[lit]").toList ∧
      Command.parse lampCommand.text = .ok lampCommand ∧
      (∀ c', Command.parse lampCommand.text = .ok c' → c' = lampCommand) ∧
      ((respond (.send lampCommand 1000) {}).world =
          ((({} : World).logged lampCommand).apply lampCommand.text 1000 lampCommand).2 ∨
        Alike {} (respond (.send lampCommand 1000) {}).world) := by
  have hstates : (BlockStates.ofList [("facing", .text "up")]).Quotable := by decide +kernel
  have hbalanced : Balanced (BlockName.canonical "Lamp[lit]").toList := by decide +kernel
  have hread : Command.parse lampCommand.text = .ok lampCommand := by decide +kernel
  obtain ⟨hiff, hsent⟩ :=
    accepted_block_command_iff hstates .origin .origin ⟨0, 64, 0⟩ (c := lampCommand) (.inr rfl)
  refine ⟨hbalanced, hread, fun c' h => (hiff c' h).mpr hbalanced, ?_⟩
  rcases hsent hbalanced {} 1000 with happlied | ⟨-, halike⟩
  · exact .inl (congrArg Response.world happlied)
  · exact .inr halike

/-- A bracket that the name leaves open takes the states into the name: the command is accepted,
and a block that it does not name is put into the world. -/
theorem open_bracket_takes_states :
    fillWith .origin ⟨1, 0, 0⟩ "stone[" = .fill .origin ⟨1, 0, 0⟩ "minecraft:stone[" .empty ∧
      Command.parse (fillWith .origin ⟨1, 0, 0⟩ "stone[").text =
        .ok (.fill .origin ⟨1, 0, 0⟩ "minecraft:stone[ []" .empty) ∧
      (respond (.send (fillWith .origin ⟨1, 0, 0⟩ "stone[") 1000) {}).world.blockAt .origin =
        some ⟨"minecraft:stone[ []", .empty⟩ := by
  have hread : Command.parse (fillWith .origin ⟨1, 0, 0⟩ "stone[").text =
      .ok (.fill .origin ⟨1, 0, 0⟩ "minecraft:stone[ []" .empty) := by decide +kernel
  refine ⟨by decide +kernel, hread, ?_⟩
  rw [respond_send_of_parse hread 1000 rfl]
  have hvolume : ¬ fillLimit < Box.volume .origin ⟨1, 0, 0⟩ := by decide +kernel
  have hmem : Position.origin ∈ (Box.ofCorners .origin ⟨1, 0, 0⟩).positions := by decide +kernel
  have hnamed : Block.named? "minecraft:stone[ []" .empty =
      some ⟨"minecraft:stone[ []", .empty⟩ := by decide +kernel
  simp only [apply, if_neg hvolume, blockAt_putAll, if_pos hmem, hnamed]

end BlockConsole.World
