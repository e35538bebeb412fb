import BlockConsole.Proofs.Block.Name
import BlockConsole.Proofs.Space.Layout
import BlockConsole.World.Respond

/-!
# The blocks of a world

`World.blockAt` is the only way in which the blocks of a world are looked at. `blockAt_put` and
`blockAt_putAll` say what is found after blocks were put. Two worlds are `Alike` if they differ at
most in their account of the actions received.
-/

namespace BlockConsole

/-- What a block of a given name and states is found as; air is found as nothing. -/
def Block.named? (name : String) (states : BlockStates) : Option Block :=
  if BlockName.canonical name = BlockName.air then none
  else some ⟨BlockName.canonical name, states⟩

theorem Block.named?_canonical (name : String) (states : BlockStates) :
    Block.named? (BlockName.canonical name) states = Block.named? name states := by
  rw [named?, named?, BlockName.canonical_canonical]

/-- Air is found as nothing. -/
theorem Block.named?_air (states : BlockStates) : Block.named? BlockName.air states = none :=
  if_pos (by decide +kernel)

namespace World

/-! ### Putting blocks -/

/-- What is found at a position after a block was put somewhere. -/
theorem blockAt_put (w : World) (p q : Position) (name : String) (states : BlockStates) :
    (w.put p name states).blockAt q =
      if q = p then Block.named? name states else w.blockAt q := by
  have hcomm : (p = q) = (q = p) := propext eq_comm
  by_cases hair : BlockName.canonical name = BlockName.air
  · simp only [put, blockAt, Block.named?, if_pos hair, Std.HashMap.getElem?_erase, beq_iff_eq,
      hcomm]
  · simp only [put, blockAt, Block.named?, if_neg hair, Std.HashMap.getElem?_insert, beq_iff_eq,
      hcomm]

theorem putAll_cons (w : World) (p : Position) (ps : List Position) (name : String)
    (states : BlockStates) :
    w.putAll (p :: ps) name states = (w.put p name states).putAll ps name states := rfl

/-- What is found at a position after a block was put at each of some positions. -/
theorem blockAt_putAll (w : World) (ps : List Position) (q : Position) (name : String)
    (states : BlockStates) :
    (w.putAll ps name states).blockAt q =
      if q ∈ ps then Block.named? name states else w.blockAt q := by
  induction ps generalizing w with
  | nil => simp [putAll]
  | cons p ps ih =>
    rw [putAll_cons, ih, blockAt_put]
    by_cases hps : q ∈ ps <;> by_cases hp : q = p <;> simp [hps, hp]

/-- A world is **rebuilt** if nothing but its blocks has changed. -/
def Rebuilt (w w' : World) : Prop := ∃ blocks, w' = { w with blocks }

namespace Rebuilt

variable {w w' w'' : World}

theorem trans (h : Rebuilt w w') (h' : Rebuilt w' w'') : Rebuilt w w'' := by
  obtain ⟨blocks, rfl⟩ := h
  obtain ⟨blocks', rfl⟩ := h'
  exact ⟨blocks', rfl⟩

theorem player (h : Rebuilt w w') : w'.player = w.player := by
  obtain ⟨blocks, rfl⟩ := h
  rfl

theorem gameMode (h : Rebuilt w w') : w'.gameMode = w.gameMode := by
  obtain ⟨blocks, rfl⟩ := h
  rfl

theorem held (h : Rebuilt w w') : w'.held = w.held := by
  obtain ⟨blocks, rfl⟩ := h
  rfl

theorem snapshots (h : Rebuilt w w') : w'.snapshots = w.snapshots := by
  obtain ⟨blocks, rfl⟩ := h
  rfl

theorem nextSnapshot (h : Rebuilt w w') : w'.nextSnapshot = w.nextSnapshot := by
  obtain ⟨blocks, rfl⟩ := h
  rfl

theorem failing (h : Rebuilt w w') : w'.failing = w.failing := by
  obtain ⟨blocks, rfl⟩ := h
  rfl

theorem teleportsLost (h : Rebuilt w w') : w'.teleportsLost = w.teleportsLost := by
  obtain ⟨blocks, rfl⟩ := h
  rfl

end Rebuilt

theorem rebuilt_put (w : World) (p : Position) (name : String) (states : BlockStates) :
    Rebuilt w (w.put p name states) := by
  rw [put]
  split
  · exact ⟨_, rfl⟩
  · exact ⟨_, rfl⟩

theorem rebuilt_putAll (w : World) (ps : List Position) (name : String) (states : BlockStates) :
    Rebuilt w (w.putAll ps name states) := by
  induction ps generalizing w with
  | nil => exact ⟨w.blocks, rfl⟩
  | cons p ps ih =>
    rw [putAll_cons]
    exact (rebuilt_put w p name states).trans (ih _)

/-! ### Worlds that differ in their account only -/

/-- Two worlds are **alike** if they differ at most in their account of the actions received. -/
def Alike (w w' : World) : Prop := w'.resetAccount = w.resetAccount

namespace Alike

variable {w w' w'' : World}

theorem refl (w : World) : Alike w w := rfl

theorem trans (h : Alike w w') (h' : Alike w' w'') : Alike w w'' := Eq.trans h' h

theorem blocks (h : Alike w w') : w'.blocks = w.blocks := by
  have heq := congrArg World.blocks h
  exact heq

theorem blockAt (h : Alike w w') (p : Position) : w'.blockAt p = w.blockAt p := by
  rw [World.blockAt, World.blockAt, h.blocks]

theorem player (h : Alike w w') : w'.player = w.player := by
  have heq := congrArg World.player h
  exact heq

theorem gameMode (h : Alike w w') : w'.gameMode = w.gameMode := by
  have heq := congrArg World.gameMode h
  exact heq

theorem held (h : Alike w w') : w'.held = w.held := by
  have heq := congrArg World.held h
  exact heq

theorem snapshots (h : Alike w w') : w'.snapshots = w.snapshots := by
  have heq := congrArg World.snapshots h
  exact heq

theorem nextSnapshot (h : Alike w w') : w'.nextSnapshot = w.nextSnapshot := by
  have heq := congrArg World.nextSnapshot h
  exact heq

theorem failing (h : Alike w w') : w'.failing = w.failing := by
  have heq := congrArg World.failing h
  exact heq

theorem teleportsLost (h : Alike w w') : w'.teleportsLost = w.teleportsLost := by
  have heq := congrArg World.teleportsLost h
  exact heq

end Alike

theorem alike_count (w : World) (k : Action.Kind) : Alike w (w.count k) := rfl

end World

end BlockConsole
