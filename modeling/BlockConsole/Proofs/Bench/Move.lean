import BlockConsole.Proofs.Console.LayOut
import BlockConsole.Proofs.World.Respond
import Mathlib.Logic.Relation

/-!
# Memory and world, one move at a time

A belief `Describes` what is found in the world if it gives its name and, as far as it knows them,
its states. A console over a `World` agrees with it (`Agrees`) if every belief about a cell
describes what is found there.

All that an operation does to the two is made up of moves (`Move`): a move writes one cell, in
memory and in the world, or none. Since no two cells share a position, a move keeps the agreement
(`Agrees.move`). The moves make a frame, `moves`, and the operations of the console stay within
it.
-/

namespace BlockConsole

open Work Console

/-! ### Beliefs that hold -/

/-- A belief **describes** what is found: nothing for air, and else a block with the name and, for
all but a marker, the states that are believed. A belief with unknown states describes nothing. -/
def Belief.Describes : Belief → Option Block → Prop
  | .air, found => found = none
  | .marker name, found => found.map Block.name = if name = BlockName.air then none else some name
  | .anvil states, found => found = some ⟨BlockName.anvil, states⟩
  | .loom, found => found = some ⟨BlockName.loom, World.helperStates .loom⟩
  | .container c, found => found = if c.name = BlockName.air then none else some ⟨c.name, c.states⟩
  | .other true name states, found =>
    found = if name = BlockName.air then none else some ⟨name, states⟩
  | .other false _ _, _ => False

namespace Console

/-- What is believed of a cell. -/
def believed (c : Console) : Cell → Belief
  | .slot i => c.slot i
  | .neighbor i f => c.neighbor i f

end Console

/-- The change that writes a belief about a cell. -/
def Cell.change (b : Belief) : Cell → Change
  | slot i => .slot i b
  | neighbor i f => .neighbor i f b

namespace Console

/-- A change to a cell is seen in that cell and in no other. -/
theorem believed_apply (c : Console) (cell d : Cell) (b : Belief) :
    (c.apply (cell.change b)).believed d = if d = cell then b else c.believed d := by
  have hcomm {n : Nat} (i j : Fin n) : (i.val = j.val) = (j = i) := by
    rw [Fin.val_inj]
    exact propext eq_comm
  cases cell with
  | slot i =>
    cases d with
    | slot j =>
      show (c.slots.set i b)[j] = _
      rw [Fin.getElem_fin, Vector.getElem_set]
      simp only [hcomm, Cell.slot.injEq]
      rfl
    | neighbor j f => rfl
  | neighbor i f =>
    cases d with
    | slot j => rfl
    | neighbor j g =>
      -- Faces are told apart by their places in a row.
      have hindex : g.index = f.index ↔ g = f := by
        constructor
        · cases f <;> cases g <;> decide
        · rintro rfl
          rfl
      show (c.neighbors.set i (c.neighbors[i].set f.index b))[j.val][g.index.val] = _
      by_cases hij : j = i
      · subst hij
        rw [Vector.getElem_set_self, Vector.getElem_set]
        simp only [hcomm, hindex, Cell.neighbor.injEq, true_and]
        rfl
      · have hne : i.val ≠ j.val := fun heq => hij (Fin.ext heq.symm)
        rw [Vector.getElem_set_ne _ _ hne]
        simp only [Cell.neighbor.injEq, hij, false_and, if_false]
        rfl

@[simp] theorem apply_settings (c : Console) (change : Change) :
    (c.apply change).settings = c.settings := by cases change <;> rfl

@[simp] theorem apply_initialized (c : Console) (change : Change) :
    (c.apply change).initialized = c.initialized := by cases change <;> rfl

@[simp] theorem apply_center (c : Console) (change : Change) :
    (c.apply change).center = c.center := by cases change <;> rfl

@[simp] theorem apply_position (c : Console) (change : Change) :
    (c.apply change).position = c.position := by cases change <;> rfl

end Console

/-! ### Moves -/

/-- What every move leaves alone: the settings, the work area and the snapshots. If the agent was
where the console believes it to be, it still is. -/
structure Steady (s s' : Site World) : Prop where
  settings : s'.console.settings = s.console.settings
  initialized : s'.console.initialized = s.console.initialized
  center : s'.console.center = s.console.center
  snapshots : s'.world.snapshots = s.world.snapshots
  nextSnapshot : s'.world.nextSnapshot = s.world.nextSnapshot
  pose : s.console.position = s.world.player → s'.console.position = s'.world.player

/-- A **move** writes one cell, in memory and in the world, or none. Slots are written only in a
console that is ready, and every container that is written satisfies `P`. -/
inductive Move (P : Container → Prop) (s s' : Site World) : Prop
  | still (steady : Steady s s')
      (cells : ∀ c, s'.console.believed c = s.console.believed c)
      (blocks : ∀ p, s'.world.blockAt p = s.world.blockAt p)
  | wrote (steady : Steady s s') (cell : Cell) (b : Belief) (found : Option Block)
      (ready : ∀ i, cell = .slot i → s.console.initialized = true)
      (describes : b.Describes found) (container : ∀ c, b = .container c → P c)
      (cells : ∀ c, s'.console.believed c = if c = cell then b else s.console.believed c)
      (blocks : ∀ p, s'.world.blockAt p =
        if p = cell.position s.console.center then found else s.world.blockAt p)

/-- A console **agrees** with the world: when it is ready, every belief describes what is found in
its cell, and the agent is where it is believed to be; when it is not ready, nothing is known of
the slots. Every container in a slot satisfies `P`. -/
structure Agrees (P : Container → Prop) (s : Site World) : Prop where
  room : HasRoom s.console.center
  cells : s.console.initialized = true → ∀ c : Cell,
    (s.console.believed c).Describes (s.world.blockAt (c.position s.console.center))
  idle : s.console.initialized = false → ∀ i, s.console.slot i = .unknown
  pose : s.console.initialized = true → s.console.position = s.world.player
  container : ∀ i c, s.console.slot i = .container c → P c

variable {P : Container → Prop} {s s' : Site World}

/-- A move keeps the agreement: the cell that it writes lies at a position of its own. -/
theorem Agrees.move (h : Agrees P s) (hm : Move P s s') : Agrees P s' := by
  cases hm with
  | still steady cells blocks =>
    have hslot : ∀ i, s'.console.slot i = s.console.slot i := fun i => cells (.slot i)
    constructor
    · rw [steady.center]
      exact h.room
    · intro hready c
      rw [cells, blocks, steady.center]
      exact h.cells (steady.initialized ▸ hready) c
    · intro hidle i
      rw [hslot]
      exact h.idle (steady.initialized ▸ hidle) i
    · exact fun hready => steady.pose (h.pose (steady.initialized ▸ hready))
    · intro i c hc
      exact h.container i c (hslot i ▸ hc)
  | wrote steady cell b found ready describes container cells blocks =>
    constructor
    · rw [steady.center]
      exact h.room
    · intro hready c
      rw [cells, blocks, steady.center]
      by_cases hc : c = cell
      · rw [if_pos hc, if_pos (hc ▸ rfl)]
        exact describes
      · -- Another cell lies at another position, where nothing has changed.
        have hpos : c.position s.console.center ≠ cell.position s.console.center :=
          fun heq => hc (Cell.position_inj h.room heq)
        rw [if_neg hc, if_neg hpos]
        exact h.cells (steady.initialized ▸ hready) c
    · intro hidle i
      have hidle' : s.console.initialized = false := steady.initialized ▸ hidle
      have hcell : Cell.slot i ≠ cell := by
        intro heq
        rw [ready i heq.symm] at hidle'
        exact absurd hidle' (by decide)
      have := cells (.slot i)
      rw [if_neg hcell] at this
      exact this.trans (h.idle hidle' i)
    · exact fun hready => steady.pose (h.pose (steady.initialized ▸ hready))
    · intro i c hc
      have hcell : s'.console.slot i = _ := cells (.slot i)
      rw [hc] at hcell
      split at hcell
      · exact container c hcell.symm
      · exact h.container i c hcell.symm

/-- Any number of moves, as a frame. -/
def moves (P : Container → Prop) : Frame World where
  Allows s s' _ := Relation.ReflTransGen (Move P) s s'
  quiet _ _ := .refl
  trans h₁ h₂ := h₁.trans h₂

theorem Agrees.moves (h : Agrees P s) (hm : Relation.ReflTransGen (Move P) s s') :
    Agrees P s' := by
  induction hm with
  | refl => exact h
  | tail _ hstep ih => exact ih.move hstep

theorem Steady.refl (s : Site World) : Steady s s := ⟨rfl, rfl, rfl, rfl, rfl, id⟩

theorem Steady.trans {s'' : Site World} (h : Steady s s') (h' : Steady s' s'') : Steady s s'' where
  settings := h'.settings.trans h.settings
  initialized := h'.initialized.trans h.initialized
  center := h'.center.trans h.center
  snapshots := h'.snapshots.trans h.snapshots
  nextSnapshot := h'.nextSnapshot.trans h.nextSnapshot
  pose := h'.pose ∘ h.pose

theorem Move.steady (h : Move P s s') : Steady s s' := by
  cases h <;> assumption

/-- What a move leaves alone is left alone by any number of moves. -/
theorem steady_of_moves (h : Relation.ReflTransGen (Move P) s s') : Steady s s' := by
  induction h with
  | refl => exact .refl s
  | tail _ hstep ih => exact ih.trans hstep.steady

namespace Move

/-- A world that has done nothing but count an action. -/
theorem of_alike {w' : World} (h : World.Alike s.world w') :
    Move P s { s with world := w' } :=
  .still ⟨rfl, rfl, rfl, h.snapshots, h.nextSnapshot, fun hpose => hpose.trans h.player.symm⟩
    (fun _ => rfl) h.blockAt

/-- A console in which nothing changed that a move could write. -/
theorem of_console {c : Console} (settings : c.settings = s.console.settings)
    (initialized : c.initialized = s.console.initialized) (center : c.center = s.console.center)
    (position : c.position = s.console.position)
    (cells : ∀ cell, c.believed cell = s.console.believed cell) :
    Move P s { s with console := c } :=
  .still ⟨settings, initialized, center, rfl, rfl, fun hpose => position.trans hpose⟩ cells
    fun _ => rfl

/-- A cell is written in memory, and the block that it is about is put there in the world. -/
theorem put {w' : World} (cell : Cell) (b : Belief) {name : String} {states : BlockStates}
    (ready : ∀ i, cell = .slot i → s.console.initialized = true)
    (describes : b.Describes (Block.named? name states)) (container : ∀ c, b = .container c → P c)
    (h : World.Alike (s.world.put (cell.position s.console.center) name states) w') :
    Move P s ⟨s.console.apply (cell.change b), w'⟩ := by
  have hput := World.rebuilt_put s.world (cell.position s.console.center) name states
  refine .wrote ⟨by simp, by simp, by simp, h.snapshots.trans hput.snapshots,
    h.nextSnapshot.trans hput.nextSnapshot, fun hpose => ?_⟩ cell b (Block.named? name states) ready
    describes container (fun c => believed_apply ..) fun p => ?_
  · rw [apply_position, hpose, h.player, hput.player]
  · rw [h.blockAt, World.blockAt_put]

end Move

end BlockConsole
