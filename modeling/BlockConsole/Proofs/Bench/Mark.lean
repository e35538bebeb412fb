import BlockConsole.Proofs.Bench.Move

/-!
# Marks

A `Mark` is a write to one cell, in memory and in the world: it says what is believed of the cell
and what is found there from then on. Unlike a `Move` it does not ask that the two have anything to
do with each other. That some marks were `Wrote` between two sites tells all that became of the
beliefs and of the blocks.

Marks come one after the other, and a later one to a cell counts (`writeAll`). So marks to different
cells can be written in any order (`writeAll_comm`), and what is read at a cell depends only on the
marks to this cell and on what was there before.
-/

namespace BlockConsole

open Work Console

/-! ### Writing to a function -/

section

variable {κ β : Type} [DecidableEq κ]

/-- A function after some writes to it, one after the other. -/
def writeAll (ws : List (κ × β)) (g : κ → β) : κ → β :=
  ws.foldl (fun g w => Function.update g w.1 w.2) g

@[simp] theorem writeAll_nil (g : κ → β) : writeAll [] g = g := rfl

theorem writeAll_cons (w : κ × β) (ws : List (κ × β)) (g : κ → β) :
    writeAll (w :: ws) g = writeAll ws (Function.update g w.1 w.2) := rfl

theorem writeAll_append (vs ws : List (κ × β)) (g : κ → β) :
    writeAll (vs ++ ws) g = writeAll ws (writeAll vs g) :=
  List.foldl_append

/-- Where nothing is written nothing changes. -/
theorem writeAll_of_forall_ne {ws : List (κ × β)} {k : κ} (h : ∀ w ∈ ws, w.1 ≠ k) (g : κ → β) :
    writeAll ws g k = g k := by
  induction ws generalizing g with
  | nil => rfl
  | cons w ws ih =>
    obtain ⟨hw, hws⟩ := List.forall_mem_cons.mp h
    rw [writeAll_cons, ih hws, Function.update_of_ne hw.symm]

/-- What is read after some writes depends on what was there before. -/
theorem writeAll_congr (ws : List (κ × β)) {g g' : κ → β} {k : κ} (h : g k = g' k) :
    writeAll ws g k = writeAll ws g' k := by
  induction ws generalizing g g' with
  | nil => exact h
  | cons w ws ih =>
    rw [writeAll_cons, writeAll_cons]
    refine ih ?_
    by_cases hk : k = w.1
    · rw [hk, Function.update_self, Function.update_self]
    · rw [Function.update_of_ne hk, Function.update_of_ne hk, h]

/-- Writes to different places can be exchanged. -/
theorem writeAll_comm {vs ws : List (κ × β)} (h : ∀ v ∈ vs, ∀ w ∈ ws, v.1 ≠ w.1) (g : κ → β) :
    writeAll (vs ++ ws) g = writeAll (ws ++ vs) g := by
  funext k
  rw [writeAll_append, writeAll_append]
  by_cases hk : ∃ v ∈ vs, v.1 = k
  · obtain ⟨v, hv, rfl⟩ := hk
    have hws : ∀ w ∈ ws, w.1 ≠ v.1 := fun w hw => (h v hv w hw).symm
    rw [writeAll_of_forall_ne hws, writeAll_congr vs (writeAll_of_forall_ne hws g)]
  · push Not at hk
    rw [writeAll_of_forall_ne hk, writeAll_congr ws (writeAll_of_forall_ne hk g)]

/-- Writes through an injection are writes to what is seen through it. -/
theorem writeAll_map_comp {ι : Type} [DecidableEq ι] {f : ι → κ} (hf : Function.Injective f)
    (ws : List (ι × β)) (g : κ → β) :
    writeAll (ws.map fun w => (f w.1, w.2)) g ∘ f = writeAll ws (g ∘ f) := by
  induction ws generalizing g with
  | nil => rfl
  | cons w ws ih =>
    rw [List.map_cons, writeAll_cons, writeAll_cons, ih, Function.update_comp_eq_of_injective g hf]

end

/-! ### Marks -/

/-- A **mark**: from now on this is believed of the cell, and that is found there. -/
structure Mark where
  cell : Cell
  belief : Belief
  found : Option Block

/-- What some marks write to the memory of a console. -/
def beliefsOf (marks : List Mark) : List (Cell × Belief) :=
  marks.map fun m => (m.cell, m.belief)

/-- What some marks write to a world in which the work area has a given center. -/
def blocksOf (center : Position) (marks : List Mark) : List (Position × Option Block) :=
  marks.map fun m => (m.cell.position center, m.found)

/-- What some marks leave in the cells. -/
def findsOf (marks : List Mark) : List (Cell × Option Block) :=
  marks.map fun m => (m.cell, m.found)

theorem beliefsOf_append (marks more : List Mark) :
    beliefsOf (marks ++ more) = beliefsOf marks ++ beliefsOf more :=
  List.map_append

theorem blocksOf_append (center : Position) (marks more : List Mark) :
    blocksOf center (marks ++ more) = blocksOf center marks ++ blocksOf center more :=
  List.map_append

/-- What is found in a cell. -/
def foundIn (s : Site World) (cell : Cell) : Option Block :=
  s.world.blockAt (cell.position s.console.center)

/-- Some marks were **written** between two sites, and nothing else to the cells and the blocks. The
settings and the work area are as they were, and if the agent was where the console believes it to
be, it still is. -/
structure Wrote (marks : List Mark) (s s' : Site World) : Prop where
  settings : s'.console.settings = s.console.settings
  initialized : s'.console.initialized = s.console.initialized
  center : s'.console.center = s.console.center
  pose : s.console.position = s.world.player → s'.console.position = s'.world.player
  memory : s'.console.believed = writeAll (beliefsOf marks) s.console.believed
  blocks : s'.world.blockAt = writeAll (blocksOf s.console.center marks) s.world.blockAt

namespace Wrote

variable {marks more : List Mark} {s s' s'' : Site World}

theorem refl (s : Site World) : Wrote [] s s := ⟨rfl, rfl, rfl, id, rfl, rfl⟩

/-- Marks are written one after the other. -/
theorem trans (h : Wrote marks s s') (h' : Wrote more s' s'') : Wrote (marks ++ more) s s'' where
  settings := h'.settings.trans h.settings
  initialized := h'.initialized.trans h.initialized
  center := h'.center.trans h.center
  pose := h'.pose ∘ h.pose
  memory := by rw [h'.memory, h.memory, beliefsOf_append, writeAll_append]
  blocks := by rw [h'.blocks, h.blocks, h.center, blocksOf_append, writeAll_append]

/-- Where nothing was written before, the marks are those that were written later. -/
theorem after_nil (h : Wrote [] s s') (h' : Wrote more s' s'') : Wrote more s s'' :=
  h.trans h'

/-- A world in which neither the blocks nor the player changed. -/
theorem of_world {w' : World} (hblocks : ∀ p, w'.blockAt p = s.world.blockAt p)
    (hplayer : w'.player = s.world.player) : Wrote [] s { s with world := w' } :=
  ⟨rfl, rfl, rfl, fun hpose => hpose.trans hplayer.symm, rfl, funext hblocks⟩

/-- A world that has done nothing but count an action. -/
theorem of_alike {w' : World} (h : World.Alike s.world w') : Wrote [] s { s with world := w' } :=
  .of_world h.blockAt h.player

/-- A console in which nothing changed that a mark could write. -/
theorem of_console {c : Console} (settings : c.settings = s.console.settings)
    (initialized : c.initialized = s.console.initialized) (center : c.center = s.console.center)
    (position : c.position = s.console.position)
    (cells : ∀ cell, c.believed cell = s.console.believed cell) :
    Wrote [] s { s with console := c } :=
  ⟨settings, initialized, center, fun hpose => position.trans hpose, funext cells, rfl⟩

/-- A cell is written in memory, and in the world something is found there from then on. -/
theorem mark {w' : World} (cell : Cell) (b : Belief) (found : Option Block)
    (hplayer : w'.player = s.world.player) (hblocks : ∀ p, w'.blockAt p =
      if p = cell.position s.console.center then found else s.world.blockAt p) :
    Wrote [⟨cell, b, found⟩] s ⟨s.console.apply (cell.change b), w'⟩ where
  settings := by simp
  initialized := by simp
  center := by simp
  pose hpose := by rw [apply_position, hpose, hplayer]
  memory := by
    funext d
    exact (believed_apply ..).trans (Function.update_apply ..).symm
  blocks := by
    funext p
    exact (hblocks p).trans (Function.update_apply ..).symm

/-- A cell is written in memory, and a block is put there in the world. -/
theorem put {w' : World} (cell : Cell) (b : Belief) {name : String} {states : BlockStates}
    (h : World.Alike (s.world.put (cell.position s.console.center) name states) w') :
    Wrote [⟨cell, b, Block.named? name states⟩] s ⟨s.console.apply (cell.change b), w'⟩ := by
  have hput := World.rebuilt_put s.world (cell.position s.console.center) name states
  refine .mark cell b _ (h.player.trans hput.player) fun p => ?_
  rw [h.blockAt, World.blockAt_put]

/-- A belief about a cell is written, and the world stays as it is. -/
theorem recorded (s : Site World) (cell : Cell) (b : Belief) :
    Wrote [⟨cell, b, s.world.blockAt (cell.position s.console.center)⟩] s
      ⟨s.console.apply (cell.change b), s.world⟩ := by
  refine .mark cell b _ rfl fun p => ?_
  split
  · next hp => rw [hp]
  · rfl

/-- What was marked last is believed. -/
theorem believed_last {m : Mark} (h : Wrote (marks ++ [m]) s s') :
    s'.console.believed m.cell = m.belief := by
  rw [h.memory, beliefsOf_append, writeAll_append]
  exact Function.update_self ..

/-- A cell that no mark is about is believed to be as it was. -/
theorem believed_of_forall_ne (h : Wrote marks s s') {cell : Cell}
    (hne : ∀ m ∈ marks, m.cell ≠ cell) : s'.console.believed cell = s.console.believed cell := by
  rw [h.memory]
  exact writeAll_of_forall_ne (List.forall_mem_map.mpr hne) _

/-- Nothing changes at a position where no marked cell lies. -/
theorem blockAt_of_forall_ne (h : Wrote marks s s') {p : Position}
    (hne : ∀ m ∈ marks, m.cell.position s.console.center ≠ p) :
    s'.world.blockAt p = s.world.blockAt p := by
  rw [h.blocks]
  exact writeAll_of_forall_ne (List.forall_mem_map.mpr hne) _

/-- Where there is room, what is found in the cells is what the marks left there. -/
theorem foundIn_eq (h : Wrote marks s s') (hroom : HasRoom s.console.center) :
    foundIn s' = writeAll (findsOf marks) (foundIn s) := by
  have hinj : Function.Injective fun cell : Cell => cell.position s.console.center :=
    fun _ _ => Cell.position_inj hroom
  have hblocks : blocksOf s.console.center marks =
      (findsOf marks).map fun w => (w.1.position s.console.center, w.2) := by
    rw [blocksOf, findsOf, List.map_map]
    rfl
  calc foundIn s'
      = s'.world.blockAt ∘ fun cell : Cell => cell.position s.console.center := by
        rw [← h.center]
        rfl
    _ = writeAll (findsOf marks) (foundIn s) := by
        rw [h.blocks, hblocks]
        exact writeAll_map_comp hinj (findsOf marks) s.world.blockAt

/-- What is found in a cell that no mark is about is what was found there before. -/
theorem foundIn_of_forall_ne (h : Wrote marks s s') (hroom : HasRoom s.console.center) {cell : Cell}
    (hne : ∀ m ∈ marks, m.cell ≠ cell) : foundIn s' cell = foundIn s cell := by
  rw [h.foundIn_eq hroom]
  exact writeAll_of_forall_ne (List.forall_mem_map.mpr hne) _

/-- What was marked last is found. -/
theorem found_last {m : Mark} (h : Wrote (marks ++ [m]) s s') (hroom : HasRoom s.console.center) :
    foundIn s' m.cell = m.found := by
  rw [h.foundIn_eq hroom, findsOf, List.map_append, writeAll_append]
  exact Function.update_self ..

end Wrote

end BlockConsole
