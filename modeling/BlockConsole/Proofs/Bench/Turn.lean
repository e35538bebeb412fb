import BlockConsole.Proofs.Bench.Sound

/-!
# Whole runs of a bench

A `Turn` is what can happen to a bench over a `World`: a request, a change of what the world
refuses, or a change from outside that is reported at once. `Bench.play` lets turns happen one
after the other. Admissible turns keep a bench sound, and so does a whole run of them
(`Bench.Sound.play`).

So memory and world agree over any run from a new console on (`beliefs_describe_world`): requests
that may fail halfway, snapshots that are put back at other centers, actions that are refused, and
reported changes from outside. Whenever the console is ready, each of its 63 beliefs describes what
is found in its cell, and the player is where the console believes the agent to be.
-/

namespace BlockConsole

open Work Console

/-! ### Turns -/

/-- A **turn** of a bench over a world. -/
inductive Turn where
  | request (r : Request)
  | fail (kind : Action.Kind)
  | recover (kind : Action.Kind)
  | loseTeleports (lose : Bool)
  /-- Someone puts a block at a neighbor of a slot, and its name is recorded at once. -/
  | outside (requester : String) (i : Slot) (f : Facing) (name : String) (states : BlockStates)

namespace Bench

/-- The bench over a world that has changed by itself. -/
def onWorld (b : Bench World) (g : World → World) : Bench World :=
  { b with site.world := g b.site.world }

/-- The bench after a turn. -/
def after (b : Bench World) : Turn → Bench World
  | .request r => (r.perform b).bench
  | .fail kind => b.onWorld fun w => w.fail kind
  | .recover kind => b.onWorld fun w => w.recover kind
  | .loseTeleports lose => b.onWorld fun w => w.loseTeleports lose
  | .outside requester i f name states =>
    let put := b.onWorld fun w => w.put (b.site.console.slotPosition i + f.offset) name states
    ((Request.recordNeighbor requester i f (.markerOf name)).perform put).bench

/-- The bench after some turns, one after the other. -/
def play (b : Bench World) (turns : List Turn) : Bench World :=
  turns.foldl after b

end Bench

/-! ### Admissible turns -/

/-- A turn is **admissible** if its request is; all else may happen at any time. -/
def Turn.Admissible (P : Container → Prop) : Turn → Prop
  | request r => r.Admissible P
  | _ => True

variable {P : Container → Prop}

/-- A change from outside that is reported is a move: it writes the neighbor. -/
theorem move_outside (s : Site World) (i : Slot) (f : Facing) (name : String)
    (states : BlockStates) :
    Move P s ⟨s.console.apply (.neighbor i f (.markerOf name)),
      s.world.put (s.console.slotPosition i + f.offset) name states⟩ :=
  .put (.neighbor i f) (.markerOf name) (by simp) (describes_marker name states)
    (by simp [Belief.markerOf]) (World.Alike.refl _)

theorem Bench.after_outside (b : Bench World) (requester : String) (i : Slot) (f : Facing)
    (name : String) (states : BlockStates) :
    b.after (.outside requester i f name states) =
      { b with
        site := ⟨b.site.console.apply (.neighbor i f (.markerOf name)),
          b.site.world.put (b.site.console.slotPosition i + f.offset) name states⟩ } := by
  simp only [after, Request.perform, onSite, recordNeighbor]
  rw [run_bind_of_ok (run_slotOf i _), run_announce]
  rfl

namespace Bench.Sound

variable {settings : Settings} {b : Bench World}

theorem onWorld {g : World → World} (h : b.Sound P settings)
    (hblocks : ∀ p, (g b.site.world).blockAt p = b.site.world.blockAt p)
    (hplayer : (g b.site.world).player = b.site.world.player)
    (hsnapshots : SameSnapshots b.site.world (g b.site.world)) : (b.onWorld g).Sound P settings :=
  ⟨h.agrees.congr_world hblocks hplayer, h.same, h.floor,
    fun e he => (h.backed e he).congr hsnapshots⟩

/-- Admissible turns keep a bench sound. -/
theorem after (h : b.Sound P settings) {t : Turn} (ht : t.Admissible P) :
    (b.after t).Sound P settings := by
  cases t with
  | request r => exact h.request ht
  | fail kind => exact h.onWorld (g := fun w => w.fail kind) (fun _ => rfl) rfl ⟨rfl, rfl⟩
  | recover kind => exact h.onWorld (g := fun w => w.recover kind) (fun _ => rfl) rfl ⟨rfl, rfl⟩
  | loseTeleports lose =>
    exact h.onWorld (g := fun w => w.loseTeleports lose) (fun _ => rfl) rfl ⟨rfl, rfl⟩
  | outside requester i f name states =>
    rw [after_outside]
    exact h.moves (.single (move_outside b.site i f name states))

/-- A run of admissible turns keeps a bench sound. -/
theorem play {turns : List Turn} (h : b.Sound P settings) (ht : ∀ t ∈ turns, t.Admissible P) :
    (b.play turns).Sound P settings := by
  induction turns generalizing b with
  | nil => exact h
  | cons t rest ih =>
    exact ih (h.after (ht t List.mem_cons_self)) fun u hu => ht u (List.mem_cons_of_mem t hu)

/-- A new bench is sound: its console knows nothing, and its cache is empty. -/
theorem new (hfloor : PlainFloor settings) (world : World) :
    (Bench.new settings world).Sound P settings where
  agrees :=
    .of_blank
      ⟨rfl, fun i => by simp [Bench.new, slot], fun i f => by simp [Bench.new, neighbor], rfl⟩
      hasRoom_origin
  same := rfl
  floor := hfloor
  backed := by simp [Bench.new]

end Bench.Sound

/-! ### Memory and world agree -/

/-- The beliefs of a console are **true** in a world: each describes the block that is found in
its slot or neighbor, and the agent is where it is believed to be. -/
structure Truthful (s : Site World) : Prop where
  slot : ∀ i : Slot, (s.console.slot i).Describes (s.world.blockAt (s.console.slotPosition i))
  neighbor : ∀ (i : Slot) (f : Facing), (s.console.neighbor i f).Describes
    (s.world.blockAt (s.console.slotPosition i + f.offset))
  position : s.console.position = s.world.player

theorem Agrees.truthful {P : Container → Prop} {s : Site World} (h : Agrees P s)
    (hready : s.console.initialized = true) : Truthful s where
  slot i := h.cells hready (.slot i)
  neighbor i f := h.cells hready (.neighbor i f)
  position := h.pose hready

/-- **Memory and world agree.** If the floor block can stand in a command as it is, then after any
run of admissible turns the beliefs of a console that is ready are true. -/
theorem beliefs_describe_world {settings : Settings} (hfloor : PlainFloor settings) (world : World)
    {turns : List Turn} (hturns : ∀ t ∈ turns, t.Admissible fun _ => True)
    (hready : ((Bench.new settings world).play turns).site.console.initialized = true) :
    Truthful ((Bench.new settings world).play turns).site :=
  ((Bench.Sound.new hfloor world).play hturns).agrees.truthful hready

/-- A run in which a chest is placed and cached and then covered from outside, and the world
refuses to clear the cover away. -/
def chestRun : List Turn :=
  [.request (.layOut 0 ⟨1000, 64, 1000⟩),
    .request (.putInSlot "user" Layout.centerSlot (.containerOf "chest" .empty)),
    .request (.cacheStore "" none), .outside "guest" Layout.centerSlot .up "dirt" .empty,
    .fail .placeBlock, .request (.openSlot Layout.centerSlot)]

theorem beliefs_describe_world_chestRun :
    ((Bench.new {} {}).play chestRun).site.console.initialized = true ∧
      Truthful ((Bench.new {} {}).play chestRun).site := by
  have hfloor : PlainFloor {} := by
    unfold PlainFloor
    decide +kernel
  have hturns : ∀ t ∈ chestRun, t.Admissible fun _ => True := by
    have hchest : (Belief.containerOf "chest" .empty).Placeable fun _ => True :=
      ⟨by decide +kernel, BlockStates.quotable_empty, trivial⟩
    have hroom : HasRoom ⟨1000, 64, 1000⟩ := by constructor <;> decide
    simp only [chestRun, List.forall_mem_cons]
    exact ⟨hroom, hchest, trivial, trivial, trivial, trivial, by simp⟩
  have hready : ((Bench.new {} {}).play chestRun).site.console.initialized = true := by
    decide +kernel
  exact ⟨hready, beliefs_describe_world hfloor {} hturns hready⟩

end BlockConsole
