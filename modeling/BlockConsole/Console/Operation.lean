import BlockConsole.Console.Work

/-!
# The operations of the console

Before the console acts on a slot it makes sure that its work area is laid out
(`Console.requireReady`), that there is such a slot (`Console.slotOf`), and that the agent is
near enough (`Console.approach`). If the agent is farther from the target than the settings
allow, it teleports there, and only an acknowledged teleport moves its recorded position.

* `Console.recordSlot`, `Console.recordNeighbor` and `Console.recordInventory` record a change that
  someone else has made and tell the observers. They take no action and can be used before the work
  area is laid out.
* `Console.selectHotbar` takes another hotbar slot in hand, and does nothing where it already is.
* `Console.layOut` forgets all that was known and builds the work area around a center: the agent is
  put into the game mode of the settings and teleported to the center, the upper two layers of the
  working volume are cleared, the lowest one is filled with the floor block, the inventory is
  emptied and hotbar slot 0 is taken in hand. Only then the console believes in it and can be used.
  A center too near to the origin of the world is refused before anything is done.
* `Console.putInSlot` makes a belief about a slot come true, and `Console.obtainHelper` looks for a
  helper, that is an anvil or a loom, on the ring and places one where there is none. Under a helper
  goes a support block where the floor is missing or unknown. A floor marker and a block whose
  states are not known cannot be placed. The beliefs change only after the world has acknowledged
  the action.
* `Console.openSlot` opens the container, anvil or loom in a slot and says whether it opened. If the
  container needs a side to be clear and that neighbor is not believed to be air, the neighbor is
  first replaced by air. Anything that cannot be opened is refused before any action.
-/

namespace BlockConsole

/-! ### Beliefs that can be placed and opened -/

/-- The belief in a helper that was placed with these states. -/
def Helper.belief (kind : Helper) (states : BlockStates) : Belief :=
  match kind with
  | anvil => .anvil states
  | loom => .loom

/-- Whether a believed block is a helper of this kind. -/
def Helper.test : Helper → Belief → Bool
  | anvil => Belief.isAnvil
  | loom => Belief.isLoom

/-- What it takes to open a believed block: its name and states, and the side to clear. -/
def Belief.openable? : Belief → Option (String × BlockStates × Option Facing)
  | .container c => some (c.name, c.states, c.clearSide?)
  | .anvil states => some (BlockName.anvil, states, none)
  | .loom => some (BlockName.loom, .empty, none)
  | _ => none

namespace Console

variable {W : Type}

/-! ### Readiness -/

/-- Fails unless the work area is laid out. -/
def requireReady : Work W Failure Unit := do
  let c ← Work.console
  if c.initialized then pure () else Work.refuse .uninitialized

/-- The slot with a given number, if there is one. -/
def slotOf (index : Nat) : Work W Failure Slot :=
  if h : index < 9 then pure ⟨index, h⟩ else Work.refuse (.invalidSlot index)

/-! ### Keeping the memory up to date -/

/-- Records that a place of the inventory is taken or empty. -/
def recordInventory (requester : String) (index : Nat) (occupied : Bool) :
    Work W Failure Unit :=
  if h : index < inventorySize then Work.announce requester (.inventory ⟨index, h⟩ occupied)
  else Work.refuse (.invalidInventorySlot index)

/-- Records what is in a slot. -/
def recordSlot (requester : String) (index : Nat) (belief : Belief) :
    Work W Failure Unit := do
  let s ← slotOf index
  Work.announce requester (.slot s belief)

/-- Records what is at a neighbor of a slot. -/
def recordNeighbor (requester : String) (index : Nat) (f : Facing) (belief : Belief) :
    Work W Failure Unit := do
  let s ← slotOf index
  Work.announce requester (.neighbor s f belief)

/-- Lets one more observer listen; its number is returned. -/
def addObserver : Work W Failure ObserverId := do
  let (id, observers) := (← Work.console).observers.add
  Work.update fun c => { c with observers }
  pure id

/-- Stops an observer from listening; says whether it was. -/
def removeObserver (id : ObserverId) : Work W Failure Bool := do
  let (was, observers) := (← Work.console).observers.remove id
  Work.update fun c => { c with observers }
  pure was

/-- The slots with neither an anvil nor a loom. There always has to be one. -/
def requireSpareSlots (includeCenter : Bool) : Work W Failure (List Slot) := do
  match (← Work.console).spareSlots includeCenter with
  | [] => Work.fail (.broken .everySlotTaken)
  | free => pure free

/-- A place of the inventory outside `excluding`, an empty one if possible. There always has to be
one. -/
def requireInventoryPlace (excluding : List Nat) : Work W Failure (Fin inventorySize) := do
  match (← Work.console).freeInventoryPlace? excluding with
  | some place => pure place
  | none => Work.fail (.broken .noInventoryPlace)

variable [Environment W]

/-! ### The agent -/

/-- Teleports the agent. -/
def teleport (target : Position) : Work W Failure Unit := do
  let c ← Work.console
  let _ ← Work.sendChecked (.teleport target) c.settings.teleportTimeout
  Work.update fun c => { c with position := target }

/-- Brings the agent within reach of a target. -/
def approach (target : Position) : Work W Failure Unit := do
  requireReady
  let c ← Work.console
  let distance := c.position.distanceSq target
  if (distance : Int) ≤ c.settings.reachDistanceSq then pure ()
  else
    Work.log .debug .console
      ("Target " ++ target.text ++ " out of reach from " ++ c.position.text ++ " (distance² " ++
        Text.natText distance ++ "), teleporting")
    teleport target

/-- Takes a hotbar slot in hand. -/
def selectHotbar (index : Nat) : Work W Failure Unit := do
  if hotbarSize ≤ index then Work.refuse (.invalidHotbarSlot index)
  else if index = (← Work.console).hotbarSlot then pure ()
  else
    Work.act (.holdSlot index)
    Work.update fun c => { c with hotbarSlot := index }

/-! ### Laying out the work area -/

/-- Whether a center is too near to the origin of the world. -/
def isUnsafeCenter (s : Settings) (center : Position) : Bool :=
  decide (center.x.val.natAbs < s.originExclusionRadius) &&
    decide (center.z.val.natAbs < s.originExclusionRadius)

/-- The command that clears the upper layers of the working volume around a center. -/
def clearCommand (center : Position) : Command :=
  let (low, high) := Layout.bounds
  .fillWith (center + (⟨low.x, 0, low.z⟩ : Offset)) (center + high) BlockName.air

/-- The command that lays the floor of the working volume around a center. -/
def floorCommand (center : Position) (floorBlock : String) : Command :=
  let (low, high) := Layout.bounds
  .fillWith (center + low) (center + (⟨high.x, low.y, high.z⟩ : Offset)) floorBlock

/-- The beliefs about the neighbors of an empty slot over a floor. -/
def neighborsOver (floorBlock : String) : Neighbors :=
  (Vector.replicate 6 .air).set Facing.down.index (.markerOf floorBlock)

/-- The console over a work area that was just laid out. -/
def laidOut (c : Console) : Console :=
  { c with
    slots := .replicate 9 .air
    neighbors := .replicate 9 (neighborsOver c.settings.floorBlock)
    hotbarSlot := 0
    inventory := .replicate inventorySize false
    initialized := true }

/-- The console on the way to a new work area: not usable, and with nothing known. -/
def relocated (c : Console) (dimension : Word) (center : Position) : Console :=
  { c with initialized := false, dimension, center }.forget

/-- Lays out the work area around a new center. -/
def layOut (dimension : Word) (center : Position) : Work W Failure Unit := do
  Work.update fun c => c.relocated dimension center
  let settings := (← Work.console).settings
  if isUnsafeCenter settings center then
    Work.refuse (.unsafeCenter center settings.originExclusionRadius)
  else
    Work.log .info .console
      ("Initializing console in dimension " ++ dimension.text ++ " at " ++ center.text)
    Work.logAll settings.gameModeWarning
    let _ ← Work.sendChecked (.gameMode settings.gameMode) settings.commandTimeout
    teleport center
    let _ ← Work.sendChecked (clearCommand center) settings.commandTimeout
    let _ ← Work.sendChecked (floorCommand center settings.floorBlock) settings.commandTimeout
    let _ ← Work.sendChecked .clearInventory settings.commandTimeout
    Work.act (.holdSlot 0)
    Work.update laidOut
    Work.log .info .console ("Console ready at " ++ center.text)

/-! ### Placing blocks into slots -/

/-- The requester of changes that the console makes on its own behalf. -/
def requester : String := "console"

/-- Whether a helper in a slot needs a support block under it. -/
def needsSupport (c : Console) (s : Slot) : Bool :=
  !(c.neighbor s .down).bearsHelper

/-- Places a helper into a slot, and first the support block of the settings under it if `floor`
is set. -/
def placeHelper (requester : String) (index : Nat) (kind : Helper) (floor : Bool) :
    Work W Failure Unit := do
  requireReady
  let s ← slotOf index
  let c ← Work.console
  let pos := c.slotPosition s
  approach pos
  let support := if floor then some c.settings.supportBlock else none
  let states ← Work.act (.setHelper pos kind support)
  Work.log .debug .console
    ("Placed " ++ kind.blockName ++ " in slot " ++ Text.natText s ++ " at " ++ pos.text)
  match support with
  | some name => Work.announce requester (.neighbor s .down (.markerOf name))
  | none => pure ()
  Work.announce requester (.slot s (kind.belief states))

/-- Replaces the block of a slot by air. -/
def clearSlot (requester : String) (index : Nat) : Work W Failure Unit := do
  requireReady
  let s ← slotOf index
  let pos := (← Work.console).slotPosition s
  approach pos
  Work.act (.placeBlock pos BlockName.air BlockStates.empty.text)
  Work.announce requester (.slot s .air)

/-- Places a block, which is neither air nor a helper, into a slot. -/
def placeBlock (requester : String) (s : Slot) (belief : Belief) : Work W Failure Unit := do
  let pos := (← Work.console).slotPosition s
  approach pos
  Work.act (.placeBlock pos belief.name belief.states.text)
  Work.log .debug .console
    ("Placed " ++ belief.name ++ " in slot " ++ Text.natText s ++ " at " ++ pos.text)
  Work.announce requester (.slot s belief)

/-- Makes a belief about a slot come true. -/
def putInSlot (requester : String) (index : Nat) (belief : Belief) : Work W Failure Unit := do
  requireReady
  let s ← slotOf index
  let c ← Work.console
  match belief with
  | .air => clearSlot requester index
  | .anvil _ => placeHelper requester index .anvil (c.needsSupport s)
  | .loom => placeHelper requester index .loom (c.needsSupport s)
  | .marker name => Work.refuse (.notPlaceable name)
  | .other false name _ => Work.refuse (.notPlaceable name)
  | .other true .. => placeBlock requester s belief
  | .container _ => placeBlock requester s belief

/-- The first slot of the ring with a helper of this kind, which is placed where there is none. -/
def obtainHelper (kind : Helper) : Work W Failure Slot := do
  requireReady
  let c ← Work.console
  match c.search? kind.test false with
  | some s => pure s
  | none =>
    match c.claimable? false with
    | none => Work.fail (.broken (.noHelperSlot kind))
    | some s =>
      placeHelper requester s kind (c.needsSupport s)
      pure s

/-! ### Opening slots -/

/-- Replaces a neighbor of a slot by air, unless it is believed to be air. -/
def clearNeighbor (s : Slot) (f : Facing) : Work W Failure Unit := do
  let c ← Work.console
  if (c.neighbor s f).isAir then pure ()
  else
    let pos := c.slotPosition s + f.offset
    approach pos
    Work.act (.placeBlock pos BlockName.air BlockStates.empty.text)
    Work.announce requester (.neighbor s f .air)
    Work.log .debug .console
      ("Cleared " ++ f.name ++ " neighbor of slot " ++ Text.natText s ++ " at " ++ pos.text)

/-- Opens the block in a slot; says whether it opened. -/
def openSlot (index : Nat) : Work W Failure Bool := do
  requireReady
  let s ← slotOf index
  let c ← Work.console
  match (c.slot s).openable? with
  | none => Work.refuse (.notOpenable s (c.slot s).name)
  | some (name, states, side) =>
    match side with
    | some f => clearNeighbor s f
    | none => pure ()
    let pos := c.slotPosition s
    approach pos
    let opened ← Work.act (.openContainer pos name states)
    if opened then pure true
    else
      Work.log .warn .console
        (name ++ " in slot " ++ Text.natText s ++ " at " ++ pos.text ++ " did not open")
      pure false

/-- Opens the block in the slot at an offset from the center. An offset without a slot stands for
the center. -/
def openSlotAt (o : Offset) : Work W Failure Bool :=
  openSlot (Layout.slotAtOrCenter o)

end Console

end BlockConsole
