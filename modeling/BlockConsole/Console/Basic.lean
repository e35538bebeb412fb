import BlockConsole.Block.Belief
import BlockConsole.Command.Basic
import BlockConsole.Log
import BlockConsole.Space.Layout
import BlockConsole.Text.Escape

/-!
# The console

The `Console` is the memory of the agent: where its work area is, where it stands, what it holds,
which places of its inventory are taken, and a `Belief` about each slot and each neighbor of a
slot. It says nothing about the world itself.

`Settings` holds what a user may choose: how far the agent reaches, how long to wait for
acknowledgments, how much room to keep from the origin of the world, and the names of the floor
and support blocks and of the game mode. A game mode that does not exist counts as creative, and
`Settings.gameModeWarning` says so.

A `Change` is one write to the inventory, the slots or the neighbors, as it is announced to
observers. `Console.apply` makes the change.
-/

namespace BlockConsole

/-! ### Settings -/

/-- The **settings** of a console. -/
structure Settings where
  /-- The squared distance up to which the agent acts without a teleport. -/
  reachDistanceSq : Int := 36
  /-- How many milliseconds to wait for a teleport. -/
  teleportTimeout : Nat := 5000
  /-- How many milliseconds to wait for any other command. -/
  commandTimeout : Nat := 5000
  /-- A center is refused where both horizontal coordinates are nearer to zero than this. -/
  originExclusionRadius : Nat := 256
  floorBlock : String := "minecraft:stone"
  /-- The block placed under a helper where the floor is missing or unknown. -/
  supportBlock : String := "minecraft:stone"
  gameModeName : String := "creative"
deriving DecidableEq

namespace Settings

/-- The game mode that the agent is put into. -/
def gameMode (s : Settings) : GameMode :=
  (GameMode.ofName? s.gameModeName).getD .creative

/-- The warning about a game mode that does not exist. -/
def gameModeWarning (s : Settings) : List LogEntry :=
  match GameMode.ofName? s.gameModeName with
  | some _ => []
  | none =>
    [⟨.warn, .settings,
      "Unknown console gamemode " ++ Text.quoted s.gameModeName ++ ", using creative"⟩]

end Settings

/-! ### Changes and observers -/

/-- The number of places in the inventory. -/
def inventorySize : Nat := 36

/-- The number of hotbar slots, which are the first places of the inventory. -/
def hotbarSize : Nat := 9

/-- A **change**: a write to one cell of what the console remembers. -/
inductive Change where
  | inventory (place : Fin inventorySize) (occupied : Bool)
  | slot (slot : Slot) (belief : Belief)
  | neighbor (slot : Slot) (facing : Facing) (belief : Belief)
deriving DecidableEq

/-- A change as observers are told of it: the cell, and not what is written. -/
def Change.label : Change → String
  | inventory place _ => "Inventory(" ++ Text.natText place ++ ")"
  | slot s _ => "Helper(" ++ Text.natText s ++ ")"
  | neighbor s facing _ => "Neighbor(" ++ Text.natText s ++ ", " ++ facing.title ++ ")"

/-- The **number of an observer**. -/
structure ObserverId where
  number : Nat
deriving DecidableEq

/-- The **observers** of a console: the number that the next one gets, and the ones that listen,
in the order in which they came. -/
structure Observers where
  next : Nat := 0
  listening : List ObserverId := []
deriving DecidableEq

namespace Observers

/-- Lets one more observer listen. -/
def add (o : Observers) : ObserverId × Observers :=
  (⟨o.next⟩, ⟨o.next + 1, o.listening ++ [⟨o.next⟩]⟩)

/-- Stops an observer from listening; says whether it was. -/
def remove (o : Observers) (id : ObserverId) : Bool × Observers :=
  (o.listening.contains id, { o with listening := o.listening.filter (· != id) })

end Observers

/-! ### The state of a console -/

/-- The beliefs about the six neighbors of a slot, by the number of the face. -/
abbrev Neighbors := Vector Belief 6

/-- A **console**. -/
structure Console where
  settings : Settings
  /-- Whether the work area is laid out, so that actions may be taken. -/
  initialized : Bool := false
  dimension : Word := 0
  center : Position := .origin
  /-- Where the agent was last known to stand. -/
  position : Position := .origin
  hotbarSlot : Nat := 0
  inventory : Vector Bool inventorySize := .replicate inventorySize false
  slots : Vector Belief 9 := .replicate 9 .unknown
  neighbors : Vector Neighbors 9 := .replicate 9 (.replicate 6 .unknown)
  observers : Observers := {}

namespace Console

/-- The position of the slot with a given number. -/
def slotPosition (c : Console) (index : Nat) : Position :=
  c.center + Layout.slotOffset index

/-- The belief about a slot. -/
def slot (c : Console) (s : Slot) : Belief :=
  c.slots[s]

/-- The belief about a neighbor of a slot. -/
def neighbor (c : Console) (s : Slot) (f : Facing) : Belief :=
  c.neighbors[s][f.index]

/-- The console after a change. -/
def apply (c : Console) : Change → Console
  | .inventory place occupied => { c with inventory := c.inventory.set place occupied }
  | .slot s belief => { c with slots := c.slots.set s belief }
  | .neighbor s f belief =>
    { c with neighbors := c.neighbors.set s (c.neighbors[s].set f.index belief) }

/-- The console with nothing known of any slot or neighbor and an empty inventory. -/
def forget (c : Console) : Console :=
  { c with
    inventory := .replicate inventorySize false
    slots := .replicate 9 .unknown
    neighbors := .replicate 9 (.replicate 6 .unknown) }

/-! ### Looking for slots -/

/-- The first slot about which the belief passes a test. -/
def search? (c : Console) (test : Belief → Bool) (includeCenter : Bool) : Option Slot :=
  (Layout.slotsFrom includeCenter).find? fun s => test (c.slot s)

/-- A slot that may be claimed for a new block: the first one with air, and else the first one
with neither an anvil nor a loom. -/
def claimable? (c : Console) (includeCenter : Bool) : Option Slot :=
  (c.search? Belief.isAir includeCenter).or (c.search? Belief.isSpare includeCenter)

/-- The slots with neither an anvil nor a loom. -/
def spareSlots (c : Console) (includeCenter : Bool) : List Slot :=
  (Layout.slotsFrom includeCenter).filter fun s => (c.slot s).isSpare

/-- A place of the inventory outside `excluding`: the first empty one, and the first one where all
are taken. -/
def freeInventoryPlace? (c : Console) (excluding : List Nat) : Option (Fin inventorySize) :=
  let candidates := (List.finRange inventorySize).filter fun i => !excluding.contains i.val
  (candidates.find? fun i => !c.inventory[i]).or candidates.head?

end Console

end BlockConsole
