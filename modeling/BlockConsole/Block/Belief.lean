import BlockConsole.Block.Basic
import BlockConsole.Space.Facing

/-!
# What is believed to be at a place

A `Belief` is what the console believes to be at a place of the work area. It never comes from the
world: it is what the console last did there with success. Of a place of which nothing is known
the belief is `Belief.unknown`.

A `Container` is a block that can be opened, with what has to be clear before it opens: a chest
needs the place above it, a shulker box the place that it faces, any other container nothing.
-/

namespace BlockConsole

/-! ### Containers -/

/-- A **container** and the room that it needs to open. -/
structure Container where
  name : String
  states : BlockStates
  /-- Whether a neighbor has to be air before the container opens. -/
  needsClearance : Bool
  /-- The side on which a shulker box opens; `none` for any other container. -/
  shulkerFacing : Option Facing
deriving DecidableEq

namespace Container

/-- The short names of the containers that open at the top. -/
def topOpening : List String := ["chest", "trapped_chest", "ender_chest"]

/-- Whether a short name is that of a shulker box, of any color. -/
def isShulkerBox (short : String) : Bool :=
  "shulker_box".toList.isSuffixOf short.toList

/-- The side on which a shulker box with these states opens: the face with the number
`facing_direction`, and the top where that is not the number of a face. -/
def facingOf (states : BlockStates) : Facing :=
  match states.getInt? "facing_direction" with
  | some i => if i.val < 0 then .up else (Facing.ofIndex? i.val.toNat).getD .up
  | none => .up

/-- The container with a name and states. Its name is canonical, and the room that it needs follows
from its name. -/
def ofName (name : String) (states : BlockStates) : Container :=
  let name := BlockName.canonical name
  let short := BlockName.short name
  if isShulkerBox short then ⟨name, states, true, some (facingOf states)⟩
  else ⟨name, states, topOpening.contains short, none⟩

/-- The side that has to be clear before the container opens. -/
def clearSide? (c : Container) : Option Facing :=
  if c.needsClearance then some (c.shulkerFacing.getD .up) else none

end Container

/-! ### Beliefs -/

/-- A **belief** about one place. -/
inductive Belief where
  | air
  /-- A block of which only the name matters, such as a floor. -/
  | marker (name : String)
  | anvil (states : BlockStates)
  | loom
  | container (c : Container)
  /-- Any other block; with `known = false` its states are not known. -/
  | other (known : Bool) (name : String) (states : BlockStates)
deriving DecidableEq

namespace Belief

/-- The belief about a place of which nothing is known. -/
def unknown : Belief := .other false "" .empty

instance : Inhabited Belief := ⟨unknown⟩

/-- The belief in a floor or support with a given name. -/
def markerOf (name : String) : Belief :=
  .marker (BlockName.canonical name)

/-- The belief in a container with a given name and states. -/
def containerOf (name : String) (states : BlockStates) : Belief :=
  .container (Container.ofName name states)

/-- The name of the block. -/
def name : Belief → String
  | air => BlockName.air
  | marker name => name
  | anvil _ => BlockName.anvil
  | loom => BlockName.loom
  | container c => c.name
  | other _ name _ => name

/-- The states of the block. -/
def states : Belief → BlockStates
  | air => .empty
  | marker _ => .empty
  | anvil states => states
  | loom => .empty
  | container c => c.states
  | other _ _ states => states

/-- Whether the states of the block are known. -/
def isKnown : Belief → Bool
  | other known _ _ => known
  | _ => true

/-- Whether the block is air. -/
def isAir : Belief → Bool
  | air => true
  | _ => false

/-- Whether the block is an anvil. -/
def isAnvil : Belief → Bool
  | anvil _ => true
  | _ => false

/-- Whether the block is a loom. -/
def isLoom : Belief → Bool
  | loom => true
  | _ => false

/-- Whether the block is neither an anvil nor a loom. -/
def isSpare (b : Belief) : Bool :=
  !b.isAnvil && !b.isLoom

/-- The container that the block is. -/
def container? : Belief → Option Container
  | container c => some c
  | _ => none

/-- Whether a helper may stand on the block: it is neither air nor unknown. -/
def bearsHelper : Belief → Bool
  | air => false
  | other known _ _ => known
  | _ => true

end Belief

end BlockConsole
