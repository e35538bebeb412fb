import BlockConsole.Space.Position

/-!
# The six faces of a block

A `Facing` names a face and the neighbor behind it. The faces are numbered from 0 in the order
down, up, north, south, west, east, which is the numbering of the block state
`facing_direction`. North and south run along the third coordinate, west and east along the
first.
-/

namespace BlockConsole

/-- A **face** of a block. -/
inductive Facing where
  | down
  | up
  | north
  | south
  | west
  | east
deriving DecidableEq, Hashable, Repr

namespace Facing

/-- The faces in the order of their numbers. -/
def all : List Facing := [down, up, north, south, west, east]

/-- The number of a face. -/
def index : Facing → Fin 6
  | down => 0
  | up => 1
  | north => 2
  | south => 3
  | west => 4
  | east => 5

/-- The face with a given number. -/
def ofIndex? (n : Nat) : Option Facing :=
  all[n]?

/-- The step out of a face to the neighbor behind it. -/
def offset : Facing → Offset
  | down => ⟨0, -1, 0⟩
  | up => ⟨0, 1, 0⟩
  | north => ⟨0, 0, -1⟩
  | south => ⟨0, 0, 1⟩
  | west => ⟨-1, 0, 0⟩
  | east => ⟨1, 0, 0⟩

/-- The face whose neighbor lies at a given offset. -/
def ofOffset? (o : Offset) : Option Facing :=
  all.find? fun f => f.offset == o

/-- The face on the other side of the block. -/
def opposite : Facing → Facing
  | down => up
  | up => down
  | north => south
  | south => north
  | west => east
  | east => west

/-- The name of a face, in small letters. -/
def name : Facing → String
  | down => "down"
  | up => "up"
  | north => "north"
  | south => "south"
  | west => "west"
  | east => "east"

/-- The name of a face with a capital, as changes to the neighbors are reported. -/
def title : Facing → String
  | down => "Down"
  | up => "Up"
  | north => "North"
  | south => "South"
  | west => "West"
  | east => "East"

/-- The face with a given name. -/
def ofName? (s : String) : Option Facing :=
  all.find? fun f => f.name == s

end Facing

end BlockConsole
