import BlockConsole.Console.Basic
import BlockConsole.Space.Facing
import BlockConsole.Toml.Parser

/-!
# Configuration of a session

A session is configured by a TOML document with the tables `session` (where the work area lies),
`console` (the settings), `logging` (what is shown) and `warmup` (the containers to prepare). The
level of logging, the center and the name of each container are required; all else has a default,
and unknown keys are passed over. A number out of its range, a value of another kind and an unknown
facing are refused.

A record may be written as a table, or as a list of its fields in their order.
-/

namespace BlockConsole

/-! ### The configuration -/

/-- A **container to prepare** at the start of a session. -/
structure Preparation where
  name : String
  states : String := "[]"
  customName : String := ""
  facing : Option Facing := none
deriving DecidableEq

/-- The **configuration** of a session. -/
structure SessionConfig where
  dimension : Word := 0
  center : Position
  console : Settings := {}
  /-- Which log entries are shown. -/
  level : String
  warmup : List Preparation := []
deriving DecidableEq

/-- Why a configuration is **not usable**. -/
inductive ConfigError where
  | unreadable
  | malformed
  | unsuitable
deriving DecidableEq

/-- The wording of an error. -/
def ConfigError.message : ConfigError → String
  | unreadable => "the file cannot be read"
  | malformed => "the file is not a TOML document"
  | unsuitable => "the document does not describe a session"

/-! ### Reading fields -/

namespace Toml.Value

/-- The value of the field with a given name, which is also the field with a given index. -/
def field? (v : Value) (index : Nat) (name : String) : Option Value :=
  match v with
  | table _ entries => entries.lookup name
  | array items => items[index]?
  | tables items => items[index]?
  | _ => none

/-- The items of a list. -/
def items? : Value → Option (List Value)
  | array items => some items
  | tables items => some items
  | _ => none

/-- Whether a value has fields. -/
def isRecord : Value → Bool
  | table .. => true
  | array _ => true
  | tables _ => true
  | _ => false

/-- A field that has to be there. -/
def required {α : Type} (v : Value) (index : Nat) (name : String) (read : Value → Option α) :
    Option α :=
  (v.field? index name).bind read

/-- A field that may be left out. -/
def optional {α : Type} (v : Value) (index : Nat) (name : String) (read : Value → Option α)
    (default : α) : Option α :=
  match v.field? index name with
  | some inner => read inner
  | none => some default

/-- A text. -/
def text? : Value → Option String
  | text s => some s
  | _ => none

/-- An integer between two bounds. -/
def integer? (low high : Int) : Value → Option Int
  | integer i => if low ≤ i ∧ i ≤ high then some i else none
  | _ => none

/-- An integer of 32 bits. -/
def word? : Value → Option Word
  | integer i => Word.ofInt? i
  | _ => none

/-- A natural number up to a bound. -/
def natural? (high : Nat) (v : Value) : Option Nat :=
  (v.integer? 0 high).map Int.toNat

/-- Whether a value is a table or a list without anything in it. -/
def isVoid : Value → Bool
  | table _ [] => true
  | array [] => true
  | _ => false

/-- A facing: its name, or a table with the name as its only key and nothing under it. -/
def facing? : Value → Option Facing
  | text s => Facing.ofName? s
  | table _ [(name, v)] => if v.isVoid then Facing.ofName? name else none
  | _ => none

/-- A position. -/
def position? (v : Value) : Option Position := do
  let x ← v.required 0 "x" word?
  let y ← v.required 1 "y" word?
  let z ← v.required 2 "z" word?
  some ⟨x, y, z⟩

/-- The settings of a console. -/
def settings? (v : Value) : Option Settings := do
  let defaults : Settings := {}
  guard v.isRecord
  let reach ← v.optional 0 "reach_distance_sq"
    (integer? (-9223372036854775808) 9223372036854775807) defaults.reachDistanceSq
  let teleport ← v.optional 1 "teleport_timeout_ms" (natural? 18446744073709551615)
    defaults.teleportTimeout
  let command ← v.optional 2 "command_timeout_ms" (natural? 18446744073709551615)
    defaults.commandTimeout
  let radius ← v.optional 3 "origin_exclusion_radius" (natural? 4294967295)
    defaults.originExclusionRadius
  let floor ← v.optional 4 "floor_block" text? defaults.floorBlock
  let support ← v.optional 5 "support_block" text? defaults.supportBlock
  let mode ← v.optional 6 "gamemode" text? defaults.gameModeName
  some ⟨reach, teleport, command, radius, floor, support, mode⟩

/-- A container to prepare. -/
def preparation? (v : Value) : Option Preparation := do
  let name ← v.required 0 "name" text?
  let states ← v.optional 1 "states" text? "[]"
  let customName ← v.optional 2 "custom_name" text? ""
  let facing ← v.optional 3 "facing" (fun inner => inner.facing?.map some) none
  some ⟨name, states, customName, facing⟩

/-- The containers to prepare. -/
def warmup? (v : Value) : Option (List Preparation) := do
  (← v.items?).mapM preparation?

/-- The configuration of a session. -/
def sessionConfig? (v : Value) : Option SessionConfig := do
  let place ← v.required 0 "session" some
  let dimension ← place.optional 0 "dimension" word? 0
  let center ← place.required 1 "center" position?
  let console ← v.optional 1 "console" settings? {}
  let level ← v.required 2 "logging" fun inner => inner.required 0 "level" text?
  let warmup ← v.optional 3 "warmup" warmup? []
  some ⟨dimension, center, console, level, warmup⟩

end Toml.Value

namespace SessionConfig

/-- Reads a **configuration**. -/
def parse (s : String) : Except ConfigError SessionConfig :=
  match Toml.parse s with
  | none => .error .malformed
  | some t =>
    match t.toValue.sessionConfig? with
    | some config => .ok config
    | none => .error .unsuitable

end SessionConfig

end BlockConsole
