import BlockConsole.Action

/-!
# Failures of console operations

An operation of the console fails with a `ConsoleError` when its caller asked for something that
cannot be (a **precondition** is not met) or when an action failed. Apart from these there are
three states of affairs that the console takes for impossible (`BrokenInvariant`); an operation
that meets one of them gives up.
-/

namespace BlockConsole

/-- Why an operation of the console **failed**. -/
inductive ConsoleError where
  | uninitialized
  | unsafeCenter (center : Position) (radius : Nat)
  | invalidSlot (index : Nat)
  | invalidInventorySlot (index : Nat)
  | invalidHotbarSlot (index : Nat)
  | notOpenable (index : Nat) (block : String)
  | notPlaceable (block : String)
  | centerNotContainer (block : String)
  | action (cause : ActionError)
deriving DecidableEq

namespace ConsoleError

/-- Whether the error is a precondition that was not met. -/
def isPrecondition : ConsoleError → Bool
  | action _ => false
  | _ => true

/-- The wording of an error. -/
def message : ConsoleError → String
  | uninitialized => "console is not initialized"
  | unsafeCenter center radius =>
    "center " ++ center.text ++ " is within " ++ Text.natText radius ++
      " blocks of the world origin"
  | invalidSlot index => "slot index " ++ Text.natText index ++ " out of range"
  | invalidInventorySlot index =>
    "inventory slot " ++ Text.natText index ++ " out of range"
  | invalidHotbarSlot index =>
    "hotbar slot " ++ Text.natText index ++ " out of range"
  | notOpenable index block =>
    "slot " ++ Text.natText index ++ " holds " ++ block ++
      ", which cannot be opened"
  | notPlaceable block => block ++ " cannot be placed into a slot"
  | centerNotContainer block => "center slot holds " ++ block ++ ", not a container"
  | action cause => cause.message

end ConsoleError

/-- A state of affairs that should be **impossible**. -/
inductive BrokenInvariant where
  /-- Every slot of a search holds an anvil or a loom. -/
  | everySlotTaken
  /-- No slot is left for a helper. -/
  | noHelperSlot (kind : Helper)
  /-- No place of the inventory is outside a set of excluded ones. -/
  | noInventoryPlace
deriving DecidableEq

/-- The wording of a broken invariant. -/
def BrokenInvariant.message : BrokenInvariant → String
  | everySlotTaken => "console invariant broken: every helper slot holds an anvil or loom"
  | noHelperSlot kind => "console invariant broken: no free helper slot for " ++ kind.blockName
  | noInventoryPlace => "no inventory slot left outside the exclusion set"

/-- How an operation of the console ends without a result. -/
inductive Failure where
  | error (cause : ConsoleError)
  | broken (invariant : BrokenInvariant)
deriving DecidableEq

end BlockConsole
