import BlockConsole.Bench
import BlockConsole.Session.Config
import BlockConsole.World.Respond

/-!
# A session

A session is a dry run against a world in memory. It lays out the work area, prepares each
container of the configuration in the center, from the cache where it can, places an anvil and a
loom and opens them, reports the slots, the cache and the world in a `Session.Summary`, and deletes
the snapshots.

`Session.run` gives the outcome. `Session.logOf` makes a log of its events, in which the one
observer of the session reports every change.
-/

namespace BlockConsole

/-- Why a session **failed**. -/
inductive SessionError where
  /-- The states of a container to prepare cannot be read. -/
  | states (cause : StatesError)
  | console (cause : Failure)
deriving DecidableEq

/-- The wording of an error. -/
def SessionError.message : SessionError → String
  | states cause => cause.message
  | console (.error cause) => cause.message
  | console (.broken invariant) => invariant.message

namespace Session

/-- Work of a session. -/
abbrev Job (α : Type) : Type := Work World SessionError α

/-- Work of the console as part of a session. -/
def onConsole {α : Type} (w : Work World Failure α) : Job α :=
  w.mapError .console

/-- Says something on behalf of the session. -/
def say (level : Level) (text : String) : Job Unit :=
  Work.log level .session text

/-- The requester of the containers that are built. -/
def warmupRequester : String := "warmup"

/-! ### Preparing containers -/

/-- Prepares one container: puts it back from the cache, or else builds and stores it. -/
def warmUp (cache : Cache) (entry : Preparation) : Job Cache := do
  match BlockStates.parse entry.states with
  | .error e => Work.fail (.states e)
  | .ok states =>
    let (restored, cache) ←
      onConsole (cache.load ⟨entry.name, states, entry.customName, entry.facing⟩)
    if restored then
      say .info ("Restored " ++ entry.name ++ " " ++ entry.states ++ " from cache")
      pure cache
    else
      onConsole (Console.putInSlot warmupRequester Layout.centerSlot
        (.containerOf entry.name states))
      onConsole (cache.store entry.customName entry.facing)

/-- Prepares containers one after the other. -/
def warmUpAll (cache : Cache) : List Preparation → Job Cache
  | [] => pure cache
  | entry :: rest => do
    let cache ← warmUp cache entry
    warmUpAll cache rest

/-! ### Helpers -/

/-- Opens a helper and reports if it stays closed; says whether it opened. -/
def openHelper (s : Slot) : Job Bool := do
  let opened ← onConsole (Console.openSlot s)
  if opened then pure true
  else
    say .error ("Helper in slot " ++ Text.natText s ++ " did not open")
    pure false

/-! ### Summary -/

/-- The **summary** of a session, taken before its snapshots are deleted. -/
structure Summary where
  /-- The slot of the anvil, and whether the anvil opened. -/
  anvil : Slot × Bool
  /-- The slot of the loom, and whether the loom opened. -/
  loom : Slot × Bool
  console : Console
  cache : Cache
  commandsSent : Nat
  teleports : Nat
  blocksPresent : Nat

namespace Summary

/-- What is believed to be in a slot, in a line. -/
def slotLine (c : Console) (s : Slot) : String :=
  "Slot " ++ Text.natText s ++ " at " ++ (c.slotPosition s).text ++ ": " ++ (c.slot s).name ++ " " ++
    (c.slot s).states.text

/-- The use of a cache, in a line. -/
def cacheLine (cache : Cache) : String :=
  "Structure cache: " ++ Text.natText cache.entries.length ++ " entries, " ++
    Text.natText cache.hits ++ " hits, " ++ Text.natText cache.misses ++ " misses, " ++
    Text.natText cache.stores ++ " stores"

/-- The lines of a summary: one for each slot, one for the cache and one for the world. -/
def lines (m : Summary) : List String :=
  Layout.slots.map (slotLine m.console) ++
    [cacheLine m.cache,
      "World: " ++ Text.natText m.commandsSent ++ " commands sent, " ++ Text.natText m.teleports ++
        " teleports, " ++ Text.natText m.blocksPresent ++ " blocks present"]

/-- The lines of a summary as log entries. -/
def entries (m : Summary) : List LogEntry :=
  m.lines.map fun line => ⟨.info, .session, line⟩

end Summary

/-- The work of a session. -/
def job (config : SessionConfig) : Job Summary := do
  let _ ← onConsole Console.addObserver
  onConsole (Console.layOut config.dimension config.center)
  let cache ← warmUpAll {} config.warmup
  let anvil ← onConsole (Console.obtainHelper .anvil)
  let loom ← onConsole (Console.obtainHelper .loom)
  let anvilOpened ← openHelper anvil
  let loomOpened ← openHelper loom
  let console ← Work.console
  let world ← Work.world
  let summary : Summary :=
    ⟨(anvil, anvilOpened), (loom, loomOpened), console, cache, world.commandLog.size,
      world.teleports, world.blocks.size⟩
  Work.logAll summary.entries
  let _ ← cache.clear
  pure summary

/-! ### Running -/

/-- What a reader of the log is told of an event. The observer of a session reports each change. -/
def entriesOf : Event → List LogEntry
  | .acted .. => []
  | .logged entry => [entry]
  | .changed change requester listeners =>
    listeners.map fun _ => ⟨.debug, .session, requester ++ " changed " ++ change.label⟩

/-- Runs a **session** from a new console over a new world. -/
def run (config : SessionConfig) : Outcome World SessionError Summary :=
  (job config).run ⟨{ settings := config.console }, {}⟩

/-- The log of some events. -/
def logOf (events : List Event) : List LogEntry :=
  events.flatMap entriesOf

end Session

end BlockConsole
