import BlockConsole.World.Basic

/-!
# How the world replies

`World.respond` replies to every action and makes `World` an `Environment`. Every action is
counted, and refused if its kind is failing. A command is sent as text and read again before it is
applied, so what counts is what the text says. `World.apply` applies a command; a fill of more
than `fillLimit` blocks is acknowledged without success.

A container opens if the block there has the expected name, the player is within
`interactionDistanceSq`, and the side that the container needs is clear.
-/

namespace BlockConsole.World

/-- The most blocks that one fill may cover. -/
def fillLimit : UInt64 := 32768

/-- The squared distance up to which the player can open a block. -/
def interactionDistanceSq : Nat := 144

/-! ### Commands -/

/-- Applies a command that came as `text` and was to be acknowledged within `timeout`
milliseconds. -/
def apply (w : World) (text : String) (timeout : Nat) :
    Command → Except ActionError Acknowledgment × World
  | .teleport target =>
    if w.teleportsLost then (.error (.timeout text timeout), w)
    else
      (.ok (.success ("Teleported to " ++ target.text)),
        { w with player := target, teleports := w.teleports + 1 })
  | .gameMode mode =>
    (.ok (.success ("Set own game mode to " ++ mode.name)), { w with gameMode := mode })
  | .fill start stop block states =>
    let volume := Box.volume start stop
    if fillLimit < volume then
      (.ok (.failure ("Too many blocks in the specified area (" ++
        Text.natText volume.toNat ++ " > " ++ Text.natText fillLimit.toNat ++ ")")), w)
    else
      (.ok (.success (Text.natText volume.toNat ++ " blocks filled")),
        w.putAll (Box.ofCorners start stop).positions block states)
  | .setBlock pos block states => (.ok (.success "Block placed"), w.put pos block states)
  | .clearInventory => (.ok (.success "Cleared the inventory"), w)

/-! ### Actions that are not refused -/

/-- A block is placed by the command that its name and states make. -/
def respondPlaceBlock (w : World) (pos : Position) (name states : String) :
    Response World Unit :=
  match BlockStates.parse states with
  | .error e => ⟨.error (.rejected Action.Kind.placeBlock.name e.message), w, []⟩
  | .ok states =>
    let command := Command.placeNamed pos name states
    let (reply, w') := w.apply command.text 0 command
    let reply := match reply with
      | .error e => .error e
      | .ok a =>
        if a.isSuccess then .ok () else .error (.rejected Action.Kind.placeBlock.name a.summary)
    ⟨reply, w', [⟨.trace, .world, command.text⟩]⟩

/-- The states that a helper is placed with. -/
def helperStates : Helper → BlockStates
  | .anvil => .ofList [("damage", .text "undamaged"),
      ("minecraft:cardinal_direction", .text "north")]
  | .loom => .ofList [("direction", .int 0)]

/-- The support block, if any, is placed before the helper. -/
def respondSetHelper (w : World) (pos : Position) (kind : Helper)
    (support : Option String) : Response World BlockStates :=
  let supported := match support with
    | some name => w.put (pos + Facing.down.offset) name .empty
    | none => w
  let states := helperStates kind
  ⟨.ok states, { supported with lastSupport := support }.put pos kind.blockName states, []⟩

/-- Why a container does not open, if it does not. -/
def obstacle? (w : World) (pos : Position) (name : String) (states : BlockStates) :
    Option String :=
  let expected := BlockName.canonical name
  let found := w.blockAt pos
  if found.map Block.name ≠ some expected then
    some (": expected " ++ expected ++ ", found " ++ Block.inspect found)
  else if interactionDistanceSq < w.player.distanceSq pos then
    some (": out of reach from " ++ w.player.text)
  else match (Container.ofName expected states).clearSide? with
    | none => none
    | some f =>
      if (w.blockAt (pos + f.offset)).isSome then some (": " ++ f.name ++ " side obstructed")
      else none

/-- A container opens if nothing is in its way. -/
def respondOpen (w : World) (pos : Position) (name : String) (states : BlockStates) :
    Response World Bool :=
  match w.obstacle? pos name states with
  | none => ⟨.ok true, w, []⟩
  | some why => ⟨.ok false, w, [⟨.debug, .world, "open at " ++ pos.text ++ why⟩]⟩

/-- How many hotbar slots the player has. -/
def hotbarSlots : Nat := 9

/-- A hotbar slot that exists is taken in hand. -/
def respondHold (w : World) (slot : Nat) : Response World Unit :=
  if slot < hotbarSlots then ⟨.ok (), { w with held := slot }, []⟩
  else
    ⟨.error (.rejected Action.Kind.holdSlot.name
      ("hotbar slot " ++ Text.natText slot ++ " out of range")), w, []⟩

/-- A command is logged, read from its text and applied. -/
def respondSend (w : World) (command : Command) (timeout : Nat) :
    Response World Acknowledgment :=
  let text := command.text
  let logged := { w with commandLog := w.commandLog.push text }
  match Command.parse text with
  | .error e =>
    ⟨.error (.transport ("unparseable command \x60" ++ text ++ "\x60: " ++ e.message)), logged, []⟩
  | .ok parsed =>
    let (reply, w') := logged.apply text timeout parsed
    ⟨reply, w', []⟩

/-- The blocks of a box are captured by their offset from its lowest corner. -/
def capture (w : World) (box : Box) : Snapshot where
  extent := box.extent
  blocks := box.positions.filterMap fun p =>
    (w.blockAt p).map fun b => (p - box.low, b)

/-- A snapshot gets the next number. -/
def respondBackup (w : World) (start stop : Position) : Response World SnapshotId :=
  let box := Box.ofCorners start stop
  let id : SnapshotId := ⟨w.nextSnapshot⟩
  ⟨.ok id,
    { w with
      nextSnapshot := w.nextSnapshot + 1
      snapshots := w.snapshots.insert id (w.capture box) },
    [⟨.debug, .world,
      "captured " ++ id.text ++ " over " ++ box.low.text ++ ".." ++ box.high.text⟩]⟩

/-- The world with the box of a snapshot put back, its lowest corner at a position: the box is
emptied before the captured blocks are put into it. -/
def putBack (w : World) (snapshot : Snapshot) (pos : Position) : World :=
  let cleared := (Box.mk pos (pos + snapshot.extent)).positions.foldl
    (fun blocks p => blocks.erase p) w.blocks
  { w with
    blocks := snapshot.blocks.foldl (fun blocks e => blocks.insert (pos + e.1) e.2) cleared }

/-- A snapshot that exists is put back. -/
def respondRestore (w : World) (id : SnapshotId) (pos : Position) : Response World Unit :=
  match w.snapshots[id]? with
  | none => ⟨.error (.unknownSnapshot id), w, []⟩
  | some snapshot => ⟨.ok (), w.putBack snapshot pos, []⟩

/-- A snapshot that exists is deleted. -/
def respondDiscard (w : World) (id : SnapshotId) : Response World Unit :=
  if w.snapshots.contains id then ⟨.ok (), { w with snapshots := w.snapshots.erase id }, []⟩
  else ⟨.error (.unknownSnapshot id), w, []⟩

/-! ### All actions -/

/-- Replies to an action that was counted and is not refused. -/
def perform (w : World) : (a : Action) → Response World a.Reply
  | .placeBlock pos name states => w.respondPlaceBlock pos name states
  | .setHelper pos kind support => w.respondSetHelper pos kind support
  | .openContainer pos name states => w.respondOpen pos name states
  | .holdSlot slot => w.respondHold slot
  | .send command timeout => w.respondSend command timeout
  | .backup start stop => w.respondBackup start stop
  | .restore id pos => w.respondRestore id pos
  | .discard id => w.respondDiscard id

/-- Replies to an action. -/
def respond (a : Action) (w : World) : Response World a.Reply :=
  let counted := w.count a.kind
  if w.failing.contains a.kind then
    ⟨.error (.rejected a.kind.name "injected failure"), counted, []⟩
  else counted.perform a

instance : Environment World := ⟨respond⟩

end BlockConsole.World
