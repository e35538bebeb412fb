import BlockConsole.Cache.Key
import BlockConsole.Console.Operation

/-!
# The structure cache

Filling a container takes time. Once it stands in the center of the work area it is captured by a
snapshot, and the `Cache` remembers the snapshot under the key of the container's identity
(`Cache.store`). Later `Cache.load` puts it back instead of building it again. A snapshot that
cannot be put back counts as a miss. `Cache.clear` deletes all snapshots as well as it can.

Of two containers stored under one key the first stays.
-/

namespace BlockConsole

/-- An **entry** of the cache: a snapshot and the container that it shows. -/
structure CacheEntry where
  snapshot : SnapshotId
  container : Container
deriving DecidableEq

/-- A **cache**: entries by key, in the order in which they came, and how often it was of use. -/
structure Cache where
  entries : List (UInt64 × CacheEntry) := []
  hits : Nat := 0
  misses : Nat := 0
  stores : Nat := 0
deriving DecidableEq

namespace Cache

/-- The requester of changes that the cache makes. -/
def requester : String := "structure-cache"

/-- The entry under a key. -/
def get? (cache : Cache) (key : UInt64) : Option CacheEntry :=
  cache.entries.lookup key

/-- Whether the container with a name and states is in the cache, without a custom name and a
facing. -/
def check (cache : Cache) (name : String) (states : BlockStates) : Bool :=
  (cache.get? (Identity.key ⟨name, states, "", none⟩)).isSome

/-- A key as messages show it. -/
def keyText (key : UInt64) : String :=
  "0x" ++ Text.hex64 key

variable {W : Type} [Environment W]

/-- Puts the container of an identity back into the center; says whether it could. -/
def load (cache : Cache) (i : Identity) : Work W Failure (Bool × Cache) := do
  Console.requireReady
  let key := i.key
  match cache.get? key with
  | none =>
    Work.log .debug .cache
      ("Structure cache miss for " ++ i.name ++ " " ++ i.states.text ++ " (" ++ keyText key ++ ")")
    pure (false, { cache with misses := cache.misses + 1 })
  | some entry =>
    let center := (← Work.console).center
    match ← Work.attempt (.restore entry.snapshot center) with
    | .error e =>
      Work.log .warn .cache
        ("Failed to restore " ++ entry.snapshot.text ++ " for " ++ i.name ++ ": " ++ e.message)
      pure (false, { cache with misses := cache.misses + 1 })
    | .ok () =>
      Work.announce requester (.slot Layout.centerSlot (.container entry.container))
      Work.log .debug .cache
        ("Restored " ++ i.name ++ " from " ++ entry.snapshot.text ++ " into the center")
      pure (true, { cache with hits := cache.hits + 1 })

/-- Captures the container in the center, unless its identity is in the cache. -/
def store (cache : Cache) (customName : String) (facing : Option Facing) :
    Work W Failure Cache := do
  Console.requireReady
  let c ← Work.console
  match (c.slot Layout.centerSlot).container? with
  | none => Work.refuse (.centerNotContainer (c.slot Layout.centerSlot).name)
  | some container =>
    let key := Identity.key ⟨container.name, container.states, customName, facing⟩
    match cache.get? key with
    | some _ => pure cache
    | none =>
      let snapshot ← Work.act (.backup c.center c.center)
      Work.log .info .cache
        ("Cached " ++ container.name ++ " " ++ container.states.text ++ " as " ++ snapshot.text)
      pure { cache with
        entries := cache.entries ++ [(key, ⟨snapshot, container⟩)]
        stores := cache.stores + 1 }

/-- Deletes snapshots one after the other and reports the ones that could not be deleted. -/
def discardAll {ε : Type} : List CacheEntry → Work W ε Unit
  | [] => pure ()
  | entry :: rest => do
    match ← Work.attempt (.discard entry.snapshot) with
    | .ok () => pure ()
    | .error e =>
      Work.log .warn .cache ("Failed to delete " ++ entry.snapshot.text ++ ": " ++ e.message)
    discardAll rest

/-- Empties the cache and deletes its snapshots. -/
def clear {ε : Type} (cache : Cache) : Work W ε Cache := do
  discardAll (cache.entries.map Prod.snd)
  pure { cache with entries := [] }

end Cache

end BlockConsole
