import BlockConsole.Cache.Basic
import BlockConsole.Console.Operation

/-!
# The bench: a console and its cache in use

A `Bench` is a site together with the structure cache that works on it. A user drives it by
`Request`s, one at a time. `Request.perform` carries out a request and says what came of it
(`Transition`); a request that fails leaves the cache as it was.
-/

namespace BlockConsole

/-- A **bench**: a console, its environment and its cache. -/
structure Bench (W : Type) where
  site : Site W
  cache : Cache := {}

/-- The bench with a new console over an environment. -/
def Bench.new {W : Type} (settings : Settings) (world : W) : Bench W where
  site := ⟨{ settings }, world⟩

/-- What a slot may be searched for. -/
inductive SlotQuery where
  | air
  | anvil
  | loom
  | spare
  | container
  | unknown
deriving DecidableEq

/-- Whether a belief is what a search looks for. -/
def SlotQuery.test : SlotQuery → Belief → Bool
  | air => Belief.isAir
  | anvil => Belief.isAnvil
  | loom => Belief.isLoom
  | spare => Belief.isSpare
  | container => fun b => b.container?.isSome
  | unknown => fun b => !b.isKnown

/-- A **request** of a user. -/
inductive Request where
  | layOut (dimension : Word) (center : Position)
  | approach (target : Position)
  | search (query : SlotQuery) (includeCenter : Bool)
  | claimable (includeCenter : Bool)
  | spareSlots (includeCenter : Bool)
  | obtainHelper (kind : Helper)
  | placeHelper (requester : String) (index : Nat) (kind : Helper) (floor : Bool)
  | putInSlot (requester : String) (index : Nat) (belief : Belief)
  | clearSlot (requester : String) (index : Nat)
  | openSlot (index : Nat)
  | openSlotAt (offset : Offset)
  | addObserver
  | removeObserver (id : ObserverId)
  | recordInventory (requester : String) (index : Nat) (occupied : Bool)
  | recordSlot (requester : String) (index : Nat) (belief : Belief)
  | recordNeighbor (requester : String) (index : Nat) (facing : Facing) (belief : Belief)
  | selectHotbar (index : Nat)
  | inventoryPlace (excluding : List Nat)
  | cacheCheck (name : String) (states : BlockStates)
  | cacheLoad (identity : Identity)
  | cacheStore (customName : String) (facing : Option Facing)
  | cacheClear

/-- What a successful request answers with. -/
@[reducible] def Request.Answer : Request → Type
  | .search .. => Option Slot
  | .claimable _ => Option Slot
  | .spareSlots _ => List Slot
  | .obtainHelper _ => Slot
  | .openSlot _ => Bool
  | .openSlotAt _ => Bool
  | .addObserver => ObserverId
  | .removeObserver _ => Bool
  | .inventoryPlace _ => Fin inventorySize
  | .cacheCheck .. => Bool
  | .cacheLoad _ => Bool
  | _ => Unit

/-- What comes of a request: the answer, the bench after it, and the events of the time between. -/
structure Transition (W α : Type) where
  result : Except Failure α
  bench : Bench W
  events : List Event

namespace Bench

variable {W : Type}

/-- Does work that leaves the cache alone. -/
def onSite {α : Type} (b : Bench W) (w : Work W Failure α) : Transition W α :=
  let o := w.run b.site
  ⟨o.result, { b with site := o.site }, o.events⟩

/-- Does work that yields a new cache, which counts only if the work succeeds. -/
def onCache {α : Type} (b : Bench W) (w : Work W Failure (α × Cache)) : Transition W α :=
  let o := w.run b.site
  match o.result with
  | .ok (a, cache) => ⟨.ok a, ⟨o.site, cache⟩, o.events⟩
  | .error e => ⟨.error e, { b with site := o.site }, o.events⟩

end Bench

/-- Carries out a request. -/
def Request.perform {W : Type} [Environment W] (b : Bench W) :
    (r : Request) → Transition W r.Answer
  | .layOut dimension center => b.onSite (Console.layOut dimension center)
  | .approach target => b.onSite (Console.approach target)
  | .search query includeCenter => ⟨.ok (b.site.console.search? query.test includeCenter), b, []⟩
  | .claimable includeCenter => ⟨.ok (b.site.console.claimable? includeCenter), b, []⟩
  | .spareSlots includeCenter => b.onSite (Console.requireSpareSlots includeCenter)
  | .obtainHelper kind => b.onSite (Console.obtainHelper kind)
  | .placeHelper requester index kind floor =>
    b.onSite (Console.placeHelper requester index kind floor)
  | .putInSlot requester index belief => b.onSite (Console.putInSlot requester index belief)
  | .clearSlot requester index => b.onSite (Console.clearSlot requester index)
  | .openSlot index => b.onSite (Console.openSlot index)
  | .openSlotAt offset => b.onSite (Console.openSlotAt offset)
  | .addObserver => b.onSite Console.addObserver
  | .removeObserver id => b.onSite (Console.removeObserver id)
  | .recordInventory requester index occupied =>
    b.onSite (Console.recordInventory requester index occupied)
  | .recordSlot requester index belief => b.onSite (Console.recordSlot requester index belief)
  | .recordNeighbor requester index facing belief =>
    b.onSite (Console.recordNeighbor requester index facing belief)
  | .selectHotbar index => b.onSite (Console.selectHotbar index)
  | .inventoryPlace excluding => b.onSite (Console.requireInventoryPlace excluding)
  | .cacheCheck name states => ⟨.ok (b.cache.check name states), b, []⟩
  | .cacheLoad identity => b.onCache (b.cache.load identity)
  | .cacheStore customName facing =>
    b.onCache do return ((), ← b.cache.store customName facing)
  | .cacheClear => b.onCache do return ((), ← b.cache.clear)

end BlockConsole
