import BlockConsole.Console.Operation
import BlockConsole.Proofs.Console.Reach

/-!
# The course of laying out

Laying out forgets everything first (`blank_relocated`), then refuses a center too near to the
origin, and then builds the work area by the steps of `buildArea`. The console becomes usable only
after the last action of these was acknowledged.
-/

namespace BlockConsole

open Work Console

/-- The console **knows nothing**: it is not usable, and every slot, every neighbor and the
inventory are as if nothing had ever been there. -/
structure Blank (c : Console) : Prop where
  initialized : c.initialized = false
  slot : ∀ i, c.slot i = .unknown
  neighbor : ∀ i f, c.neighbor i f = .unknown
  inventory : c.inventory = .replicate inventorySize false

theorem blank_relocated (c : Console) (dimension : Word) (center : Position) :
    Blank (c.relocated dimension center) where
  initialized := rfl
  slot i := by simp [Console.slot, relocated, forget]
  neighbor i f := by simp [Console.neighbor, relocated, forget]
  inventory := rfl

variable {W : Type} [Environment W]

/-- What is done to lay out a work area, once the center was found to be safe. -/
def buildArea (settings : Settings) (dimension : Word) (center : Position) :
    Work W Failure Unit := do
  Work.log .info .console
    ("Initializing console in dimension " ++ dimension.text ++ " at " ++ center.text)
  Work.logAll settings.gameModeWarning
  let _ ← Work.sendChecked (.gameMode settings.gameMode) settings.commandTimeout
  teleport center
  let _ ← Work.sendChecked (clearCommand center) settings.commandTimeout
  let _ ← Work.sendChecked (floorCommand center settings.floorBlock) settings.commandTimeout
  let _ ← Work.sendChecked .clearInventory settings.commandTimeout
  Work.act (.holdSlot 0)
  Work.update laidOut
  Work.log .info .console ("Console ready at " ++ center.text)

/-- The site on the way to a new work area. -/
def relocatedSite (s : Site W) (dimension : Word) (center : Position) : Site W :=
  { s with console := s.console.relocated dimension center }

theorem run_layOut_of_safe {s : Site W} {dimension : Word} {center : Position}
    (h : isUnsafeCenter s.console.settings center = false) :
    (layOut dimension center).run s =
      (buildArea s.console.settings dimension center).run (relocatedSite s dimension center) := by
  rw [layOut, run_bind_of_ok (run_update _ s), run_bind_of_ok (run_console _)]
  have hsettings : (s.console.relocated dimension center).settings = s.console.settings := rfl
  simp only [hsettings, h, Outcome.after_nil]
  rfl

theorem run_layOut_refused {s : Site W} {dimension : Word} {center : Position}
    (h : isUnsafeCenter s.console.settings center = true) :
    (layOut dimension center).run s =
      ⟨.error (.error (.unsafeCenter center s.console.settings.originExclusionRadius)),
        relocatedSite s dimension center, []⟩ := by
  rw [layOut, run_bind_of_ok (run_update _ s), run_bind_of_ok (run_console _)]
  have hsettings : (s.console.relocated dimension center).settings = s.console.settings := rfl
  simp only [hsettings, h, Outcome.after_nil]
  rfl

/-- Laying out is within every frame that allows to forget everything and to build from there. -/
theorem within_layOut {F : Frame W} {s : Site W} {dimension : Word} {center : Position}
    (hforget : F.Allows s (relocatedSite s dimension center) [])
    (hbuild : Within F (buildArea s.console.settings dimension center)
      (relocatedSite s dimension center)) :
    Within F (layOut dimension center) s := by
  rw [Within]
  cases hsafe : isUnsafeCenter s.console.settings center with
  | true =>
    rw [run_layOut_refused hsafe]
    exact hforget
  | false =>
    rw [run_layOut_of_safe hsafe]
    have hboth := F.trans hforget hbuild
    rwa [List.nil_append] at hboth

end BlockConsole
