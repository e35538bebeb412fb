import BlockConsole.Proofs.Bench.Course
import BlockConsole.Proofs.Bench.Orderly
import BlockConsole.Proofs.World.Agent

/-!
# The pose of the agent

A console never asks the world where the agent stands and what it holds. It is told by the replies
to teleports and to taking a hotbar slot in hand, and it still knows (`Posed`): in no state between
two turns of a bench do the console and the world disagree, whatever failed before.

Three pieces of work change the pose, and each of them changes it on both sides or on none: a
teleport, the choice of a hotbar slot, and the end of building a work area. Everything else either
only tends the world or is a command that is not read as a teleport. The frame `posing` puts these
facts together: within it the pose stays known, and the game mode stays or becomes an allowed one.
Requests other than laying out allow none, so the game mode that a layout has set stays until the
next one (`pose_never_drifts`).
-/

namespace BlockConsole

open Work Console

/-! ### Knowing the pose -/

/-- The pose of the agent is **known**: it stands where the console believes it to be, and it holds
the hotbar slot that the console believes it to hold, which is one of nine. -/
structure Posed (s : Site World) : Prop where
  position : s.console.position = s.world.player
  hand : s.console.hotbarSlot = s.world.held
  slot : s.console.hotbarSlot < hotbarSize

/-- Between two sites **the pose stays known**, and the game mode is the one before or an allowed
one. -/
structure KeepsPose (modes : GameMode → Prop) (s s' : Site World) : Prop where
  pose : Posed s → Posed s'
  mode : s'.world.gameMode = s.world.gameMode ∨ modes s'.world.gameMode

/-- Keeping the pose known, as a frame. -/
def posing (modes : GameMode → Prop) : Frame World where
  Allows s s' _ := KeepsPose modes s s'
  quiet _ _ := ⟨id, .inl rfl⟩
  trans h₁ h₂ := by
    refine ⟨h₂.pose ∘ h₁.pose, ?_⟩
    rcases h₂.mode with heq | hmode
    · rw [heq]
      exact h₁.mode
    · exact .inr hmode

variable {modes : GameMode → Prop} {s s' : Site World}

namespace KeepsPose

/-- Neither the console nor the world has changed the pose or the game mode. -/
theorem of_eq (hposition : s'.console.position = s.console.position)
    (hhand : s'.console.hotbarSlot = s.console.hotbarSlot)
    (hplayer : s'.world.player = s.world.player) (hheld : s'.world.held = s.world.held)
    (hmode : s'.world.gameMode = s.world.gameMode) : KeepsPose modes s s' where
  pose h := ⟨hposition.trans (h.position.trans hplayer.symm), hhand.trans (h.hand.trans hheld.symm),
    hhand.symm ▸ h.slot⟩
  mode := .inl hmode

theorem of_alike {w : World} (h : World.Alike s.world w) :
    KeepsPose modes s { s with world := w } :=
  .of_eq rfl rfl h.player h.held h.gameMode

/-- Nothing but blocks and the account of actions has changed. -/
theorem of_rebuilt {v w : World} (h : World.Rebuilt s.world v) (halike : World.Alike v w) :
    KeepsPose modes s { s with world := w } :=
  .of_eq rfl rfl (halike.player.trans h.player) (halike.held.trans h.held)
    (halike.gameMode.trans h.gameMode)

theorem of_tended {w : World} (h : World.Tended s.world w) :
    KeepsPose modes s { s with world := w } :=
  .of_eq rfl rfl h.player h.held h.gameMode

end KeepsPose

/-- A silent update that is not about the pose. -/
theorem posing_update {ε : Type} {g : Console → Console}
    (hposition : (g s.console).position = s.console.position)
    (hhand : (g s.console).hotbarSlot = s.console.hotbarSlot) :
    Within (posing modes) (Work.update g : Work World ε Unit) s :=
  .of_eq hposition hhand rfl rfl rfl

theorem posing_announce {ε : Type} (requester : String) (change : Change) :
    Within (posing modes) (announce requester change : Work World ε Unit) s :=
  .of_eq (apply_position ..) (by cases change <;> rfl) rfl rfl rfl

/-! ### Actions and commands -/

/-- An action that does not concern the agent only tends the world. -/
theorem keepsPose_siteAfter {a : Action} (h : a.concernsAgent = false) :
    KeepsPose modes s (siteAfter a s) := by
  refine .of_tended (World.tended_respond ?_ ?_ s.world)
  · cases a <;> simp_all [Action.concernsAgent, Action.kind]
  · cases a <;> simp_all [Action.concernsAgent, Action.kind]

/-- A command **leaves the agent** where it is, and sets no game mode but an allowed one. -/
def Command.Leaves (modes : GameMode → Prop) : Command → Prop
  | teleport _ => False
  | gameMode mode => modes mode
  | _ => True

/-- The world after a command that leaves the agent. -/
theorem keepsPose_after {c : Command} (h : c.Leaves modes) {w : World}
    (halike : World.Alike (s.world.after c) w) : KeepsPose modes s { s with world := w } := by
  cases c with
  | teleport target => exact absurd h id
  | gameMode mode =>
    refine ⟨fun hposed => ⟨hposed.position.trans halike.player.symm,
      hposed.hand.trans halike.held.symm, hposed.slot⟩, .inr ?_⟩
    rw [halike.gameMode]
    exact h
  | fill start stop block states =>
    exact .of_rebuilt (World.rebuilt_putAll s.world _ block states) halike
  | setBlock pos block states =>
    exact .of_rebuilt (World.rebuilt_put s.world pos block states) halike
  | clearInventory => exact .of_alike halike

/-- Sending a command, where everything that its text may be read as leaves the agent. -/
theorem posing_sendChecked {c : Command} {timeout : Nat}
    (h : ∀ read, Command.parse c.text = .ok read → read.Leaves modes) :
    Within (posing modes) (sendChecked c timeout) s := by
  rw [Within, run_sendChecked]
  cases hout : c.outcome (World.respond (.send c timeout) s.world).reply with
  | error e => exact .of_alike (World.alike_of_outcome_error hout)
  | ok a =>
    obtain ⟨read, hread, halike⟩ := World.exists_read_of_outcome_ok hout
    exact keepsPose_after (h read hread) halike

/-- A command that can be read back is read as itself. -/
theorem posing_sendChecked_of_readable {c : Command} {timeout : Nat} (hc : c.Readable)
    (h : c.Leaves modes) : Within (posing modes) (sendChecked c timeout) s := by
  refine posing_sendChecked fun read hread => ?_
  obtain rfl : c = read := Except.ok.inj ((Command.parse_text hc).symm.trans hread)
  exact h

/-! ### Changing the pose -/

/-- A teleport moves the agent on both sides, or on none. -/
theorem posing_teleport (target : Position) (s : Site World) :
    Within (posing modes) (teleport target) s := by
  rw [Within]
  cases hout : teleportOutcome s target with
  | error e =>
    rw [run_teleport_of_error hout]
    exact .of_alike (World.alike_of_outcome_error hout)
  | ok a =>
    rw [run_teleport_of_ok hout]
    have halike := World.after_of_outcome_ok (c := .teleport target) trivial hout
    exact ⟨fun h => ⟨halike.player.symm, h.hand.trans halike.held.symm, h.slot⟩,
      .inl halike.gameMode⟩

/-- Taking a hotbar slot in hand, if the console notes it: on both sides, or on none. -/
theorem posing_take {slot : Nat} (hslot : slot < hotbarSize) {g : Console → Console}
    (hposition : (g s.console).position = s.console.position)
    (hhand : (g s.console).hotbarSlot = slot) {f : Unit → Work World Failure Unit}
    (hf : ∀ w, ((f ()).run ⟨s.console, w⟩).site = ⟨g s.console, w⟩) :
    Within (posing modes) (Work.act (.holdSlot slot) >>= f) s := by
  have hact := run_act (.holdSlot slot) s
  cases hr : (Environment.respond (.holdSlot slot) s.world).reply with
  | error e =>
    rw [hr] at hact
    rw [Within, run_bind_of_error hact]
    exact .of_alike (World.alike_of_error hr)
  | ok x =>
    rw [hr] at hact
    rw [Within, run_bind_of_ok hact, Outcome.after_site]
    have hsite := hf (Environment.respond (.holdSlot slot) s.world).world
    have halike := World.held_of_holdSlot hr
    show KeepsPose modes s ((f ()).run ⟨s.console, _⟩).site
    rw [hsite]
    exact ⟨fun h => ⟨hposition.trans (h.position.trans halike.player.symm),
      hhand.trans halike.held.symm, hhand.symm ▸ hslot⟩, .inl halike.gameMode⟩

theorem posing_selectHotbar (index : Nat) (s : Site World) :
    Within (posing modes) (selectHotbar index) s :=
  within_selectHotbar fun hindex =>
    posing_take hindex (g := fun c => { c with hotbarSlot := index }) rfl rfl fun _ => rfl

/-! ### Requests -/

theorem posing_hosts (modes : GameMode → Prop) :
    (posing modes).Hosts (fun _ => True) fun _ _ => True where
  act _ _ _ hagent := keepsPose_siteAfter hagent
  change requester change _ _ _ := posing_announce requester change
  approach target := within_approach (posing_teleport target)
  selectHotbar := posing_selectHotbar

/-- The actions of the cache do not concern the agent. -/
theorem Request.concernsAgent_of_mayTake {r : Request} {a : Action} (h : r.mayTake a = true) :
    a.concernsAgent = false := by
  cases r <;> cases a <;> first | rfl | exact absurd h (by simp [mayTake])

/-- A request other than laying out leaves the game mode alone. -/
theorem Request.keepsPose {r : Request} (b : Bench World) (hlay : r.isLayOut = false) :
    KeepsPose (fun _ => False) b.site (r.perform b).bench.site :=
  (posing_hosts _).request b hlay (fun _ _ => trivial) (fun _ _ _ => trivial)
    (fun _ _ h => keepsPose_siteAfter (concernsAgent_of_mayTake h))
    fun _ _ _ => posing_update rfl rfl

/-- Building a work area sets no game mode but the one of the settings. -/
theorem posing_buildArea (settings : Settings) (dimension : Word) (center : Position)
    (s : Site World) :
    Within (posing (· = settings.gameMode)) (buildArea settings dimension center) s := by
  refine .bind within_log fun _ _ => .bind within_logAll fun _ _ => ?_
  refine .bind (posing_sendChecked_of_readable (c := .gameMode settings.gameMode) trivial rfl)
    fun _ _ => .bind (posing_teleport center _) fun _ _ => ?_
  refine .bind (posing_sendChecked_of_readable (readable_clearCommand center) trivial) fun _ _ => ?_
  refine .bind (posing_sendChecked fun read hread => ?_) fun _ _ => ?_
  · -- Whatever the floor block is called, the command is a fill.
    obtain ⟨name, states, -, rfl⟩ := exists_floorFill_of_parse hread
    trivial
  · refine .bind (posing_sendChecked_of_readable (c := .clearInventory) trivial trivial)
      fun _ _ => ?_
    exact posing_take (show 0 < hotbarSize by decide) (g := laidOut) rfl rfl fun _ => rfl

theorem keepsPose_layOut (dimension : Word) (center : Position) (s : Site World) :
    KeepsPose (· = s.console.settings.gameMode) s ((layOut dimension center).run s).site :=
  within_layOut (F := posing _) (.of_eq rfl rfl rfl rfl rfl)
    (posing_buildArea s.console.settings dimension center _)

/-- Laying out with success sets the game mode of the settings. -/
theorem gameMode_of_layOut {dimension : Word} {center : Position} {x : Unit}
    (h : ((layOut dimension center).run s).result = .ok x) :
    ((layOut dimension center).run s).site.world.gameMode = s.console.settings.gameMode := by
  obtain ⟨-, name, states, -, -, halike⟩ := ends_buildArea_read (ends_of_layOut h)
  exact halike.gameMode.trans (rebuilt_builtOver _ center name states _).gameMode

/-- After a request the pose is still known. -/
theorem Posed.request {b : Bench World} (h : Posed b.site) (r : Request) :
    Posed (r.perform b).bench.site := by
  cases hlay : r.isLayOut with
  | false => exact (Request.keepsPose b hlay).pose h
  | true =>
    obtain ⟨dimension, center, rfl⟩ := Request.exists_layOut hlay
    exact (keepsPose_layOut dimension center b.site).pose h

/-! ### Runs -/

/-- Whether a turn is to lay out a work area. -/
def Turn.isLayOut : Turn → Bool
  | request r => r.isLayOut
  | _ => false

namespace Bench

variable {b : Bench World}

/-- After a turn the pose is still known. -/
theorem posed_after (h : Posed b.site) (t : Turn) : Posed (b.after t).site := by
  cases t with
  | request r => exact h.request r
  | fail | recover | loseTeleports => exact ⟨h.position, h.hand, h.slot⟩
  | outside requester i f name states =>
    have hput := World.rebuilt_put b.site.world (b.site.console.slotPosition i + f.offset) name
      states
    rw [after_outside]
    exact ⟨h.position.trans hput.player.symm, h.hand.trans hput.held.symm, h.slot⟩

/-- The pose stays known in every run. -/
theorem posed_play (h : Posed b.site) (turns : List Turn) : Posed (b.play turns).site := by
  induction turns generalizing b with
  | nil => exact h
  | cons t rest ih => exact ih (posed_after h t)

theorem posed_new (settings : Settings) : Posed (Bench.new settings {}).site :=
  ⟨rfl, rfl, show 0 < hotbarSize by decide⟩

/-- Only laying out changes the game mode. -/
theorem gameMode_after {t : Turn} (h : t.isLayOut = false) :
    (b.after t).site.world.gameMode = b.site.world.gameMode := by
  cases t with
  | request r => exact (Request.keepsPose b h).mode.resolve_right id
  | fail | recover | loseTeleports => rfl
  | outside requester i f name states =>
    rw [after_outside]
    exact (World.rebuilt_put ..).gameMode

/-- The **last layout** of some turns **succeeded**: there was one, and after it no other one was
tried. -/
def LastLayoutSucceeded (b : Bench World) : List Turn → Prop :=
  Since (fun earlier t => ∃ dimension center, t = .request (.layOut dimension center) ∧
    ((Request.layOut dimension center).perform (b.play earlier)).result = .ok ())
    fun t => t.isLayOut = false

/-- Since the last layout succeeded, the game mode has been the one of the settings. -/
theorem gameMode_play (horderly : b.Orderly) {turns : List Turn}
    (h : b.LastLayoutSucceeded turns) :
    (b.play turns).site.world.gameMode = b.site.console.settings.gameMode := by
  induction turns using List.reverseRecOn with
  | nil => exact absurd h not_since_nil
  | append_singleton turns t ih =>
    have hplay : b.play (turns ++ [t]) = (b.play turns).after t := by simp [play]
    rw [hplay]
    rw [LastLayoutSucceeded, since_concat] at h
    rcases h with ⟨hsince, hother⟩ | ⟨dimension, center, rfl, hok⟩
    · exact (gameMode_after hother).trans (ih hsince)
    · rw [← settings_play horderly turns]
      exact gameMode_of_layOut hok

end Bench

/-- **The pose of the agent never drifts.** After any turns of a new bench over an empty world,
whatever its settings are and whatever failed on the way, the console knows where the agent stands
and which hotbar slot it holds, and this is one of nine. From every layout that succeeds until the
next one is tried, the game mode is the one of the settings. -/
theorem pose_never_drifts (settings : Settings) (turns : List Turn) :
    let s := ((Bench.new settings {}).play turns).site
    s.console.position = s.world.player ∧ s.console.hotbarSlot = s.world.held ∧
      s.console.hotbarSlot < 9 ∧
      ((Bench.new settings {}).LastLayoutSucceeded turns →
        s.world.gameMode = settings.gameMode) := by
  intro s
  have hposed : Posed s := Bench.posed_play (Bench.posed_new settings) turns
  exact ⟨hposed.position, hposed.hand, hposed.slot,
    fun h => Bench.gameMode_play (.new settings {}) h⟩

/-- A run that stumbles: the first layout fails in its last step, and after the second one a
teleport is lost. -/
def stumblingRun : List Turn :=
  [.fail .holdSlot, .request (.layOut 0 ⟨500, 70, 500⟩), .recover .holdSlot,
    .request (.layOut 0 ⟨1000, 64, 1000⟩), .request (.selectHotbar 7), .loseTeleports true,
    .request (.approach .origin)]

/-- Settings with a game mode of their own. -/
def adventurous : Settings := { gameModeName := "Adventure" }

theorem pose_never_drifts_stumbling :
    ∃ b : Bench World, b = (Bench.new adventurous {}).play stumblingRun ∧
      (Bench.new adventurous {}).LastLayoutSucceeded stumblingRun ∧
      b.site.world.player = ⟨1000, 64, 1000⟩ ∧ b.site.console.position = ⟨1000, 64, 1000⟩ ∧
      b.site.world.held = 7 ∧ b.site.console.hotbarSlot = 7 ∧
      b.site.world.gameMode = .adventure := by
  have hok : ((Request.layOut 0 ⟨1000, 64, 1000⟩).perform
      ((Bench.new adventurous {}).play (stumblingRun.take 3))).result = .ok () := by decide +kernel
  have hlast : (Bench.new adventurous {}).LastLayoutSucceeded stumblingRun :=
    ⟨stumblingRun.take 3, _, stumblingRun.drop 4, rfl, ⟨0, _, rfl, hok⟩,
      by simp [stumblingRun, Turn.isLayOut, Request.isLayOut]⟩
  obtain ⟨hposition, hhand, -, hmode⟩ := pose_never_drifts adventurous stumblingRun
  obtain ⟨hmoved, hheld⟩ :
      ((Bench.new adventurous {}).play stumblingRun).site.console.position = ⟨1000, 64, 1000⟩ ∧
        ((Bench.new adventurous {}).play stumblingRun).site.console.hotbarSlot = 7 := by
    decide +kernel
  have hadventure : adventurous.gameMode = .adventure := by decide +kernel
  exact ⟨_, rfl, hlast, hposition.symm.trans hmoved, hmoved, hhand.symm.trans hheld, hheld,
    (hmode hlast).trans hadventure⟩

end BlockConsole
