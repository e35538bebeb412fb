import BlockConsole.Proofs.Bench.Course
import BlockConsole.Proofs.Bench.Move

/-!
# What observers are told

A console writes to its memory by changes, and announces each of them to whoever listens then. What
was announced among some events are the `Notice`s there (`noticesIn`). Whatever the environment
does, a request announces only on behalf of the one who asked, or of the console or the cache
themselves, and all who listen are told (`Request.attends`). Laying out announces nothing.

What the console remembers after any other request is what it remembered before with the announced
changes made one after the other (`Request.recount_perform`). So nothing that an observer has not
been told of is different from before (`Request.exists_notice`).
-/

namespace BlockConsole

open Work Console

/-! ### Spots of the memory -/

/-- A **spot** of the memory of a console: a place of the inventory or a cell. -/
inductive Spot where
  | inventory (place : Fin inventorySize)
  | cell (cell : Cell)
deriving DecidableEq

/-- The spot that a change writes. -/
def Change.spot : Change → Spot
  | inventory place _ => .inventory place
  | slot i _ => .cell (.slot i)
  | neighbor i f _ => .cell (.neighbor i f)

namespace Console

/-- Two consoles remember the same **at** a spot. -/
def SameAt (c c' : Console) : Spot → Prop
  | .inventory place => c'.inventory.get place = c.inventory.get place
  | .cell cell => c'.believed cell = c.believed cell

variable {c c' c'' : Console}

theorem SameAt.trans {spot : Spot} (h : SameAt c c' spot) (h' : SameAt c' c'' spot) :
    SameAt c c'' spot := by
  cases spot <;> exact Eq.trans h' h

namespace SameMemory

theorem refl (c : Console) : SameMemory c c := ⟨rfl, rfl, rfl⟩

theorem trans (h : SameMemory c c') (h' : SameMemory c' c'') : SameMemory c c'' :=
  ⟨h'.slots.trans h.slots, h'.neighbors.trans h.neighbors, h'.inventory.trans h.inventory⟩

theorem sameAt (h : SameMemory c c') (spot : Spot) : SameAt c c' spot := by
  cases spot with
  | inventory place => rw [SameAt, h.inventory]
  | cell cell =>
    cases cell with
    | slot i => rw [SameAt, believed, believed, slot, slot, h.slots]
    | neighbor i f => rw [SameAt, believed, believed, neighbor, neighbor, h.neighbors]

/-- Consoles that remember the same do so after the same change. -/
theorem apply (h : SameMemory c c') (change : Change) :
    SameMemory (c.apply change) (c'.apply change) := by
  cases change with
  | inventory place occupied =>
    exact ⟨h.slots, h.neighbors, by simp only [Console.apply, h.inventory]⟩
  | slot i belief => exact ⟨by simp only [Console.apply, h.slots], h.neighbors, h.inventory⟩
  | neighbor i f belief => exact ⟨h.slots, by simp only [Console.apply, h.neighbors], h.inventory⟩

end SameMemory

/-- A change is seen at the spot that it writes and at no other. -/
theorem sameAt_apply (c : Console) {change : Change} {spot : Spot} (h : change.spot ≠ spot) :
    SameAt c (c.apply change) spot := by
  have hcell (cell : Cell) (belief : Belief) (hne : Spot.cell cell ≠ spot) :
      SameAt c (c.apply (cell.change belief)) spot := by
    cases spot with
    | inventory place => cases cell <;> rfl
    | cell d => rw [SameAt, believed_apply, if_neg fun heq => hne (congrArg Spot.cell heq.symm)]
  cases change with
  | inventory place occupied =>
    cases spot with
    | inventory q =>
      have hne : place.val ≠ q.val := fun heq => h (congrArg Spot.inventory (Fin.ext heq))
      exact Vector.getElem_set_ne place.isLt q.isLt hne
    | cell cell => cases cell <;> rfl
  | slot i belief => exact hcell (.slot i) belief h
  | neighbor i f belief => exact hcell (.neighbor i f) belief h

end Console

/-! ### Notices -/

/-- A **notice**: the change that was just made, on whose behalf, and who was told. -/
structure Notice where
  change : Change
  requester : String
  listeners : List ObserverId
deriving DecidableEq

/-- The notices among some events. -/
def noticesIn (events : List Event) : List Notice :=
  events.filterMap fun
    | .changed change requester listeners => some ⟨change, requester, listeners⟩
    | _ => none

@[simp] theorem noticesIn_nil : noticesIn [] = [] := rfl

@[simp] theorem noticesIn_append (es fs : List Event) :
    noticesIn (es ++ fs) = noticesIn es ++ noticesIn fs :=
  List.filterMap_append

@[simp] theorem noticesIn_logged (entries : List LogEntry) :
    noticesIn (entries.map .logged) = [] := by
  simp [noticesIn]

/-- The console with the changes of some notices made one after the other. -/
def Console.recount (c : Console) (notices : List Notice) : Console :=
  notices.foldl (fun c n => c.apply n.change) c

namespace Console

theorem recount_append (c : Console) (ns ms : List Notice) :
    c.recount (ns ++ ms) = (c.recount ns).recount ms :=
  List.foldl_append

theorem SameMemory.recount {c c' : Console} (h : SameMemory c c') (notices : List Notice) :
    SameMemory (c.recount notices) (c'.recount notices) := by
  induction notices generalizing c c' with
  | nil => exact h
  | cons n rest ih => exact ih (h.apply n.change)

/-- Only the spots that are named in a notice can be different. -/
theorem sameAt_recount (c : Console) {notices : List Notice} {spot : Spot}
    (h : ∀ n ∈ notices, n.change.spot ≠ spot) : SameAt c (c.recount notices) spot := by
  induction notices generalizing c with
  | nil => exact (SameMemory.refl c).sameAt spot
  | cons n rest ih =>
    have hfirst := sameAt_apply c (h n List.mem_cons_self)
    exact hfirst.trans (ih (c.apply n.change) fun m hm => h m (List.mem_cons_of_mem n hm))

end Console

variable {W : Type} [Environment W]

/-- Taking an action announces nothing. -/
@[simp] theorem noticesIn_actEvents (a : Action) (w : W) : noticesIn (actEvents a w) = [] :=
  noticesIn_logged _

/-! ### What the console remembers -/

/-- Remembering what was remembered before and what was announced since, as a frame. -/
def recounting (W : Type) : Frame W where
  Allows s s' events := SameMemory (s.console.recount (noticesIn events)) s'.console
  quiet s entries := by
    rw [noticesIn_logged]
    exact .refl s.console
  trans h₁ h₂ := by
    rw [noticesIn_append, recount_append]
    exact (h₁.recount _).trans h₂

theorem recounting_covers : (recounting W).Covers fun _ _ => True where
  act a s _ := by
    show SameMemory (s.console.recount (noticesIn (actEvents a s.world))) s.console
    rw [noticesIn_actEvents]
    exact .refl s.console
  change _ _ _ _ := .refl _
  update _ s hg := hg s.console

namespace Request

variable {r : Request}

/-- After a request other than laying out the console remembers what it remembered before and what
was announced since. -/
theorem recount_perform (b : Bench W) (hlay : r.isLayOut = false) :
    SameMemory (b.site.console.recount (noticesIn (r.perform b).events))
      (r.perform b).bench.site.console := by
  refine recounting_covers.request b hlay (fun _ _ _ => trivial) fun a s _ => ?_
  show SameMemory (s.console.recount (noticesIn (actEvents a s.world))) s.console
  rw [noticesIn_actEvents]
  exact .refl s.console

/-- What is different after a request other than laying out was announced. -/
theorem exists_notice (b : Bench W) (hlay : r.isLayOut = false) {spot : Spot}
    (h : ¬ SameAt b.site.console (r.perform b).bench.site.console spot) :
    ∃ n ∈ noticesIn (r.perform b).events, n.change.spot = spot := by
  by_contra hnone
  have hsame : SameAt b.site.console
      (b.site.console.recount (noticesIn (r.perform b).events)) spot :=
    sameAt_recount _ fun n hn heq => hnone ⟨n, hn, heq⟩
  exact h (hsame.trans ((recount_perform b hlay).sameAt spot))

end Request

/-! ### Who is told -/

/-- Telling all who listen, on behalf of those who may speak, as a frame. -/
def attending (W : Type) (speaks : String → Prop) : Frame W where
  Allows s s' events := s'.console.observers = s.console.observers ∧
    ∀ n ∈ noticesIn events, speaks n.requester ∧ n.listeners = s.console.observers.listening
  quiet _ entries := ⟨rfl, by simp⟩
  trans := by
    rintro s₁ s₂ s₃ es fs ⟨h₁, hn₁⟩ ⟨h₂, hn₂⟩
    refine ⟨h₂.trans h₁, fun n hn => ?_⟩
    rw [noticesIn_append, List.mem_append] at hn
    rcases hn with hn | hn
    · exact hn₁ n hn
    · exact h₁ ▸ hn₂ n hn

theorem attending_admits (speaks : String → Prop) :
    (attending W speaks).Admits speaks fun _ _ => True where
  act _ _ _ := ⟨rfl, by simp⟩
  change requester change s hwho _ := by
    refine ⟨by cases change <;> rfl, fun n hn => ?_⟩
    rw [run_announce] at hn
    rw [List.mem_singleton.mp hn]
    exact ⟨hwho, rfl⟩
  move _ _ := ⟨rfl, by simp⟩
  hold _ _ := ⟨rfl, by simp⟩

namespace Request

/-- The observers after a request. -/
def observersAfter (o : Observers) : Request → Observers
  | addObserver => o.add.2
  | removeObserver id => (o.remove id).2
  | _ => o

/-- Laying out announces nothing. -/
theorem attends_layOut (dimension : Word) (center : Position) (s : Site W) :
    Within (attending W fun _ => False) (Console.layOut dimension center) s :=
  (attending_admits fun _ => False).layOut ⟨rfl, by simp⟩ fun _ => ⟨rfl, by simp⟩

/-- A request tells all who listen, on behalf of its own speaker, and it changes who listens only if
it is about that. -/
theorem attends (r : Request) (b : Bench W) :
    (r.perform b).bench.site.console.observers = r.observersAfter b.site.console.observers ∧
      ∀ n ∈ noticesIn (r.perform b).events,
        r.speaker? = some n.requester ∧ n.listeners = b.site.console.observers.listening := by
  cases hlay : r.isLayOut with
  | true =>
    obtain ⟨dimension, center, rfl⟩ := Request.exists_layOut hlay
    obtain ⟨hobservers, hnone⟩ := attends_layOut dimension center b.site
    exact ⟨hobservers, fun n hn => (hnone n hn).1.elim⟩
  | false =>
    cases hconcerns : r.concernsObservers with
    | true =>
      cases r with
      | addObserver | removeObserver => exact ⟨rfl, fun n hn => absurd hn List.not_mem_nil⟩
      | _ => exact absurd hconcerns Bool.false_ne_true
    | false =>
      have hsame : r.observersAfter b.site.console.observers = b.site.console.observers := by
        cases r with
        | addObserver | removeObserver => exact absurd hconcerns.symm Bool.false_ne_true
        | _ => rfl
      rw [hsame]
      refine (attending_admits fun who => r.speaker? = some who).hosts.request b hlay (fun _ h => h)
        (fun _ _ _ => trivial) (fun _ _ _ => ⟨rfl, by simp⟩) fun h => ?_
      exact absurd (hconcerns.symm.trans h) Bool.false_ne_true

end Request

end BlockConsole
