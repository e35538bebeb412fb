import BlockConsole.Proofs.Bench.Course
import BlockConsole.Proofs.Console.Atomicity
import BlockConsole.World.Respond

/-!
# A console without a work area

A new console has no work area, and whoever lays out another one gives up the last: until a layout
succeeds the console is **idle** (`Bench.initialized_serve_iff`). An operation that begins by asking
whether there is a work area is refused by an idle console without further effect
(`Request.perform_of_idle`). Taking a hotbar slot in hand is the one operation with an action that
does not ask. So an idle console takes no action but that one (`idle_console_only_holds`), and it
does take it (`idle_console_holds_slot`).
-/

namespace BlockConsole

open Work Console

namespace Request

/-- Whether a request **asks first** whether there is a work area. -/
def asksReady : Request → Bool
  | approach _ => true
  | obtainHelper _ => true
  | placeHelper .. => true
  | putInSlot .. => true
  | clearSlot .. => true
  | openSlot _ => true
  | openSlotAt _ => true
  | cacheLoad _ => true
  | cacheStore .. => true
  | _ => false

/-- The actions that a request takes from an idle console: another hotbar slot is taken in hand. -/
def idleActions (c : Console) : Request → List Action
  | selectHotbar index =>
    if index < hotbarSize ∧ index ≠ c.hotbarSlot then [.holdSlot index] else []
  | _ => []

theorem idleActions_selectHotbar {c : Console} {index : Nat}
    (h : index < hotbarSize ∧ index ≠ c.hotbarSlot) :
    (selectHotbar index).idleActions c = [.holdSlot index] := by
  rw [idleActions, if_pos h]

/-- What an idle console takes in hand is a hotbar slot. -/
theorem exists_selectHotbar_of_mem_idleActions {r : Request} {c : Console} {a : Action}
    (h : a ∈ r.idleActions c) :
    ∃ index, r = .selectHotbar index ∧ index < hotbarSize ∧ a = .holdSlot index := by
  cases r with
  | selectHotbar index =>
    rw [idleActions] at h
    split at h
    · next hslot => exact ⟨index, rfl, hslot.1, List.mem_singleton.mp h⟩
    · exact absurd h List.not_mem_nil
  | _ => exact absurd h List.not_mem_nil

end Request

variable {W : Type} [Environment W]

/-! ### Refusals -/

/-- An operation that asks first is refused by an idle console, and changes nothing. -/
theorem Request.perform_of_idle {b : Bench W} {r : Request}
    (hidle : b.site.console.initialized = false) (hr : r.asksReady = true) :
    (r.perform b).result = .error (.error .uninitialized) ∧ (r.perform b).bench = b ∧
      (r.perform b).events = [] := by
  have hrefuse {α : Type} (f : Unit → Work W Failure α) :
      (requireReady >>= f).run b.site = ⟨.error (.error .uninitialized), b.site, []⟩ :=
    run_bind_of_error (run_requireReady_of_not hidle)
  have honSite {α : Type} (f : Unit → Work W Failure α) :
      b.onSite (requireReady >>= f) = ⟨.error (.error .uninitialized), b, []⟩ := by
    rw [Bench.onSite, hrefuse f]
  cases r with
  | cacheLoad i =>
    have hc := b.load_cases i
    generalize (cacheLoad i).perform b = t at hc ⊢
    cases hc with
    | idle => exact ⟨rfl, rfl, rfl⟩
    | missed h | refused h | restored h => exact absurd (h.symm.trans hidle) (by decide)
  | cacheStore customName facing =>
    have hc := b.store_cases customName facing
    generalize (cacheStore customName facing).perform b = t at hc ⊢
    cases hc with
    | idle => exact ⟨rfl, rfl, rfl⟩
    | absent h | present h | refused h | captured h => exact absurd (h.symm.trans hidle) (by decide)
  | approach | obtainHelper | placeHelper | putInSlot | clearSlot | openSlot | openSlotAt =>
    refine ⟨?_, ?_, ?_⟩
    · exact congrArg Transition.result (honSite _)
    · exact congrArg Transition.bench (honSite _)
    · exact congrArg Transition.events (honSite _)
  | _ => exact absurd hr Bool.false_ne_true

/-! ### Whether there is a work area -/

/-- Keeping or lacking a work area, as a frame. -/
def settled (W : Type) : Frame W where
  Allows s s' _ := s'.console.initialized = s.console.initialized
  quiet _ _ := rfl
  trans h₁ h₂ := h₂.trans h₁

theorem settled_admits : (settled W).Admits (fun _ => True) fun _ _ => True where
  act _ _ _ := rfl
  change _ change _ _ _ := by cases change <;> rfl
  move _ _ := rfl
  hold _ _ := rfl

/-- Only laying out decides whether there is a work area. -/
theorem Request.initialized_perform {r : Request} (b : Bench W) (hlay : r.isLayOut = false) :
    (r.perform b).bench.site.console.initialized = b.site.console.initialized :=
  settled_admits.hosts.request b hlay (fun _ _ => trivial) (fun _ _ _ => trivial) (fun _ _ _ => rfl)
    fun _ _ _ => rfl

namespace Work

variable {α β : Type} {P : Site W → Prop}

/-- Work **makes** a property of the site true if the property holds whenever the work succeeds. -/
def Makes (P : Site W → Prop) (w : Work W Failure α) : Prop :=
  ∀ s a, (w.run s).result = .ok a → P (w.run s).site

omit [Environment W] in
/-- What the last part of some work makes true, the whole makes true. -/
theorem Makes.after {w : Work W Failure α} {f : α → Work W Failure β} (hf : ∀ a, Makes P (f a)) :
    Makes P (w >>= f) := by
  intro s b h
  rw [run_bind] at h ⊢
  cases hw : (w.run s).result with
  | error e =>
    rw [hw] at h
    exact absurd h (by simp)
  | ok a =>
    rw [hw] at h
    exact hf a _ b h

end Work

/-- Building a work area ends with the belief in it. -/
theorem makes_buildArea (settings : Settings) (dimension : Word) (center : Position) :
    Makes (fun s : Site W => s.console.initialized = true)
      (buildArea settings dimension center) := by
  have hlast (text : String) : Makes (fun s : Site W => s.console.initialized = true)
      (do Work.update laidOut; Work.log .info .console text) := fun _ _ _ => rfl
  exact .after fun _ => .after fun _ => .after fun _ => .after fun _ => .after fun _ =>
    .after fun _ => .after fun _ => .after fun _ => hlast _

/-- There is a work area exactly if the last attempt to lay one out succeeded. -/
theorem initialized_layOut_iff (s : Site W) (dimension : Word) (center : Position) :
    ((layOut dimension center).run s).site.console.initialized = true ↔
      ((layOut dimension center).run s).result = .ok () := by
  constructor
  · intro h
    cases hr : ((layOut dimension center).run s).result with
    | ok x => rfl
    | error e => exact absurd (h.symm.trans (blank_of_layOut_error hr).initialized) (by decide)
  · intro h
    cases hsafe : isUnsafeCenter s.console.settings center with
    | true =>
      rw [run_layOut_refused hsafe] at h
      exact absurd h (by simp)
    | false =>
      rw [run_layOut_of_safe hsafe] at h ⊢
      exact makes_buildArea _ dimension center _ () h

namespace Bench

/-- The **last layout succeeded**: some requests lay out a work area, and the last attempt did. -/
def LastLaidOut (b : Bench W) : List Request → Prop :=
  Since (fun earlier r => ∃ dimension center, r = .layOut dimension center ∧
    ((Request.layOut dimension center).perform (b.serve earlier)).result = .ok ())
    fun r => r.isLayOut = false

/-- After some requests of a bench without a work area there is one exactly if the last layout
succeeded. -/
theorem initialized_serve_iff {b : Bench W} (hidle : b.site.console.initialized = false)
    (requests : List Request) :
    (b.serve requests).site.console.initialized = true ↔ b.LastLaidOut requests := by
  induction requests using List.reverseRecOn with
  | nil =>
    refine iff_of_false ?_ not_since_nil
    rw [serve, List.foldl_nil, hidle]
    exact Bool.false_ne_true
  | append_singleton requests r ih =>
    rw [serve_concat, LastLaidOut, since_concat]
    cases hlay : r.isLayOut with
    | false =>
      rw [Request.initialized_perform _ hlay, ih, and_iff_left rfl]
      refine (or_iff_left ?_).symm
      rintro ⟨dimension, center, rfl, -⟩
      exact absurd hlay.symm Bool.false_ne_true
    | true =>
      obtain ⟨dimension, center, rfl⟩ := Request.exists_layOut hlay
      refine (initialized_layOut_iff (b.serve requests).site dimension center).trans ?_
      constructor
      · exact fun hok => .inr ⟨dimension, center, rfl, hok⟩
      · rintro (⟨-, hfalse⟩ | ⟨_, _, ⟨⟩, hok⟩)
        · exact absurd hfalse.symm Bool.false_ne_true
        · exact hok

end Bench

/-! ### What an idle console does -/

/-- Taking no action, as a frame. -/
def handsOff (W : Type) : Frame W where
  Allows _ _ events := actionsIn events = []
  quiet _ entries := actionsIn_logged entries
  trans h₁ h₂ := by rw [actionsIn_append, h₁, h₂, List.append_nil]

/-- Taking a hotbar slot in hand is an action, unless it is in hand already. -/
theorem actionsIn_selectHotbar (index : Nat) (s : Site W) :
    actionsIn ((selectHotbar index).run s).events =
      Request.idleActions s.console (.selectHotbar index) := by
  rw [selectHotbar]
  split
  · next hge => simp [Request.idleActions, Nat.not_lt.mpr hge]
  · next hlt =>
    rw [run_bind_of_ok (run_console s), Outcome.after_nil]
    split
    · next hsame => simp [Request.idleActions, hsame]
    · next hother =>
      rw [Request.idleActions_selectHotbar ⟨Nat.lt_of_not_le hlt, hother⟩, run_bind, run_act]
      cases (Environment.respond (.holdSlot index) s.world).reply <;> simp

/-- From an idle console, a request takes exactly its idle actions, unless it lays out a work area
or empties the cache. -/
theorem Request.actionsIn_of_idle {b : Bench W} {r : Request}
    (hidle : b.site.console.initialized = false) (hlay : r.isLayOut = false)
    (hclear : r ≠ .cacheClear) :
    actionsIn (r.perform b).events = r.idleActions b.site.console := by
  have hasked (hr : r.asksReady = true) : actionsIn (r.perform b).events = [] := by
    rw [(Request.perform_of_idle hidle hr).2.2]
    rfl
  have hannounce (requester : String) (change : Change) (s : Site W) :
      Within (handsOff W) (announce requester change : Work W Failure Unit) s := rfl
  cases r with
  | layOut => exact absurd hlay.symm Bool.false_ne_true
  | cacheClear => exact absurd rfl hclear
  | approach | obtainHelper | placeHelper | putInSlot | clearSlot | openSlot | openSlotAt
  | cacheLoad | cacheStore => exact hasked rfl
  | search | claimable | cacheCheck | addObserver | removeObserver => rfl
  | spareSlots includeCenter => exact within_requireSpareSlots (F := handsOff W) includeCenter
  | inventoryPlace excluding => exact within_requireInventoryPlace (F := handsOff W) excluding
  | recordInventory requester index occupied =>
    show Within (handsOff W) (Console.recordInventory requester index occupied) b.site
    unfold Console.recordInventory
    split
    · exact hannounce requester _ b.site
    · exact within_refuse
  | recordSlot requester index belief =>
    exact within_slot (F := handsOff W) fun i _ => hannounce requester (.slot i belief) b.site
  | recordNeighbor requester index f belief =>
    exact within_slot (F := handsOff W) fun i _ => hannounce requester (.neighbor i f belief) b.site
  | selectHotbar index => exact actionsIn_selectHotbar index b.site

namespace Bench

/-- So all actions that are taken from an idle console are to take hotbar slots in hand that were
asked for, until a work area is laid out or the cache is emptied. -/
theorem exists_selectHotbar_of_mem_course {b : Bench W}
    (hidle : b.site.console.initialized = false) {requests : List Request}
    (h : ∀ r ∈ requests, r.isLayOut = false ∧ r ≠ .cacheClear) {a : Action}
    (ha : a ∈ actionsIn (b.course requests)) :
    ∃ index, .selectHotbar index ∈ requests ∧ index < hotbarSize ∧ a = .holdSlot index := by
  induction requests generalizing b with
  | nil => exact absurd ha List.not_mem_nil
  | cons r rest ih =>
    obtain ⟨hlay, hclear⟩ := h r List.mem_cons_self
    rw [course, actionsIn_append, List.mem_append] at ha
    rcases ha with hfirst | hlater
    · rw [Request.actionsIn_of_idle hidle hlay hclear] at hfirst
      obtain ⟨index, rfl, hlt, rfl⟩ := Request.exists_selectHotbar_of_mem_idleActions hfirst
      exact ⟨index, List.mem_cons_self, hlt, rfl⟩
    · have hstill : (r.perform b).bench.site.console.initialized = false :=
        (Request.initialized_perform b hlay).trans hidle
      obtain ⟨index, hmem, hlt, rfl⟩ :=
        ih hstill (fun u hu => h u (List.mem_cons_of_mem r hu)) hlater
      exact ⟨index, List.mem_cons_of_mem r hmem, hlt, rfl⟩

end Bench

/-- **An idle console only holds.** After any history of a new bench over any environment, the
console is idle unless the last attempt to lay out a work area succeeded. From an idle console, a
request that asks first is refused without any effect, and any other one takes no action unless it
is to take another hotbar slot in hand; laying out and emptying the cache apart. The console stays
idle meanwhile, and as long as no hotbar slot is asked for, nothing happens to the environment. -/
theorem idle_console_only_holds :
    (∀ (settings : Settings) (world : W) (history : List Request),
      ((Bench.new settings world).serve history).site.console.initialized = true ↔
        (Bench.new settings world).LastLaidOut history) ∧
    ∀ b : Bench W, b.site.console.initialized = false →
      (∀ r : Request, r.asksReady = true →
        (r.perform b).result = .error (.error .uninitialized) ∧ (r.perform b).bench = b ∧
          (r.perform b).events = []) ∧
      (∀ r : Request, r.isLayOut = false → r ≠ .cacheClear →
        (r.perform b).bench.site.console.initialized = false ∧
          actionsIn (r.perform b).events = r.idleActions b.site.console) ∧
      ∀ requests : List Request, (∀ r ∈ requests, r.isLayOut = false ∧ r ≠ .cacheClear) →
        (∀ a ∈ actionsIn (b.course requests), ∃ index, .selectHotbar index ∈ requests ∧
          index < hotbarSize ∧ a = .holdSlot index) ∧
        ((∀ index, .selectHotbar index ∉ requests) →
          actionsIn (b.course requests) = [] ∧ (b.serve requests).site.world = b.site.world) := by
  refine ⟨fun settings world history => Bench.initialized_serve_iff rfl history,
    fun b hidle => ⟨fun r hr => Request.perform_of_idle hidle hr, fun r hlay hclear => ?_,
      fun requests h => ⟨fun a ha => Bench.exists_selectHotbar_of_mem_course hidle h ha,
        fun hnone => ?_⟩⟩⟩
  · exact ⟨(Request.initialized_perform b hlay).trans hidle,
      Request.actionsIn_of_idle hidle hlay hclear⟩
  · have hquiet : actionsIn (b.course requests) = [] := by
      refine List.eq_nil_iff_forall_not_mem.mpr fun a ha => ?_
      obtain ⟨index, hmem, -⟩ := Bench.exists_selectHotbar_of_mem_course hidle h ha
      exact hnone index hmem
    exact ⟨hquiet, Bench.world_of_course (fun r hr => (h r hr).1) hquiet⟩

/-- A history in which a work area is given up for one too near to the origin of the world. -/
def givenUp : List Request :=
  [.layOut 0 ⟨1000, 64, 1000⟩, .obtainHelper .anvil, .layOut 0 ⟨0, 64, 0⟩]

theorem idle_console_only_holds_givenUp :
    ∃ b : Bench Jammed, b = (Bench.new {} .jammed).serve givenUp ∧
      b.site.console.initialized = false ∧ ¬ (Bench.new {} Jammed.jammed).LastLaidOut givenUp ∧
      ((Request.obtainHelper .loom).perform b).result = .error (.error .uninitialized) ∧
      actionsIn ((Request.selectHotbar 4).perform b).events = [.holdSlot 4] ∧
      actionsIn (b.course [.openSlot 0, .recordSlot "user" 1 .loom]) = [] := by
  obtain ⟨hready, hact⟩ := idle_console_only_holds (W := Jammed)
  have hidle : ((Bench.new {} Jammed.jammed).serve givenUp).site.console.initialized = false := by
    decide +kernel
  obtain ⟨hrefused, htaken, hrun⟩ := hact _ hidle
  refine ⟨_, rfl, hidle, ?_, (hrefused (.obtainHelper .loom) rfl).1, ?_, ?_⟩
  · rw [← hready, hidle]
    decide
  · exact (htaken (.selectHotbar 4) rfl (by simp)).2.trans
      (Request.idleActions_selectHotbar (by decide +kernel))
  · exact ((hrun [.openSlot 0, .recordSlot "user" 1 .loom] (by simp [Request.isLayOut])).2
      (by simp)).1

/-- A new console takes a hotbar slot in hand although it has no work area. -/
theorem idle_console_holds_slot :
    ∃ b : Bench World, b = Bench.new {} {} ∧ b.site.console.initialized = false ∧
      actionsIn ((Request.selectHotbar 3).perform b).events = [.holdSlot 3] ∧
      ((Request.selectHotbar 3).perform b).bench.site.world.held = 3 := by
  refine ⟨_, rfl, rfl, ?_, by decide +kernel⟩
  exact (Request.actionsIn_of_idle rfl rfl (by simp)).trans
    (Request.idleActions_selectHotbar (by decide))

end BlockConsole
