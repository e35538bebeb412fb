import BlockConsole.Console.Work

/-!
# Running work, and what work leaves alone

The equations of `Work.run` say what each primitive piece of work does to a site, and `run_bind`
how two pieces are put together. Everything that is proved about an operation of the console starts
from them.

A `Frame` is a relation between the site before some work, the site after it and the events of the
time between, which doing nothing satisfies and which composes. Work is `Within` a frame if it
satisfies the relation whatever comes of it, and `FailsWithin` a frame if it does so whenever it
fails. An operation that first asks, then acts, and writes to its memory only at the end fails
within any frame that its questions and its failed actions respect: `FailsWithin.bind` and
`FailsWithin.bind_total` turn this into a proof, step by step.
-/

namespace BlockConsole

/-- An outcome with some events put before its own. -/
def Outcome.after {W ε α : Type} (events : List Event) (o : Outcome W ε α) : Outcome W ε α :=
  { o with events := events ++ o.events }

namespace Outcome

variable {W ε α : Type} (events : List Event) (o : Outcome W ε α)

@[simp] theorem after_result : (o.after events).result = o.result := rfl

@[simp] theorem after_site : (o.after events).site = o.site := rfl

@[simp] theorem after_events : (o.after events).events = events ++ o.events := rfl

@[simp] theorem after_nil : o.after [] = o := rfl

end Outcome

namespace Work

variable {W ε α β : Type}

/-! ### Equations -/

@[simp] theorem run_pure (a : α) (s : Site W) : (pure a : Work W ε α).run s = ⟨.ok a, s, []⟩ := rfl

@[simp] theorem run_fail (e : ε) (s : Site W) : (fail e : Work W ε α).run s = ⟨.error e, s, []⟩ :=
  rfl

@[simp] theorem run_refuse (e : ConsoleError) (s : Site W) :
    (refuse e : Work W Failure α).run s = ⟨.error (.error e), s, []⟩ := rfl

@[simp] theorem run_console (s : Site W) :
    (console : Work W ε Console).run s = ⟨.ok s.console, s, []⟩ := rfl

@[simp] theorem run_update (f : Console → Console) (s : Site W) :
    (update f : Work W ε Unit).run s = ⟨.ok (), { s with console := f s.console }, []⟩ := rfl

@[simp] theorem run_log (level : Level) (source : LogSource) (text : String) (s : Site W) :
    (log level source text : Work W ε Unit).run s =
      ⟨.ok (), s, [.logged ⟨level, source, text⟩]⟩ := rfl

@[simp] theorem run_logAll (entries : List LogEntry) (s : Site W) :
    (logAll entries : Work W ε Unit).run s = ⟨.ok (), s, entries.map .logged⟩ := rfl

@[simp] theorem run_announce (requester : String) (change : Change) (s : Site W) :
    (announce requester change : Work W ε Unit).run s =
      ⟨.ok (), { s with console := s.console.apply change },
        [.changed change requester s.console.observers.listening]⟩ := rfl

/-- Two pieces of work run one after the other, unless the first one fails. -/
theorem run_bind (w : Work W ε α) (f : α → Work W ε β) (s : Site W) :
    (w >>= f).run s =
      match (w.run s).result with
      | .error e => ⟨.error e, (w.run s).site, (w.run s).events⟩
      | .ok a => ((f a).run (w.run s).site).after (w.run s).events := by
  cases hw : w s with
  | mk result site events =>
    simp only [run, bind, hw]
    cases result <;> rfl

theorem run_bind_of_ok {w : Work W ε α} {f : α → Work W ε β} {s s₁ : Site W} {a : α}
    {events : List Event} (h : w.run s = ⟨.ok a, s₁, events⟩) :
    (w >>= f).run s = ((f a).run s₁).after events := by
  rw [run_bind, h]

theorem run_bind_of_error {w : Work W ε α} {f : α → Work W ε β} {s s₁ : Site W} {e : ε}
    {events : List Event} (h : w.run s = ⟨.error e, s₁, events⟩) :
    (w >>= f).run s = ⟨.error e, s₁, events⟩ := by
  rw [run_bind, h]

/-- Work that answers what was known before answers nothing else. -/
theorem eq_of_bind_pure {w : Work W ε α} {b b' : β} {s : Site W}
    (h : ((w >>= fun _ => pure b).run s).result = .ok b') : b = b' := by
  rw [run_bind] at h
  cases hw : (w.run s).result with
  | error e => simp [hw] at h
  | ok a =>
    simp only [hw] at h
    exact Except.ok.inj h

/-! ### Actions -/

variable [Environment W]

/-- The events of taking an action: the action with its reply, and what was said meanwhile. -/
def actEvents (a : Action) (w : W) : List Event :=
  let r := Environment.respond a w
  .acted a r.reply :: r.log.map .logged

theorem acted_mem_actEvents {a : Action} {w : W} {reply : Except ActionError a.Reply}
    (h : (Environment.respond a w).reply = reply) : .acted a reply ∈ actEvents a w := by
  rw [actEvents, h]
  exact List.mem_cons_self

/-- The site after taking an action. -/
def siteAfter (a : Action) (s : Site W) : Site W :=
  { s with world := (Environment.respond a s.world).world }

@[simp] theorem siteAfter_console (a : Action) (s : Site W) :
    (siteAfter a s).console = s.console := rfl

@[simp] theorem siteAfter_world (a : Action) (s : Site W) :
    (siteAfter a s).world = (Environment.respond a s.world).world := rfl

@[simp] theorem run_attempt (a : Action) (s : Site W) :
    (attempt a : Work W ε _).run s =
      ⟨.ok (Environment.respond a s.world).reply, siteAfter a s, actEvents a s.world⟩ := rfl

@[simp] theorem mapError_ok {ε' : Type} (f : ε → ε') (a : α) :
    (Except.ok a : Except ε α).mapError f = .ok a := rfl

@[simp] theorem mapError_error {ε' : Type} (f : ε → ε') (e : ε) :
    (Except.error e : Except ε α).mapError f = .error (f e) := rfl

/-- Taking an action that has to succeed. -/
theorem run_act (a : Action) (s : Site W) :
    (act a).run s =
      ⟨(Environment.respond a s.world).reply.mapError fun e => .error (.action e),
        siteAfter a s, actEvents a s.world⟩ := by
  rw [act, run_bind_of_ok (run_attempt a s)]
  cases (Environment.respond a s.world).reply <;> simp [ofReply, Outcome.after]

/-- Sending a command that has to succeed. -/
theorem run_sendChecked (c : Command) (timeout : Nat) (s : Site W) :
    (sendChecked c timeout).run s =
      ⟨(c.outcome (Environment.respond (.send c timeout) s.world).reply).mapError
          fun e => .error (.action e),
        siteAfter (.send c timeout) s, actEvents (.send c timeout) s.world⟩ := by
  rw [sendChecked, run_bind_of_ok (run_attempt (.send c timeout) s)]
  cases c.outcome (Environment.respond (.send c timeout) s.world).reply <;>
    simp [ofReply, Outcome.after]

end Work

/-! ### Frames -/

/-- A **frame**: what some work may have done to a site, in view of the events of the time between.
Saying something is always allowed, and what is allowed composes. -/
structure Frame (W : Type) where
  Allows : Site W → Site W → List Event → Prop
  quiet : ∀ (s : Site W) (entries : List LogEntry), Allows s s (entries.map .logged)
  trans : ∀ {s₁ s₂ s₃ : Site W} {es fs : List Event},
    Allows s₁ s₂ es → Allows s₂ s₃ fs → Allows s₁ s₃ (es ++ fs)

theorem Frame.refl {W : Type} (F : Frame W) (s : Site W) : F.Allows s s [] := F.quiet s []

namespace Work

variable {W ε α β : Type} {F : Frame W} {w : Work W ε α} {f : α → Work W ε β} {s : Site W}

/-- Work is **within** a frame at a site if the frame allows what it does, whatever comes of it. -/
def Within (F : Frame W) (w : Work W ε α) (s : Site W) : Prop :=
  F.Allows s (w.run s).site (w.run s).events

/-- Work **fails within** a frame at a site if the frame allows what it did before it failed. -/
def FailsWithin (F : Frame W) (w : Work W ε α) (s : Site W) : Prop :=
  ∀ e, (w.run s).result = .error e → F.Allows s (w.run s).site (w.run s).events

/-- Work that **never fails**, on whatever site. -/
def Total (w : Work W ε α) : Prop :=
  ∀ s e, (w.run s).result ≠ .error e

theorem Within.failsWithin (h : Within F w s) : FailsWithin F w s := fun _ _ => h

theorem Total.failsWithin (h : Total w) (s : Site W) : FailsWithin F w s :=
  fun e he => absurd he (h s e)

/-- Work within a frame, followed by work within it. -/
theorem Within.bind (hw : Within F w s)
    (hf : ∀ a, (w.run s).result = .ok a → Within F (f a) (w.run s).site) :
    Within F (w >>= f) s := by
  rw [Within, run_bind]
  cases h : (w.run s).result with
  | error e => exact hw
  | ok a => exact F.trans hw (hf a h)

/-- Work within a frame, followed by work that fails within it. -/
theorem FailsWithin.bind (hw : Within F w s)
    (hf : ∀ a, (w.run s).result = .ok a → FailsWithin F (f a) (w.run s).site) :
    FailsWithin F (w >>= f) s := by
  rw [FailsWithin, run_bind]
  cases h : (w.run s).result with
  | error e => exact fun _ _ => hw
  | ok a => exact fun e he => F.trans hw (hf a h e he)

/-- Work that fails within a frame, followed by work that never fails. -/
theorem FailsWithin.bind_total (hw : FailsWithin F w s) (hf : ∀ a, Total (f a)) :
    FailsWithin F (w >>= f) s := by
  rw [FailsWithin, run_bind]
  cases h : (w.run s).result with
  | error e => exact fun _ _ => hw e h
  | ok a => exact fun e he => absurd he (hf a _ e)

theorem Total.bind (hw : Total w) (hf : ∀ a, Total (f a)) : Total (w >>= f) := by
  intro s e he
  rw [run_bind] at he
  cases h : (w.run s).result with
  | error e' => exact hw s e' h
  | ok a =>
    rw [h] at he
    exact hf a _ e he

theorem total_pure {a : α} : Total (pure a : Work W ε α) := by simp [Total]

theorem total_console : Total (console : Work W ε Console) := by simp [Total]

theorem total_update {g : Console → Console} : Total (update g : Work W ε Unit) := by simp [Total]

theorem total_log {level : Level} {source : LogSource} {text : String} :
    Total (log level source text : Work W ε Unit) := by simp [Total]

theorem total_announce {requester : String} {change : Change} :
    Total (announce requester change : Work W ε Unit) := by simp [Total]

theorem total_attempt [Environment W] {a : Action} : Total (attempt a : Work W ε _) := by
  simp [Total]

theorem within_pure {a : α} : Within F (pure a : Work W ε α) s := F.refl s

theorem within_fail {e : ε} : Within F (fail e : Work W ε α) s := F.refl s

theorem within_refuse {e : ConsoleError} : Within F (refuse e : Work W Failure α) s := F.refl s

theorem within_console : Within F (console : Work W ε Console) s := F.refl s

theorem within_log {level : Level} {source : LogSource} {text : String} :
    Within F (log level source text : Work W ε Unit) s := F.quiet s [_]

theorem within_logAll {entries : List LogEntry} :
    Within F (logAll entries : Work W ε Unit) s := F.quiet s entries

/-! ### Success -/

/-- Work that begins at a site **ends** at another if it succeeds there. -/
def Ends (w : Work W ε α) (s s' : Site W) : Prop :=
  (∃ a, (w.run s).result = .ok a) ∧ (w.run s).site = s'

/-- If two pieces of work succeed, then the first one did, and the second one went on from there. -/
theorem Ends.seq {w : Work W ε α} {g : Work W ε β} {s s' : Site W}
    (h : Ends (do let _ ← w; g) s s') : ∃ s₁, Ends w s s₁ ∧ Ends g s₁ s' := by
  obtain ⟨⟨b, hb⟩, hsite⟩ := h
  rw [run_bind] at hb hsite
  cases hw : (w.run s).result with
  | error e =>
    rw [hw] at hb
    exact absurd hb (by simp)
  | ok a =>
    rw [hw] at hb hsite
    exact ⟨(w.run s).site, ⟨⟨a, hw⟩, rfl⟩, ⟨b, hb⟩, hsite⟩

end Work

end BlockConsole
