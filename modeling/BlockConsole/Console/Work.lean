import BlockConsole.Console.Basic
import BlockConsole.Console.Failure

/-!
# Work: computations of a console against an environment

A `Work W ε α` starts from a `Site`, that is a console and the state `W` of its environment, and
ends with a result `α` or a failure `ε`, a new site, and the list of `Event`s of the time between.
A failure keeps the site and the events up to it.

There are four primitive pieces of work: `Work.attempt` takes an action, `Work.announce` makes a
change and tells the observers, `Work.log` says something, and `Work.update` alters the console
in silence. All operations of the console are composed of these.
-/

namespace BlockConsole

/-- An **event** of a piece of work. -/
inductive Event where
  /-- An action was taken, with this reply. -/
  | acted (action : Action) (reply : Except ActionError action.Reply)
  /-- A cell was written on behalf of a requester, and these observers were told, in this order. -/
  | changed (change : Change) (requester : String) (listeners : List ObserverId)
  /-- Something was said. -/
  | logged (entry : LogEntry)

/-- A **site**: a console and the state of its environment. -/
structure Site (W : Type) where
  console : Console
  world : W

/-- The **outcome** of a piece of work. -/
structure Outcome (W ε α : Type) where
  result : Except ε α
  site : Site W
  events : List Event

/-- A piece of **work** on a site. -/
def Work (W ε α : Type) : Type := Site W → Outcome W ε α

namespace Work

variable {W ε α β : Type}

/-- Does the work on a site. -/
def run (w : Work W ε α) (s : Site W) : Outcome W ε α := w s

instance : Monad (Work W ε) where
  pure a := fun s => ⟨.ok a, s, []⟩
  bind w f := fun s =>
    match w s with
    | ⟨.error e, s₁, events₁⟩ => ⟨.error e, s₁, events₁⟩
    | ⟨.ok a, s₁, events₁⟩ =>
      let o := f a s₁
      ⟨o.result, o.site, events₁ ++ o.events⟩

/-! ### Primitive work -/

/-- Gives up. -/
def fail (e : ε) : Work W ε α := fun s => ⟨.error e, s, []⟩

/-- The console as it is. -/
def console : Work W ε Console := fun s => ⟨.ok s.console, s, []⟩

/-- The environment as it is. -/
def world : Work W ε W := fun s => ⟨.ok s.world, s, []⟩

/-- Alters the console without telling anyone. -/
def update (f : Console → Console) : Work W ε Unit := fun s =>
  ⟨.ok (), { s with console := f s.console }, []⟩

/-- Says something. -/
def log (level : Level) (source : LogSource) (text : String) : Work W ε Unit := fun s =>
  ⟨.ok (), s, [.logged ⟨level, source, text⟩]⟩

/-- Passes on what was said elsewhere. -/
def logAll (entries : List LogEntry) : Work W ε Unit := fun s =>
  ⟨.ok (), s, entries.map .logged⟩

/-- Takes an action and returns its reply, which may be an error. -/
def attempt [Environment W] (a : Action) : Work W ε (Except ActionError a.Reply) := fun s =>
  let r := Environment.respond a s.world
  ⟨.ok r.reply, { s with world := r.world }, .acted a r.reply :: r.log.map .logged⟩

/-- Makes a change on behalf of a requester and tells every observer. -/
def announce (requester : String) (change : Change) : Work W ε Unit := fun s =>
  ⟨.ok (), { s with console := s.console.apply change },
    [.changed change requester s.console.observers.listening]⟩

/-! ### Failing with an error of the console -/

/-- Refuses to go on. -/
def refuse (e : ConsoleError) : Work W Failure α :=
  fail (.error e)

/-- Goes on with the result of an action, or fails with its error. -/
def ofReply : Except ActionError α → Work W Failure α
  | .ok a => pure a
  | .error e => refuse (.action e)

/-- Takes an action that has to succeed. -/
def act [Environment W] (a : Action) : Work W Failure a.Reply := do
  ofReply (← attempt a)

/-- Sends a command that has to succeed. -/
def sendChecked [Environment W] (c : Command) (timeout : Nat) : Work W Failure Acknowledgment := do
  let reply ← attempt (.send c timeout)
  ofReply (c.outcome reply)

/-- The same work with its failures put in other words. -/
def mapError {ε' : Type} (f : ε → ε') (w : Work W ε α) : Work W ε' α := fun s =>
  let o := w s
  ⟨o.result.mapError f, o.site, o.events⟩

end Work

end BlockConsole
