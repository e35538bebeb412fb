import BlockConsole.Session.LogFilter
import BlockConsole.Session.Run
import BlockConsole.Text.Escape

/-!
# Launching a session

`Launch.ofFile` is all that the command line does, apart from reading the file and printing: it
reads the configuration, announces the session, runs it and reports a failure. The log is shown as
far as the configuration says, and in a form that does not steer a terminal.
-/

namespace BlockConsole

/-- What a **launch** leaves behind: the exit code, the lines for the reader, and a complaint if
there was no session. -/
structure Launch where
  exitCode : Nat
  output : List String
  complaint : Option String
deriving DecidableEq

namespace Launch

/-- The file that is read where none is named. -/
def defaultPath : String := "session.toml"

/-- The version of the program. -/
def version : String := "0.1.0"

/-- The line that shows a log entry. -/
def line (e : LogEntry) : String :=
  e.level.name ++ " " ++ e.source.path ++ ": " ++ Text.shown e.text

/-- The announcement of a session. -/
def banner (config : SessionConfig) : LogEntry :=
  ⟨.info, .session,
    "BlockForge session v" ++ version ++ " (dry run) centered at " ++ config.center.text ++
      " in dimension " ++ config.dimension.text⟩

/-- The exit code of a launch that breaks down. -/
def breakdownCode : Nat := 101

/-- How a session ends: the exit code, and the last words on a failure. A session that comes upon
something impossible breaks down without a word. -/
def ending : Except SessionError Session.Summary → Nat × List LogEntry
  | .ok _ => (0, [])
  | .error (.console (.broken _)) => (breakdownCode, [])
  | .error e => (1, [⟨.error, .session, "Session failed: " ++ e.message⟩])

/-- The launch of a session whose log is shown as far as a filter says. -/
def shownBy (filter : LogFilter) (config : SessionConfig) : Launch :=
  let outcome := Session.run config
  let log := Session.logOf outcome.events
  let (exitCode, farewell) := ending outcome.result
  ⟨exitCode, ((banner config :: log ++ farewell).filter filter.shows).map line, none⟩

/-- The launch of a session with a given configuration. -/
def ofConfig (config : SessionConfig) : Launch :=
  match LogFilter.ofText? config.level with
  | some filter => shownBy filter config
  | none => ⟨breakdownCode, [], some "The level of the log ends inside a character"⟩

/-- The launch of a session whose configuration is in the file at `path`, with the contents that
could be read of it. -/
def ofFile (path : String) (contents : Option String) : Launch :=
  let config := match contents with
    | some s => SessionConfig.parse s
    | none => .error .unreadable
  match config with
  | .ok config => ofConfig config
  | .error e => ⟨1, [], some ("Failed to load " ++ path ++ ": " ++ e.message)⟩

end Launch

end BlockConsole
