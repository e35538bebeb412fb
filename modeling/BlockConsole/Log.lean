/-!
# Log entries

A `LogEntry` is a line for the reader of a run: how grave it is, which part of the program says
it, and the text. A reader chooses a `Level` and sees the entries of that level and the graver
ones.
-/

namespace BlockConsole

/-- The **level** of a log entry. -/
inductive Level where
  | error
  | warn
  | info
  | debug
  | trace
deriving DecidableEq

namespace Level

/-- The rank of a level: the graver, the smaller, and from 1 on. -/
def rank : Level → Nat
  | error => 1
  | warn => 2
  | info => 3
  | debug => 4
  | trace => 5

/-- The name of a level, in capitals. -/
def name : Level → String
  | error => "ERROR"
  | warn => "WARN"
  | info => "INFO"
  | debug => "DEBUG"
  | trace => "TRACE"

end Level

/-- The **part** of the program that a log entry comes from. -/
inductive LogSource where
  | session
  | console
  | cache
  | world
  | settings
deriving DecidableEq

/-- The path by which a part of the program is named in a log. -/
def LogSource.path : LogSource → String
  | session => "blockforge_session"
  | console => "blockforge_console::console"
  | cache => "blockforge_console::cache"
  | world => "blockforge_console::sim"
  | settings => "blockforge_console::settings"

/-- A **log entry**. -/
structure LogEntry where
  level : Level
  source : LogSource
  text : String
deriving DecidableEq

end BlockConsole
