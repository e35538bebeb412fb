import BlockConsole.Session.Launch

/-!
# The command line

The first argument is the path of the configuration.
-/

/-- Launches the session that a file describes. -/
def main (args : List String) : IO UInt32 := do
  let path := args.headD BlockConsole.Launch.defaultPath
  let contents ← try some <$> IO.FS.readFile path catch _ => pure none
  let launch := BlockConsole.Launch.ofFile path contents
  for line in launch.output do
    IO.println line
  match launch.complaint with
  | some text => IO.eprintln text
  | none => pure ()
  return launch.exitCode.toUInt32
