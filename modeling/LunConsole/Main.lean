import LunConsole.Json.Printer
import LunConsole.Launch
/-!
The program: reads the command line and the configuration file, reports its start, and ends with
the exit code.
-/

set_option autoImplicit false

namespace LunConsole

/-- Reads the configuration file. -/
def readConfigFile (path : String) : IO (Except ConsoleError String) := do
  try
    return .ok (← IO.FS.readFile path)
  catch e =>
    return .error (.io (toString e))

/-- The environment variables of all options. -/
def readEnvironment : IO (List (String × String)) :=
  CommandLine.optionNames.filterMapM fun name => do
    let key := CommandLine.variableName name
    return (← IO.getEnv key).map fun value => (key, value)

/-- A line of the log. -/
def logLine (message : String) : String :=
  (Json.object [("level", .string "INFO"),
    ("fields", .object [("message", .string message)])]).compact

end LunConsole

open LunConsole in
def main (arguments : List String) : IO UInt32 := do
  let environment ← readEnvironment
  let ending ← match CommandLine.read? arguments (List.lookup · environment) with
    | none => pure Launch.Ending.usage
    | some c => do
        let file ← c.configFile.mapM fun path => readConfigFile path
        pure (Launch.run c file)
  match ending with
  | .usage => IO.eprintln "error: the command line cannot be used"
  | .failure log cause => do
      for message in log do IO.println (logLine message)
      IO.eprintln s!"Error: {Launch.shown cause}"
  return ending.exitCode
