import LunConsole.CommandLine
import LunConsole.Config.Document
/-!
# Starting the program

The configuration is read from its file, which has to be a good one by itself, and then overridden
by the command line. If all is well the program reports what it starts with and connects to the
cluster.
-/

set_option autoImplicit false

namespace LunConsole.Launch

/-- How a run of the program ends. -/
inductive Ending where
  /-- The command line cannot be used. -/
  | usage
  /-- There is a failure after those lines of the log. -/
  | failure (log : List String) (cause : ConsoleError)
  deriving DecidableEq, Repr

/-- The configuration of a run, given the text of its file, if there is a file. -/
def configure (c : CommandLine) (file : Option (Except ConsoleError String)) :
    Except ConsoleError Config := do
  let config ← match file with
    | some text => Config.load (← text)
    | none => pure .standard
  c.override config

/-- What the program reports when it starts. -/
def report (c : CommandLine) (config : Config) : List String :=
  [ "Starting Fusion Access Reconciler",
    s!"  Version: {About.version}",
    s!"  REST API: {c.restAddress}",
    s!"  Namespace: {config.watchedNamespace}",
    s!"  Storage role label: {config.storageRoleLabel.text}",
    s!"  Minimum requirements: {config.requirements.minNodes} nodes, "
      ++ s!"{config.requirements.minSharedDisks} shared disks" ]

/-- There is no cluster to connect to. -/
def unreachable : ConsoleError := .request (.unusable "no cluster can be reached")

/-- Runs the program where no cluster can be reached. -/
def run (c : CommandLine) (file : Option (Except ConsoleError String)) : Ending :=
  match configure c file with
  | .error cause => .failure [] cause
  | .ok config => .failure (if c.isQuiet then [] else report c config) unreachable

/-- What an ending tells the caller. -/
def Ending.exitCode : Ending → UInt32
  | usage => 2
  | failure .. => 1

/-- The cause of a failure as it is shown on exit. -/
def shown : ConsoleError → String
  | .configuration detail => s!"Configuration({Text.quoted detail})"
  | cause => cause.message

end LunConsole.Launch
