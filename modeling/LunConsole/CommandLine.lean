import LunConsole.About
import LunConsole.Config.Basic
import LunConsole.Text.Digits
/-!
# The command line

An option is given as `--name=value` or as two arguments, and where it is not given there, by an
environment variable of its name in capitals. Options that are not given leave the configuration as
it is. Numbers are checked when the command line is read, before anything else happens.
-/

set_option autoImplicit false

namespace LunConsole

/-- What the program is told when it is started. -/
structure CommandLine where
  configFile : Option String
  watchedNamespace : Option String
  storageRoleLabel : Option String
  workerNodeSelector : Option String
  minNodes : Option UInt64
  minSharedDisks : Option UInt64
  logLevel : String
  restAddress : String
  deriving DecidableEq, Repr

namespace CommandLine

/-- The names of the options that take a value. -/
def optionNames : List String :=
  ["api-addr", "health-addr", "metrics-addr", "config", "namespace", "storage-role-label",
    "worker-node-selector", "min-storage-nodes", "min-shared-disks", "log-level"]

/-- The names of the options that take none. -/
def switchNames : List String := ["log-json"]

/-! ## 1. Arguments -/

/-- The name and the value of an argument, if it is an option. -/
def option? (argument : String) : Option (String × Option String) :=
  match argument.toList with
  | '-' :: '-' :: s =>
      let name := s.takeWhile (· != '=')
      let value := match s.dropWhile (· != '=') with
        | _ :: v => some (String.ofList v)
        | [] => none
      some (String.ofList name, value)
  | _ => none

/-- Adds an option to others: it has to be a known one and must not be among them. -/
def addOption? (name value : String) (others : List (String × String)) :
    Option (List (String × String)) :=
  if optionNames.contains name && (others.lookup name).isNone then some ((name, value) :: others)
  else none

/-- The options among arguments; `none` if an argument is not part of an option. -/
def options? : List String → Option (List (String × String))
  | [] => some []
  | argument :: rest =>
      match option? argument with
      | none => none
      | some (name, some value) => (options? rest).bind (addOption? name value)
      | some (name, none) =>
          if switchNames.contains name then options? rest
          else match rest with
            | value :: rest =>
                if (option? value).isSome then none else (options? rest).bind (addOption? name value)
            | [] => none

/-- The environment variable of an option. -/
def variableName (name : String) : String :=
  String.ofList (name.toList.map fun c => if c = '-' then '_' else c.toUpper)

/-! ## 2. Values -/

/-- A number as an option gives it: digits, perhaps after a plus sign. -/
def count? (text : String) : Option UInt64 :=
  match text.toList with
  | '+' :: s => Text.word? 10 s
  | s => Text.word? 10 s

/-- An option that gives a number; `none` if it gives something else. -/
def optionalCount? (text : Option String) : Option (Option UInt64) :=
  match text with
  | some s => (count? s).map some
  | none => some none

/-- Reads the arguments and the environment; `none` if they cannot be used. -/
def read? (arguments : List String) (environment : String → Option String) :
    Option CommandLine := do
  let options ← options? arguments
  let value (name : String) : Option String := options.lookup name <|> environment (variableName name)
  return {
    configFile := value "config"
    watchedNamespace := value "namespace"
    storageRoleLabel := value "storage-role-label"
    workerNodeSelector := value "worker-node-selector"
    minNodes := ← optionalCount? (value "min-storage-nodes")
    minSharedDisks := ← optionalCount? (value "min-shared-disks")
    logLevel := (value "log-level").getD "info"
    restAddress := (value "api-addr").getD About.restAddress }

/-! ## 3. Effect on the configuration -/

/-- Whether lines of information are left out of the log. An unknown level leaves them in. -/
def isQuiet (c : CommandLine) : Bool := ["warn", "error"].contains c.logLevel.toLower

/-- The configuration with the options put in, if a console can work under it. -/
def override (c : CommandLine) (config : Config) : Except ConsoleError Config := do
  let label ← match c.storageRoleLabel with
    | some text => Label.parse text
    | none => pure config.storageRoleLabel
  let config : Config := {
    watchedNamespace := c.watchedNamespace.getD config.watchedNamespace
    storageRoleLabel := label
    workerNodeSelector := c.workerNodeSelector.getD config.workerNodeSelector
    requirements := {
      minNodes := c.minNodes.getD config.requirements.minNodes
      minSharedDisks := c.minSharedDisks.getD config.requirements.minSharedDisks } }
  config.validate
  return config

end CommandLine

end LunConsole
