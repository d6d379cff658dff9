import LunConsole.Json.Reader
import LunConsole.Text.Quoted
import LunConsole.Wire
import LunConsole.Yaml.Fault
/-!
# What can go wrong

Every failure of the console is one of these causes. What is said of a cause, whether it is worth
another try and after how long, follows from the cause alone.
-/

set_option autoImplicit false

namespace LunConsole

/-- An error answer of the cluster's API server. -/
structure ApiStatus where
  status : String
  message : String
  reason : String
  code : UInt16
  deriving DecidableEq, Repr

/-- The answer in words, followed by all of its parts. -/
def ApiStatus.text (s : ApiStatus) : String :=
  s!"ApiError: {s.message}: {s.reason} (ErrorResponse \x7b status: {Text.quoted s.status}, "
    ++ s!"message: {Text.quoted s.message}, reason: {Text.quoted s.reason}, "
    ++ s!"code: {s.code} \x7d)"

instance : Wire ApiStatus where
  encode s := .object <|
    Json.member "status" s.status ++ Json.member "message" s.message
      ++ Json.member "reason" s.reason ++ Json.member "code" s.code
  decode? x := do
    let fs ← x.record? ["status", "message", "reason", "code"] 4
    return {
      status := ← fs.required? "status"
      message := ← fs.withDefault? "message" ""
      reason := ← fs.withDefault? "reason" ""
      code := ← fs.required? "code" }

/-- Why a request to the API server failed. -/
inductive RequestFailure where
  /-- The server refused it. -/
  | refused (status : ApiStatus)
  /-- The answer could not be understood, or there was none. -/
  | unusable (detail : String)
  deriving DecidableEq, Repr

/-- The failure in words. -/
def RequestFailure.text : RequestFailure → String
  | refused status => status.text
  | unusable detail => detail

/-- The causes of failure. -/
inductive ConsoleError where
  | internal (detail : String)
  | configuration (detail : String)
  | request (failure : RequestFailure)
  | notFound (kind name : String)
  | alreadyExists (kind name : String)
  | watchFailed (kind reason : String)
  | nodeNotFound (node : String)
  | toggleInFlight (node : String)
  | mutationFailed (kind name reason : String)
  | requirementsNotMet (detail : String)
  | invalidFilesystemName (name reason : String)
  | noLunsSelected
  | invalidJson (fault : JsonError)
  | invalidYaml (fault : Yaml.Fault)
  | io (detail : String)
  deriving DecidableEq, Repr

/-- What to do about a failure. -/
inductive Retry where
  | withBackoff
  | after (seconds : Nat)
  | never
  deriving DecidableEq, Repr

namespace ConsoleError

/-- The cause in words. -/
def message : ConsoleError → String
  | internal detail => s!"Internal error: {detail}"
  | configuration detail => s!"Configuration error: {detail}"
  | request failure => s!"Kubernetes API error: {failure.text}"
  | notFound kind name => s!"Resource not found: {kind}/{name}"
  | alreadyExists kind name => s!"Resource already exists: {kind}/{name}"
  | watchFailed kind reason => s!"Watch failed for {kind}: {reason}"
  | nodeNotFound node => s!"Node not found: {node}"
  | toggleInFlight node => s!"A storage role change is already in flight for node {node}"
  | mutationFailed kind name reason => s!"Mutation of {kind}/{name} failed: {reason}"
  | requirementsNotMet detail => s!"Minimum requirements not met: {detail}"
  | invalidFilesystemName name reason => s!"Invalid filesystem name {Text.quoted name}: {reason}"
  | noLunsSelected => "No LUNs selected"
  | invalidJson fault => s!"JSON parse error: {fault.message}"
  | invalidYaml fault => s!"YAML parse error: {fault.message}"
  | io detail => s!"IO error: {detail}"

/-- A running change is over soon, the storage takes longer, and a wrong input does not mend by
itself. -/
def retry : ConsoleError → Retry
  | toggleInFlight _ => .after 5
  | requirementsNotMet _ | noLunsSelected => .after 30
  | configuration _ | invalidFilesystemName .. | alreadyExists .. | invalidJson _
  | invalidYaml _ => .never
  | _ => .withBackoff

/-- Whether another try can succeed. -/
def isRetryable (e : ConsoleError) : Bool := e.retry != .never

/-- Whether the cause lies with the connection to the API server. -/
def isTransient : ConsoleError → Bool
  | request _ | watchFailed .. => true
  | _ => false

end ConsoleError

end LunConsole
