import LunConsole.Console.Action
import LunConsole.Json.Reader
import LunConsole.MediaType
import LunConsole.Text.Percent
/-!
# The console over HTTP

A request is understood in a fixed order: the path leads to a route, the method has to be one of
the route's, the parameter of the path has to be text, and then comes the body. What is understood
is a question about the console or an action (`Rest.understand`), and the answer to it becomes the
response (`Rest.show`, `Rest.respond`).

A body is worked through from left to right. The first thing wrong with it decides: where it
ceases to be JSON it is malformed, where a value is not the one wanted it is misshapen, and what
comes after does not count. Text after the end of the value is not looked at.
-/

set_option autoImplicit false

namespace LunConsole.Rest

/-! ## 1. Requests and responses -/

/-- A request as it arrives. -/
structure Request where
  method : String
  path : String
  contentType : Option String
  body : String

/-- The body of a response. -/
inductive Content where
  | json (value : Json)
  | text (text : String)
  | empty

/-- A response; `retryAfter` is in seconds. -/
structure Response where
  status : Nat
  content : Content
  retryAfter : Option Nat

/-- A response without a body. -/
def Response.bare (status : Nat) : Response := ⟨status, .empty, none⟩

/-- A response with a JSON body. -/
def Response.json {α : Type} [Wire α] (status : Nat) (x : α) : Response :=
  ⟨status, .json (encode x), none⟩

/-- A question about the console. -/
inductive Question where
  | luns
  | nodes
  | requirements
  | alerts
  | health
  | ready
  deriving DecidableEq, Repr

/-- A request that has been understood. -/
inductive Understood where
  | question (q : Question)
  | action (a : Action)
  deriving DecidableEq, Repr

/-! ## 2. Bodies -/

/-- What is wrong with a body. -/
inductive BodyFault where
  | malformed
  | misshapen
  deriving DecidableEq, Repr

/-- The status that answers a faulty body. -/
def BodyFault.status : BodyFault → Nat
  | malformed => 400
  | misshapen => 422

/-- A value of the wanted type. -/
def wanted {α : Type} [Wire α] : Json → Except BodyFault α
  | .spoiled _ | .broken _ => .error .malformed
  | x =>
      match decode? x with
      | some a => .ok a
      | none => .error .misshapen

/-- Goes through the members of an object for the field of that name, which occurs once. `found`
is what has been found so far. -/
def fieldIn {α : Type} [Wire α] (name : String) :
    List (String × Json) → Option α → Except BodyFault (Option α)
  | [], found => .ok found
  | (_, .broken _) :: _, _ => .error .malformed
  | (k, x) :: ms, found =>
      if k = name then
        if found.isSome then .error .misshapen
        else do fieldIn name ms (some (← wanted x))
      else fieldIn name ms found

/-- Reads a body that is a record of one field. -/
def oneField {α : Type} [Wire α] (name body : String) : Except BodyFault α :=
  let (x, left) := Json.opening body
  let complete (a : Option α) : Except BodyFault α :=
    match left, a with
    | .error _, _ => .error .malformed
    | .ok _, some a => .ok a
    | .ok _, none => .error .misshapen
  match x with
  | .spoiled _ | .broken _ => .error .malformed
  | .object ms => do complete (← fieldIn name ms none)
  | .array [] => complete none
  | .array [x] => do complete (some (← wanted x))
  | .array (x :: _) => do
      let _ : α ← wanted x
      .error .malformed
  | _ => .error .misshapen

/-- The field of a JSON body, or the response to a body that is none. -/
def readBody {α : Type} [Wire α] (name : String) (r : Request) : Except Response α :=
  let isJson := match r.contentType.bind MediaType.parse? with
    | some m => m.isJson
    | none => false
  if !isJson then .error (.bare 415)
  else
    match oneField name r.body with
    | .ok a => .ok a
    | .error f => .error (.bare f.status)

/-! ## 3. Routes -/

/-- The places that can be asked for; a parameter is still encoded. -/
inductive Route where
  | luns
  | allLuns
  | lun (wwn : String)
  | nodes
  | storageRole (node : String)
  | requirements
  | alerts
  | alert (id : String)
  | filesystems
  | cluster
  | health
  | ready
  deriving DecidableEq, Repr

/-- The segments of a path after its leading slash, without the query. -/
def segments (path : String) : Option (List String) :=
  let s := path.toList.takeWhile fun c => c != '?' && c != '#'
  match ((String.ofList s).splitOn "/") with
  | "" :: rest => some rest
  | _ => none

/-- The place that a path leads to. The last segment is never empty. -/
def route? (path : String) : Option Route :=
  match segments path with
  | some ["v1", "luns"] => some .luns
  | some ["v1", "luns", "selected"] => some .allLuns
  | some ["v1", "luns", wwn, "selected"] => some (.lun wwn)
  | some ["v1", "nodes"] => some .nodes
  | some ["v1", "nodes", node, "storage-role"] => some (.storageRole node)
  | some ["v1", "requirements"] => some .requirements
  | some ["v1", "alerts"] => some .alerts
  | some ["v1", "alerts", id] => if id.isEmpty then none else some (.alert id)
  | some ["v1", "filesystems"] => some .filesystems
  | some ["v1", "cluster"] => some .cluster
  | some ["health"] => some .health
  | some ["ready"] => some .ready
  | _ => none

/-- The method of a route; where it is `GET`, `HEAD` is taken as well. -/
def Route.method : Route → String
  | luns | nodes | requirements | alerts | health | ready => "GET"
  | allLuns | lun _ | storageRole _ => "PUT"
  | alert _ => "DELETE"
  | filesystems | cluster => "POST"

/-- The parameter of a path as text. -/
def parameter (encoded : String) : Except Response String :=
  match Text.percentDecode? encoded with
  | some text => .ok text
  | none => .error (.bare 400)

/-- What a request wants from a place. -/
def Route.understand (r : Request) : Route → Except Response Understood
  | luns => .ok (.question .luns)
  | allLuns => do return .action (.selectAllLuns (← readBody "selected" r))
  | lun wwn => do
      let wwn ← parameter wwn
      return .action (.selectLun wwn (← readBody "selected" r))
  | nodes => .ok (.question .nodes)
  | storageRole node => do
      let node ← parameter node
      return .action (.toggleRole node (← readBody "enabled" r))
  | requirements => .ok (.question .requirements)
  | alerts => .ok (.question .alerts)
  | alert id => do return .action (.dismissAlert (← parameter id))
  | filesystems => do return .action (.createFilesystem (← readBody "name" r))
  | cluster => .ok (.action .createCluster)
  | health => .ok (.question .health)
  | ready => .ok (.question .ready)

/-- What a request wants, or the response to a request that cannot be understood. `OPTIONS` is
answered for every path. -/
def understand (r : Request) : Except Response Understood :=
  if r.method = "OPTIONS" then .error ⟨200, .text "", none⟩
  else
    match route? r.path with
    | none => .error (.bare 404)
    | some route =>
        if r.method = route.method ∨ (r.method = "HEAD" ∧ route.method = "GET") then
          route.understand r
        else .error (.bare 405)

/-! ## 4. Answers -/

/-- The status and the code of an error. -/
def errorStatus : ConsoleError → Nat × String
  | .nodeNotFound _ | .notFound .. => (404, "not_found")
  | .toggleInFlight _ => (409, "mutation_in_flight")
  | .alreadyExists .. => (409, "already_exists")
  | .invalidFilesystemName .. => (400, "invalid_name")
  | .noLunsSelected => (400, "no_luns_selected")
  | .requirementsNotMet _ => (412, "requirements_not_met")
  | .request _ | .mutationFailed .. => (502, "mutation_failed")
  | _ => (500, "internal")

/-- The response to an error; where another try is worth while, it says after how long. -/
def errorResponse (e : ConsoleError) : Response :=
  let (status, code) := errorStatus e
  { status
    content := .json (.object [("error", .string code), ("message", .string e.message)])
    retryAfter := match e.retry with
      | .after seconds => some seconds
      | _ => none }

/-- The outcome of a check with what it means. -/
def checkContent (check : RequirementCheck) : Json := .object <|
  Json.member "passes" check.passes ++ Json.member "message" check.message
    ++ Json.member "violations" check.violations

/-- The answer to a question. -/
def answer (c : Console) : Question → Response
  | .luns => .json 200 c.candidates.luns
  | .nodes => .json 200 c.nodeViews
  | .requirements => ⟨200, .json (checkContent c.check), none⟩
  | .alerts => .json 200 c.board.alerts
  | .health => ⟨200, .text "ok", none⟩
  | .ready =>
      if c.isLoaded then ⟨200, .text "ready", none⟩
      else ⟨503, .text "watches not loaded", none⟩

/-- The response to a creation. -/
def created (kind name : String) (ns : Option String) : Response where
  status := 201
  content := .json <| .object <|
    Json.member "kind" kind ++ Json.member "name" name ++ Json.memberOrNull "namespace" ns
  retryAfter := none

/-- The response to an action that has ended. -/
def respond (c : Console) (a : Action) : Answer → Response
  | .done => .json 200 c.candidates.luns
  | .dismissed true => .bare 204
  | .dismissed false =>
      match a with
      | .dismissAlert id => errorResponse (.notFound "Alert" id)
      | _ => .bare 204
  | .toggled (.rolledBack role error) => .json 502 (ToggleOutcome.rolledBack role error)
  | .toggled outcome => .json 200 outcome
  | .filesystem claim =>
      match a with
      | .createFilesystem name => created "FileSystemClaim" name claim.metadata.inNamespace
      | _ => created "FileSystemClaim" claim.name claim.metadata.inNamespace
  | .cluster cluster =>
      created "Cluster" (cluster.metadata.name.getD "") cluster.metadata.inNamespace
  | .refused e => errorResponse e

/-- The response as it is sent: to `HEAD` without its content. -/
def Response.forMethod (r : Response) (method : String) : Response :=
  if method = "HEAD" then { r with content := .text "" } else r

/-- How far a request has come. -/
inductive Handling where
  | ended (response : Response)
  | waits (action : Action) (call : Call)

/-- Handles a request as far as can be done at once. -/
def handle (c : Console) (r : Request) : Console × Handling :=
  match understand r with
  | .error response => (c, .ended (response.forMethod r.method))
  | .ok (.question q) => (c, .ended ((answer c q).forMethod r.method))
  | .ok (.action a) =>
      match c.perform a with
      | (c, .ended ans) => (c, .ended (respond c a ans))
      | (c, .waits call) => (c, .waits a call)

end LunConsole.Rest
