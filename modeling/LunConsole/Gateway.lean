import LunConsole.About
import LunConsole.Console.Action
import LunConsole.Json.Printer
import LunConsole.Resource.CoreNode
import LunConsole.Target
/-!
# Changing objects of the API server

A call of the console as a request to the API server, and the server's answer as the outcome of
the call.

An answer with a status from 400 to 599 refuses the request. Its body says why; a body that cannot
be understood is quoted. Any other answer has to contain the object as it is now. Two refusals
have a meaning of their own: the object is not there, or it is there already. A patch that the
server could not process was built from a node that has changed since.
-/

set_option autoImplicit false

namespace LunConsole

/-- A request to the API server. -/
structure ApiRequest where
  method : String
  target : Target
  contentType : String
  body : Json

/-- An answer of the API server. -/
structure ApiAnswer where
  status : Nat
  body : String
  deriving DecidableEq, Repr

/-! ## 1. Answers -/

/-- The phrase that goes with a status of an HTTP answer. -/
def statusPhrase : Nat → String
  | 400 => "Bad Request"
  | 401 => "Unauthorized"
  | 402 => "Payment Required"
  | 403 => "Forbidden"
  | 404 => "Not Found"
  | 405 => "Method Not Allowed"
  | 406 => "Not Acceptable"
  | 407 => "Proxy Authentication Required"
  | 408 => "Request Timeout"
  | 409 => "Conflict"
  | 410 => "Gone"
  | 411 => "Length Required"
  | 412 => "Precondition Failed"
  | 413 => "Payload Too Large"
  | 414 => "URI Too Long"
  | 415 => "Unsupported Media Type"
  | 416 => "Range Not Satisfiable"
  | 417 => "Expectation Failed"
  | 418 => "I'm a teapot"
  | 421 => "Misdirected Request"
  | 422 => "Unprocessable Entity"
  | 423 => "Locked"
  | 424 => "Failed Dependency"
  | 426 => "Upgrade Required"
  | 428 => "Precondition Required"
  | 429 => "Too Many Requests"
  | 431 => "Request Header Fields Too Large"
  | 451 => "Unavailable For Legal Reasons"
  | 500 => "Internal Server Error"
  | 501 => "Not Implemented"
  | 502 => "Bad Gateway"
  | 503 => "Service Unavailable"
  | 504 => "Gateway Timeout"
  | 505 => "HTTP Version Not Supported"
  | 506 => "Variant Also Negotiates"
  | 507 => "Insufficient Storage"
  | 508 => "Loop Detected"
  | 510 => "Not Extended"
  | 511 => "Network Authentication Required"
  | _ => "<unknown status code>"

/-- Reads a whole text as a value of some type. -/
def readText? {α : Type} [Wire α] (text : String) : Option α :=
  match Json.parseLeniently text with
  | .ok x => readWhole? x
  | .error _ => none

namespace ApiAnswer

/-- Whether the server refused the request. -/
def isRefusal (a : ApiAnswer) : Bool := 400 ≤ a.status && a.status < 600

/-- Why the server refused the request. -/
def refusal (a : ApiAnswer) : ApiStatus :=
  match readText? a.body with
  | some status => status
  | none => {
      status := s!"{a.status} {statusPhrase a.status}"
      message := Text.quoted a.body
      reason := "Failed to parse error data"
      code := UInt16.ofNat a.status }

/-- The object in an answer. -/
def object {α : Type} [Wire α] (a : ApiAnswer) : Except RequestFailure α :=
  if a.isRefusal then .error (.refused a.refusal)
  else
    match readText? a.body with
    | some x => .ok x
    | none => .error (.unusable "the answer is not the object asked for")

end ApiAnswer

/-- There can be no request with that target. -/
def RequestFailure.unsendable : RequestFailure := .unusable "the request has no valid target"

/-- What the failure of a request for an object means. -/
def RequestFailure.meaning (kind name : String) (f : RequestFailure) : ConsoleError :=
  match f with
  | .refused status =>
      if status.code = 404 then .notFound kind name
      else if status.code = 409 then .alreadyExists kind name
      else .request f
  | .unusable _ => .request f

/-- What the failure of a patch of a node means. -/
def RequestFailure.patchMeaning (node : String) (f : RequestFailure) : ConsoleError :=
  match f with
  | .refused status =>
      if status.code = 422 then
        .mutationFailed "Node" node s!"node changed since it was read: {status.message}"
      else f.meaning "Node" node
  | .unusable _ => f.meaning "Node" node

/-! ## 2. Calls -/

namespace ApiRequest

/-- A request that names the program as the manager of the fields that it sets; `none` if its path
cannot be part of a request. -/
def make? (method path contentType : String) (body : Json) : Option ApiRequest := do
  let target ← Target.read? (Target.write path [("fieldManager", About.fieldManager)])
  return { method, target, contentType, body }

/-- The request that patches a node. -/
def patchNode? (node : String) (ops : List PatchOp) : Option ApiRequest :=
  make? "PATCH" s!"/api/v1/nodes/{node}" "application/json-patch+json" (encode ops)

/-- The request that creates an object in a namespace. -/
def create? {σ τ : Type} [ResourceSpec σ] [Wire σ] [Wire τ] (ns : String) (r : Resource σ τ) :
    Option ApiRequest :=
  make? "POST" ((ResourceSpec.type σ).path (some ns)) "application/json" (encode r)

end ApiRequest

/-- The request of a call, with what is created put into a namespace. -/
def Call.request? (ns : String) : Call → Option ApiRequest
  | patchNode t => ApiRequest.patchNode? t.node t.ops
  | createFilesystem _ claim => ApiRequest.create? ns claim
  | createCluster cluster => ApiRequest.create? ns cluster

/-- The outcome of a patch, as the server's answer to the request tells it. -/
def patchResult (node : String) (ops : List PatchOp) (a : ApiAnswer) : Except ConsoleError Unit :=
  if (ApiRequest.patchNode? node ops).isNone then .error (.request .unsendable)
  else
    match (a.object : Except RequestFailure CoreNode) with
    | .ok _ => .ok ()
    | .error f => .error (f.patchMeaning node)

/-- The outcome of a creation, as the server's answer to the request tells it. -/
def creationResult {σ τ : Type} [ResourceSpec σ] [Wire σ] [Wire τ] (ns : String)
    (r : Resource σ τ) (a : ApiAnswer) : Except ConsoleError (Resource σ τ) :=
  if (ApiRequest.create? ns r).isNone then .error (.request .unsendable)
  else
    match (a.object : Except RequestFailure (Resource σ τ)) with
    | .ok x => .ok x
    | .error f =>
        .error (f.meaning (ResourceSpec.type σ).kind (r.metadata.name.getD ""))

/-- The outcome of a call in a namespace, as the server's answer tells it. -/
def Call.result (ns : String) (a : ApiAnswer) : (k : Call) → Except ConsoleError k.Result
  | patchNode t => patchResult t.node t.ops a
  | createFilesystem _ claim => creationResult ns claim a
  | createCluster cluster => creationResult ns cluster a

end LunConsole
