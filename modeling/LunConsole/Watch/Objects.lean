import LunConsole.Resource.CoreNode
/-!
# The objects of a watched list

The objects of a list as they are known from a first reading and the changes since. An object is
identified by its name and namespace; of two objects with the same identity the later one counts.
A name that the server is to generate identifies nothing.
-/

set_option autoImplicit false

namespace LunConsole

/-- An object of the API server, of any type. -/
class ApiObject (α : Type) where
  metadata : α → Metadata

instance : ApiObject CoreNode := ⟨CoreNode.metadata⟩

instance {σ τ : Type} : ApiObject (Resource σ τ) := ⟨Resource.metadata⟩

/-- What identifies an object within its list. -/
structure ObjectKey where
  name : Option String
  inNamespace : Option String
  deriving DecidableEq, Repr

/-- The identity of an object. -/
def objectKey {α : Type} [ApiObject α] (x : α) : ObjectKey :=
  ⟨(ApiObject.metadata x).name, (ApiObject.metadata x).inNamespace⟩

/-- Whether the object has a name, if only an empty one. -/
def isNamed {α : Type} [ApiObject α] (x : α) : Bool := (objectKey x).name.isSome

/-- The version of an object, empty if it states none. -/
def objectVersion {α : Type} [ApiObject α] (x : α) : String :=
  (ApiObject.metadata x).resourceVersion.getD ""

namespace Objects

variable {α : Type} [ApiObject α]

/-- Puts an object in the place of the one it replaces, or at the end. -/
def put (x : α) : List α → List α
  | [] => [x]
  | y :: ys => if objectKey y = objectKey x then x :: ys else y :: put x ys

/-- Removes the object with the identity of `x`. -/
def remove (x : α) (xs : List α) : List α := xs.filter fun y => objectKey y != objectKey x

/-- Objects of a list, one for each identity. -/
def ofList (xs : List α) : List α := xs.foldl (fun ys x => put x ys) []

end Objects

end LunConsole
