import LunConsole.Wire
/-!
# Nodes and the patch of a label

A node that may serve as a storage node is known by its name, its labels and the version at which
it was read. To set or remove one label the whole label map is replaced, so the patch starts with
a test of that version: should the node have changed since, the server refuses the patch and no
label of anybody else is lost.
-/

set_option autoImplicit false

namespace LunConsole

/-- A node as it was read. -/
structure StorageNode where
  name : String
  labels : TextMap
  resourceVersion : Option String
  deriving DecidableEq

/-- What one operation of a patch does. -/
inductive PatchVerb where
  | test
  | replace
  deriving DecidableEq, Repr

/-- The word for the verb. -/
def PatchVerb.word : PatchVerb → String
  | test => "test"
  | replace => "replace"

/-- One operation of a patch, at the place named by its path. -/
structure PatchOp where
  verb : PatchVerb
  path : String
  value : Json

namespace StorageNode

/-- Whether the node carries the label with that value. -/
def hasLabel (n : StorageNode) (key value : String) : Bool := n.labels[key]? == some value

/-- The labels with one of them set or removed. -/
def labelsWith (n : StorageNode) (key value : String) (present : Bool) : TextMap :=
  if present then n.labels.insert key value else n.labels.erase key

/-- The patch that sets or removes a label, guarded by the version that was read, if any. -/
def labelPatch (n : StorageNode) (key value : String) (present : Bool) : List PatchOp :=
  (match n.resourceVersion with
    | some version => [⟨.test, "/metadata/resourceVersion", .string version⟩]
    | none => [])
    ++ [⟨.replace, "/metadata/labels", encode (n.labelsWith key value present)⟩]

end StorageNode

/-! ## Wire forms -/

instance : Wire StorageNode where
  encode n := .object <|
    Json.member "name" n.name ++ Json.member "labels" n.labels
      ++ Json.memberIf "resourceVersion" n.resourceVersion
  decode? x := do
    let fs ← x.record? ["name", "labels", "resourceVersion"] 2
    return {
      name := ← fs.required? "name"
      labels := ← fs.required? "labels"
      resourceVersion := ← fs.optional? "resourceVersion" }

instance : Wire PatchVerb where
  encode v := .string v.word
  decode? x := do
    let word ← x.word?
    if word = "test" then some .test
    else if word = "replace" then some .replace
    else none

instance : Wire PatchOp where
  encode o := .object <|
    Json.member "op" o.verb ++ Json.member "path" o.path ++ Json.member "value" o.value
  decode? x := do
    let fs ← x.record? ["op", "path", "value"] 3
    return {
      verb := ← fs.required? "op"
      path := ← fs.required? "path"
      value := ← fs.required? "value" }

end LunConsole
