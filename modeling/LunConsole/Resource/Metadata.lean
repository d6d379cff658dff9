import LunConsole.Instant
/-!
# Custom resources

A custom resource is an object of the cluster's API: its type, its metadata, what is wanted
(`spec`) and what is the case (`status`). The type is always written; what is read is not asked
for its type.
-/

set_option autoImplicit false

namespace LunConsole

/-! ## 1. Parts of an object of the API -/

/-- A part of an object. It may be given several times, null meaning that there is none; each of
the values has to be of the type, and the last one counts. -/
def Json.part? {α : Type} [Wire α] (ms : List (String × Json)) (key : String) :
    Option (Option α) := do
  let given : List (Option α) ← (ms.filter fun m => m.1 = key).mapM fun m =>
    match m.2 with
    | .null => some none
    | x => (decode? x).map some
  return given.getLast?.join

/-- The instant that a member gives; the API writes it to the second. -/
def Json.memberToSecond (name : String) (t : Option Instant) : Json.Fields :=
  Json.memberIf name (t.map fun t => t.toSecond.text)

/-! ## 2. Metadata -/

/-- An object on which another one depends. -/
structure OwnerReference where
  apiVersion : String
  kind : String
  name : String
  uid : String
  controller : Option Bool
  blockOwnerDeletion : Option Bool
  deriving DecidableEq, Repr

/-- Which fields of an object a program has set, and when. -/
structure ManagedFields where
  manager : Option String
  operation : Option String
  apiVersion : Option String
  time : Option Instant
  fieldsType : Option String
  fields : Option Json
  subresource : Option String

/-- The metadata of an object. -/
structure Metadata where
  name : Option String := none
  generateName : Option String := none
  inNamespace : Option String := none
  resourceVersion : Option String := none
  uid : Option String := none
  selfLink : Option String := none
  labels : Option TextMap := none
  annotations : Option TextMap := none
  generation : Option Int64 := none
  createdAt : Option Instant := none
  deletedAt : Option Instant := none
  deletionGrace : Option Int64 := none
  finalizers : Option (List String) := none
  owners : Option (List OwnerReference) := none
  managedFields : Option (List ManagedFields) := none

namespace Metadata

/-- Metadata with nothing in it. -/
def empty : Metadata := {}

/-- The metadata of a new object in a namespace. -/
def named (name ns : String) : Metadata := { name := some name, inNamespace := some ns }

/-- The name of the object, or else what its name is to begin with. -/
def anyName (m : Metadata) : String := (m.name.or m.generateName).getD ""

end Metadata

instance : Wire OwnerReference where
  encode o := .object <|
    Json.member "apiVersion" o.apiVersion ++ Json.member "kind" o.kind
      ++ Json.member "name" o.name ++ Json.member "uid" o.uid
      ++ Json.memberIf "controller" o.controller
      ++ Json.memberIf "blockOwnerDeletion" o.blockOwnerDeletion
  decode? x := do
    let ms ← x.members?
    let text (key : String) : Option String := do return (← Json.part? ms key).getD ""
    return {
      apiVersion := ← text "apiVersion"
      kind := ← text "kind"
      name := ← text "name"
      uid := ← text "uid"
      controller := ← Json.part? ms "controller"
      blockOwnerDeletion := ← Json.part? ms "blockOwnerDeletion" }

instance : Wire ManagedFields where
  encode f := .object <|
    Json.memberIf "manager" f.manager ++ Json.memberIf "operation" f.operation
      ++ Json.memberIf "apiVersion" f.apiVersion ++ Json.memberToSecond "time" f.time
      ++ Json.memberIf "fieldsType" f.fieldsType ++ Json.memberIf "fieldsV1" f.fields
      ++ Json.memberIf "subresource" f.subresource
  decode? x := do
    let ms ← x.members?
    if ms.any fun m => m.1 = "fieldsV1" && m.2.fault?.isSome then none
    return {
      manager := ← Json.part? ms "manager"
      operation := ← Json.part? ms "operation"
      apiVersion := ← Json.part? ms "apiVersion"
      time := ← Json.part? ms "time"
      fieldsType := ← Json.part? ms "fieldsType"
      fields := ← Json.part? ms "fieldsV1"
      subresource := ← Json.part? ms "subresource" }

instance : Wire Metadata where
  encode m := .object <|
    Json.memberIf "name" m.name ++ Json.memberIf "generateName" m.generateName
      ++ Json.memberIf "namespace" m.inNamespace
      ++ Json.memberIf "resourceVersion" m.resourceVersion ++ Json.memberIf "uid" m.uid
      ++ Json.memberIf "selfLink" m.selfLink ++ Json.memberIf "labels" m.labels
      ++ Json.memberIf "annotations" m.annotations ++ Json.memberIf "generation" m.generation
      ++ Json.memberToSecond "creationTimestamp" m.createdAt
      ++ Json.memberToSecond "deletionTimestamp" m.deletedAt
      ++ Json.memberIf "deletionGracePeriodSeconds" m.deletionGrace
      ++ Json.memberIf "finalizers" m.finalizers ++ Json.memberIf "ownerReferences" m.owners
      ++ Json.memberIf "managedFields" m.managedFields
  decode? x := do
    let ms ← x.members?
    return {
      name := ← Json.part? ms "name"
      generateName := ← Json.part? ms "generateName"
      inNamespace := ← Json.part? ms "namespace"
      resourceVersion := ← Json.part? ms "resourceVersion"
      uid := ← Json.part? ms "uid"
      selfLink := ← Json.part? ms "selfLink"
      labels := ← Json.part? ms "labels"
      annotations := ← Json.part? ms "annotations"
      generation := ← Json.part? ms "generation"
      createdAt := ← Json.part? ms "creationTimestamp"
      deletedAt := ← Json.part? ms "deletionTimestamp"
      deletionGrace := ← Json.part? ms "deletionGracePeriodSeconds"
      finalizers := ← Json.part? ms "finalizers"
      owners := ← Json.part? ms "ownerReferences"
      managedFields := ← Json.part? ms "managedFields" }

/-! ## 3. Custom resources -/

/-- Where the objects of a type live in the API. -/
structure ResourceType where
  group : String
  version : String
  kind : String
  plural : String
  deriving DecidableEq, Repr

namespace ResourceType

/-- The group and version, as objects of the type state them. -/
def apiVersion (t : ResourceType) : String := s!"{t.group}/{t.version}"

/-- The path of the collection, within a namespace if one is given. -/
def path (t : ResourceType) (ns : Option String) : String :=
  s!"/apis/{t.group}/{t.version}"
    ++ (match ns with | some ns => s!"/namespaces/{ns}" | none => "")
    ++ s!"/{t.plural}"

end ResourceType

/-- The type of resources that have `σ` for their `spec`. -/
class ResourceSpec (σ : Type) where
  type : ResourceType

/-- A custom resource. -/
structure Resource (σ τ : Type) where
  metadata : Metadata
  spec : σ
  status : Option τ

/-- The name of the object. -/
def Resource.name {σ τ : Type} (r : Resource σ τ) : String := r.metadata.anyName

instance {σ τ : Type} [ResourceSpec σ] [Wire σ] [Wire τ] : Wire (Resource σ τ) where
  encode r := .object <|
    Json.member "apiVersion" (ResourceSpec.type σ).apiVersion
      ++ Json.member "kind" (ResourceSpec.type σ).kind
      ++ Json.member "metadata" r.metadata ++ Json.member "spec" r.spec
      ++ Json.memberIf "status" r.status
  decode? x := do
    let fs ← x.record? ["metadata", "spec", "status"] 3
    return {
      metadata := ← fs.required? "metadata"
      spec := ← fs.required? "spec"
      status := ← fs.optional? "status" }

end LunConsole
