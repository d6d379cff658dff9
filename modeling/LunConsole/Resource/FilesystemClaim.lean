import LunConsole.Error
import LunConsole.Resource.Metadata
/-!
# Filesystem claims

A filesystem claim asks for a filesystem on devices given by their WWNs. Its name has to be a
label of the domain name system: at most 63 lower-case letters, digits and hyphens, without a
hyphen at either end.
-/

set_option autoImplicit false

namespace LunConsole

/-- The devices of the filesystem. -/
structure FilesystemClaimSpec where
  devices : List String
  deriving DecidableEq, Repr

/-- One condition of a claim. -/
structure ClaimCondition where
  type : String
  status : String
  reason : Option String
  message : Option String
  deriving DecidableEq, Repr

/-- The conditions of a claim. -/
structure FilesystemClaimStatus where
  conditions : List ClaimCondition
  deriving DecidableEq, Repr

instance : ResourceSpec FilesystemClaimSpec where
  type := {
    group := "fusion.storage.openshift.io"
    version := "v1alpha1"
    kind := "FileSystemClaim"
    plural := "filesystemclaims" }

/-- A request for a filesystem. -/
abbrev FilesystemClaim := Resource FilesystemClaimSpec FilesystemClaimStatus

namespace FilesystemClaim

/-- The longest name in bytes. -/
def maxNameLength : Nat := 63

/-- A character that may stand in a name. -/
def isNameChar (c : Char) : Bool := ('a' ≤ c && c ≤ 'z') || c.isDigit || c == '-'

/-- What is wrong with a name, if anything: the first of four rules that it breaks. -/
def nameFault? (name : String) : Option String :=
  let cs := name.toList
  if cs.isEmpty then some "name is required"
  else if maxNameLength < name.utf8ByteSize then some "must be no more than 63 characters"
  else if !cs.all isNameChar then
    some "only lowercase alphanumeric characters and '-' are allowed"
  else if cs.head? == some '-' || cs.getLast? == some '-' then
    some "must start and end with an alphanumeric character"
  else none

/-- Accepts the names that a claim may have. -/
def validateName (name : String) : Except ConsoleError Unit :=
  match nameFault? name with
  | some reason => .error (.invalidFilesystemName name reason)
  | none => .ok ()

/-- The claim for devices under a name and in a namespace. -/
def forDevices (name ns : String) (devices : List String) : FilesystemClaim where
  metadata := Metadata.named name ns
  spec := { devices }
  status := none

@[simp] theorem devices_forDevices (name ns : String) (devices : List String) :
    (forDevices name ns devices).spec.devices = devices := rfl

@[simp] theorem name_forDevices (name ns : String) (devices : List String) :
    (forDevices name ns devices).metadata.name = some name := rfl

@[simp] theorem namespace_forDevices (name ns : String) (devices : List String) :
    (forDevices name ns devices).metadata.inNamespace = some ns := rfl

end FilesystemClaim

instance : Wire FilesystemClaimSpec where
  encode s := .object (Json.member "devices" s.devices)
  decode? x := do
    let fs ← x.record? ["devices"] 1
    return { devices := ← fs.required? "devices" }

instance : Wire ClaimCondition where
  encode c := .object <|
    Json.member "type" c.type ++ Json.member "status" c.status
      ++ Json.memberOrNull "reason" c.reason ++ Json.memberOrNull "message" c.message
  decode? x := do
    let fs ← x.record? ["type", "status", "reason", "message"] 2
    return {
      type := ← fs.required? "type"
      status := ← fs.required? "status"
      reason := ← fs.optional? "reason"
      message := ← fs.optional? "message" }

instance : Wire FilesystemClaimStatus where
  encode s := .object (Json.member "conditions" s.conditions)
  decode? x := do
    let fs ← x.record? ["conditions"] 0
    return { conditions := ← fs.withDefault? "conditions" [] }

end LunConsole
