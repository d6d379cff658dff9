import LunConsole.Label
import LunConsole.Requirement
/-!
# Configuration

What the console watches and what it asks for. Every setting has a value of its own where none is
given.
-/

set_option autoImplicit false

namespace LunConsole

/-- The settings of a console. -/
structure Config where
  watchedNamespace : String
  storageRoleLabel : Label
  workerNodeSelector : String
  requirements : Requirements
  deriving DecidableEq, Repr

namespace Config

/-- The settings where none are given. -/
def standard : Config where
  watchedNamespace := "ibm-spectrum-scale"
  storageRoleLabel := ⟨"scale.spectrum.ibm.com/role", "storage"⟩
  workerNodeSelector := "node-role.kubernetes.io/worker"
  requirements := .standard

/-- Settings under which a console can work: there is a namespace, and a cluster needs a node. -/
def validate (c : Config) : Except ConsoleError Unit :=
  if c.watchedNamespace.isEmpty then .error (.configuration "namespace must not be empty")
  else if c.requirements.minNodes = 0 then
    .error (.configuration "minimum storage nodes must be at least 1")
  else .ok ()

end Config

instance : Wire Config where
  encode c := .object <|
    Json.member "namespace" c.watchedNamespace ++ Json.member "storageRoleLabel" c.storageRoleLabel
      ++ Json.member "workerNodeSelector" c.workerNodeSelector
      ++ Json.member "requirements" c.requirements
  decode? x := do
    let fs ← x.record?
      ["namespace", "storageRoleLabel", "workerNodeSelector", "requirements"] 0
    return {
      watchedNamespace := ← fs.withDefault? "namespace" Config.standard.watchedNamespace
      storageRoleLabel := ← fs.withDefault? "storageRoleLabel" Config.standard.storageRoleLabel
      workerNodeSelector :=
        ← fs.withDefault? "workerNodeSelector" Config.standard.workerNodeSelector
      requirements := ← fs.withDefault? "requirements" Config.standard.requirements }

end LunConsole
