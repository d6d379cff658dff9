import LunConsole.Console.Toggle
import LunConsole.Resource.Cluster
import LunConsole.Resource.FilesystemClaim
/-!
# What a user may ask for

An action changes the selection, dismisses an alert, or changes the cluster through the API server.
The latter kind is in two parts: `Console.perform` does what can be done at once and either
answers or names the call to be made; `Console.finish` takes the outcome of the call and answers.
In between the console may change in any way.
-/

set_option autoImplicit false

namespace LunConsole

/-- What a user may ask for. -/
inductive Action where
  | selectLun (wwn : String) (selected : Bool)
  | selectAllLuns (selected : Bool)
  | dismissAlert (id : String)
  | toggleRole (node : String) (enabled : Bool)
  | createFilesystem (name : String)
  | createCluster
  deriving DecidableEq, Repr

/-- How an action ended. -/
inductive Answer where
  | done
  | dismissed (removed : Bool)
  | toggled (outcome : ToggleOutcome)
  | filesystem (claim : FilesystemClaim)
  | cluster (cluster : Cluster)
  | refused (error : ConsoleError)

/-- A call to the API server that an action waits for. -/
inductive Call where
  | patchNode (toggle : SentToggle)
  | createFilesystem (name : String) (claim : FilesystemClaim)
  | createCluster (cluster : Cluster)

/-- What a call returns if it succeeds: a patch nothing, a creation the object as it is now. -/
def Call.Result : Call → Type
  | patchNode _ => Unit
  | createFilesystem .. => FilesystemClaim
  | createCluster _ => Cluster

/-- The result of a call to a server that does just as it is asked. -/
def Call.granted : (k : Call) → k.Result
  | patchNode _ => ()
  | createFilesystem _ claim => claim
  | createCluster cluster => cluster

/-- How far an action has come. -/
inductive Progress where
  | ended (answer : Answer)
  | waits (call : Call)

namespace Console

/-- Sets the flag of one candidate. -/
def selectLun (c : Console) (wwn : String) (selected : Bool) : Except ConsoleError Console :=
  if c.candidates.luns.offers wwn then
    .ok (recompute { c with candidates := c.candidates.select wwn selected })
  else .error (.notFound "Lun" wwn)

/-- Sets the flags of all candidates. -/
def selectAllLuns (c : Console) (selected : Bool) : Console :=
  recompute { c with candidates := c.candidates.selectAll selected }

/-- Dismisses an alert. -/
def dismissAlert (c : Console) (id : String) : Console := c.tell (.dismiss id)

/-- Whether dismissing an alert removes one. -/
def canDismiss (c : Console) (id : String) : Bool :=
  (c.dismissAlert id).board.alerts.length != c.board.alerts.length

/-- The claim for a filesystem on the selected candidates. -/
def planFilesystem (c : Console) (name : String) : Except ConsoleError FilesystemClaim := do
  -- a bad name is refused first, whatever is selected
  FilesystemClaim.validateName name
  let devices := c.candidates.luns.selectedWwns
  if devices.isEmpty then throw .noLunsSelected
  return .forDevices name c.config.watchedNamespace devices

/-- The storage cluster, once the requirements are met. -/
def planCluster (c : Console) : Except ConsoleError Cluster :=
  if c.check.passes then
    let label := c.config.storageRoleLabel
    .ok (.forStorageRole c.config.watchedNamespace label.key label.value)
  else .error (.requirementsNotMet c.check.message)

/-- Starts a change of a role: a node whose slot is taken is refused, and a change that ends at
once releases the slot again. -/
def startToggle (c : Console) (node : String) (enabled : Bool) : Console × Progress :=
  match c.claimSlot node with
  | none => (c, .ended (.refused (.toggleInFlight node)))
  | some c =>
      match c.beginToggle node enabled with
      | (c, .refused e) => (c.releaseSlot node, .ended (.refused e))
      | (c, .unchanged role) => (c.releaseSlot node, .ended (.toggled (.unchanged role)))
      | (c, .sent t) => (c, .waits (.patchNode t))

/-- Does of an action what can be done at once. -/
def perform (c : Console) : Action → Console × Progress
  | .selectLun wwn selected =>
      match c.selectLun wwn selected with
      | .ok c => (c, .ended .done)
      | .error e => (c, .ended (.refused e))
  | .selectAllLuns selected => (c.selectAllLuns selected, .ended .done)
  | .dismissAlert id => (c.dismissAlert id, .ended (.dismissed (c.canDismiss id)))
  | .toggleRole node enabled => c.startToggle node enabled
  | .createFilesystem name =>
      match c.planFilesystem name with
      | .ok claim => (c, .waits (.createFilesystem name claim))
      | .error e => (c, .ended (.refused e))
  | .createCluster =>
      match c.planCluster with
      | .ok cluster => (c, .waits (.createCluster cluster))
      | .error e => (c, .ended (.refused e))

/-- Ends an action with the outcome of its call. -/
def finish (c : Console) : (k : Call) → Except ConsoleError k.Result → Console × Answer
  | .patchNode t, reply =>
      let failure := match reply with
        | .ok _ => none
        | .error e => some e
      let (c, outcome) := c.settleToggle t failure
      (c.releaseSlot t.node, .toggled outcome)
  | .createFilesystem _ _, .ok claim => (c, .filesystem claim)
  | .createFilesystem name _, .error e =>
      (c.tellFailure s!"Failed to create filesystem {name}" e, .refused e)
  | .createCluster _, .ok cluster => (c, .cluster cluster)
  | .createCluster _, .error e =>
      (c.tellFailure "Failed to create storage cluster" e, .refused e)

end Console

end LunConsole
