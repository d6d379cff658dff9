import LunConsole.Console.Basic
/-!
# Changing the storage role of a node

To change the role of a node its label is patched. The change takes five steps, and anything may
happen to the console between two of them.

1. The node's slot is claimed (`claimSlot`). A node has one slot; while it is taken, other requests
   for the node are refused.
2. The state is looked at and the patch is built (`beginToggle`). If there is nothing to do, or
   nothing that can be done, the request ends here.
3. The patch is sent, and the outcome awaited.
4. The role settles (`settleToggle`): as requested if the patch was applied, as before if not.
5. The slot is released (`releaseSlot`).
-/

set_option autoImplicit false

namespace LunConsole

/-- How a request to change a role ended. -/
inductive ToggleOutcome where
  | applied (role : NodeRole)
  | unchanged (role : NodeRole)
  | rolledBack (role : NodeRole) (error : String)
  deriving DecidableEq, Repr

instance : Wire ToggleOutcome where
  encode
    | .applied role => .object (Json.member "outcome" "applied" ++ Json.member "state" role)
    | .unchanged role => .object (Json.member "outcome" "unchanged" ++ Json.member "state" role)
    | .rolledBack role error => .object <|
        Json.member "outcome" "rolledBack" ++ Json.member "state" role
          ++ Json.member "error" error
  decode? x := do
    let (outcome, rest) ← x.tagged? "outcome"
    let role (fs : Json.Fields) : Option NodeRole := do NodeRole.ofInner? (← fs.lookup "state")
    if outcome = "applied" then return .applied (← role (← rest.record? ["state"] 1))
    else if outcome = "unchanged" then return .unchanged (← role (← rest.record? ["state"] 1))
    else if outcome = "rolledBack" then
      let fs ← rest.record? ["state", "error"] 2
      return .rolledBack (← role fs) (← fs.required? "error")
    else none

/-- A change whose patch has been sent: what was requested, the patch, and the version of the node
from which it was built. -/
structure SentToggle where
  node : String
  enabled : Bool
  ops : List PatchOp
  readAt : Option String

/-- What follows from looking at the state. -/
inductive ToggleStart where
  | refused (error : ConsoleError)
  | unchanged (role : NodeRole)
  | sent (toggle : SentToggle)

namespace Console

/-- Claims the slot of a node, if it is free. -/
def claimSlot (c : Console) (node : String) : Option Console :=
  if c.inFlight.contains node then none
  else some { c with inFlight := c.inFlight.insert node }

/-- Releases the slot of a node. -/
def releaseSlot (c : Console) (node : String) : Console :=
  { c with inFlight := c.inFlight.erase node }

/-- The node of that name in the latest snapshot. -/
def cached? (c : Console) (node : String) : Option StorageNode :=
  c.nodes.data.find? fun n => n.name = node

/-- Looks at the state and, if the role has to change, starts the change and builds the patch from
the node's copy in the latest snapshot. -/
def beginToggle (c : Console) (node : String) (enabled : Bool) : Console × ToggleStart :=
  match c.roles.role? node with
  | none => (c, .refused (.nodeNotFound node))
  | some role =>
      if !role.isPending && role.isSelected == enabled then (c, .unchanged role)
      else
        match c.cached? node with
        | none =>
            -- there is no copy to build a patch from
            (recompute { c with roles := c.roles.forget node }, .refused (.nodeNotFound node))
        | some copy =>
            match c.roles.begin node enabled with
            | .error e => (c, .refused e)
            | .ok (_, roles) =>
                let label := c.config.storageRoleLabel
                ({ c with roles },
                  .sent {
                    node
                    enabled
                    ops := copy.labelPatch label.key label.value enabled
                    readAt := copy.resourceVersion })

/-- Drops a node that has left the latest snapshot. -/
def forgetIfGone (c : Console) (node : String) : Console :=
  if (c.cached? node).isSome then c else { c with roles := c.roles.forget node }

/-- The patch was applied. The version it was built from is superseded. -/
def settleApplied (c : Console) (t : SentToggle) : Console × ToggleOutcome :=
  let roles := c.roles.resolve t.node
  let role := (roles.role? t.node).getD (.ofFlag t.enabled)
  -- the node is still known here; should it be dropped below, so is its version
  let roles := match t.readAt with
    | some version => roles.supersede t.node version
    | none => roles
  let c := { c with roles }.forgetIfGone t.node
  let c := { c with metrics := { c.metrics with counters := c.metrics.counters.addApplied } }
  (c.recompute, .applied role)

/-- The patch failed. The role is what it was, and the user is told. -/
def settleFailed (c : Console) (t : SentToggle) (e : ConsoleError) : Console × ToggleOutcome :=
  let roles := c.roles.revert t.node
  let role := (roles.role? t.node).getD (.ofFlag !t.enabled)
  let c := { c with roles }.forgetIfGone t.node
  let c := { c with metrics := { c.metrics with counters := c.metrics.counters.addRolledBack } }
  let c := c.tellFailure s!"Failed to update storage role of node {t.node}" e
  (c.recompute, .rolledBack role e.message)

/-- Settles a change; `failure` tells why the patch was not applied. -/
def settleToggle (c : Console) (t : SentToggle) (failure : Option ConsoleError) :
    Console × ToggleOutcome :=
  match failure with
  | none => c.settleApplied t
  | some e => c.settleFailed t e

end Console

end LunConsole
