import LunConsole.Error
import LunConsole.Node
/-!
# Storage roles of nodes

Which nodes are storage nodes follows the role label of the nodes. While a change of the label is
under way the role is pending: it remembers what the node was and what it is to become, and until
the outcome is known the node counts as what it was.

Two rules protect a role against outdated reads of its node. A pending role is not touched by a
read. And once a change has been applied, the version from which its patch was built is
superseded: a read that still shows that version says nothing new.
-/

set_option autoImplicit false

namespace LunConsole

/-- The role of one node. -/
inductive NodeRole where
  | unselected
  | selected
  | pending (previous target : Bool)
  deriving DecidableEq, Repr

namespace NodeRole

/-- The settled role for a flag. -/
def ofFlag (b : Bool) : NodeRole := if b then selected else unselected

/-- Whether the node counts as a storage node. -/
def isSelected : NodeRole → Bool
  | selected => true
  | unselected => false
  | pending previous _ => previous

/-- Whether a change is under way. -/
def isPending : NodeRole → Bool
  | pending .. => true
  | _ => false

/-- The role in a word. -/
def text : NodeRole → String
  | unselected => "unselected"
  | selected => "selected"
  | pending .. => "selection-pending"

/-- The role once the change under way has been applied. -/
def applied : NodeRole → NodeRole
  | pending _ target => ofFlag target
  | role => role

/-- The role once the change under way has been given up. -/
def reverted : NodeRole → NodeRole
  | pending previous _ => ofFlag previous
  | role => role

@[simp] theorem isSelected_ofFlag (b : Bool) : (ofFlag b).isSelected = b := by cases b <;> rfl

@[simp] theorem isPending_ofFlag (b : Bool) : (ofFlag b).isPending = false := by cases b <;> rfl

end NodeRole

namespace NodeRole

/-- The cases of a role by their tags. -/
def cases : List String := ["unselected", "selected", "pending"]

/-- The role of a case with its fields. -/
def ofCase? (state : String) (rest : Json) : Option NodeRole := do
  if state = "unselected" then
    rest.noFields?
    return unselected
  else if state = "selected" then
    rest.noFields?
    return selected
  else if state = "pending" then
    let fs ← rest.record? ["previous", "target"] 2
    return pending (← fs.required? "previous") (← fs.required? "target")
  else none

/-- Reads a role that is part of a choice. -/
def ofInner? (x : Json) : Option NodeRole := do
  let (state, rest) ← x.innerTagged? "state" cases
  ofCase? state rest

end NodeRole

instance : Wire NodeRole where
  encode
    | .unselected => .object (Json.member "state" "unselected")
    | .selected => .object (Json.member "state" "selected")
    | .pending previous target => .object <|
        Json.member "state" "pending" ++ Json.member "previous" previous
          ++ Json.member "target" target
  decode? x := do
    let (state, rest) ← x.tagged? "state"
    NodeRole.ofCase? state rest

/-! ## The roles of all nodes -/

/-- The roles by node, and by node the version that a change has superseded. -/
structure NodeRoles where
  states : Std.ExtTreeMap String NodeRole
  superseded : TextMap
  deriving DecidableEq

namespace NodeRoles

/-- No nodes. -/
def empty : NodeRoles := ⟨∅, ∅⟩

/-- The role of a node. -/
def role? (r : NodeRoles) (node : String) : Option NodeRole := r.states[node]?

/-- The nodes that count as storage nodes, in the order of their names. -/
def selectedNodes (r : NodeRoles) : List String :=
  (r.states.toList.filter fun s => s.2.isSelected).map Prod.fst

/-- Whether the node was read at the superseded version. -/
def isOutdated (superseded : TextMap) (node : StorageNode) : Bool :=
  match superseded[node.name]?, node.resourceVersion with
  | some stale, some seen => stale == seen
  | _, _ => false

/-- Takes one node of a list into `acc`, given the roles before. -/
def syncNode (before : NodeRoles) (key value : String) (acc : NodeRoles) (node : StorageNode) :
    NodeRoles :=
  let read : NodeRoles :=
    { states := acc.states.insert node.name (.ofFlag (node.hasLabel key value))
      superseded := acc.superseded.erase node.name }
  match before.states[node.name]? with
  | some role =>
      -- a change is under way, or the node is shown as it was before the last one
      if role.isPending || isOutdated acc.superseded node then
        { acc with states := acc.states.insert node.name role }
      else read
  | none => read

/-- The roles after a list of nodes has been read. Nodes that are not listed are dropped, except
while a change of theirs is under way. -/
def sync (r : NodeRoles) (key value : String) (nodes : List StorageNode) : NodeRoles :=
  let listed := nodes.foldl (r.syncNode key value) ⟨∅, r.superseded⟩
  -- of a node that is listed the reading counts, which for a pending one is what it was
  let states := r.states.filter (fun _ role => role.isPending) ∪ listed.states
  { states, superseded := listed.superseded.filter fun name _ => states.contains name }

/-- Notes that a version of a known node is superseded. -/
def supersede (r : NodeRoles) (node version : String) : NodeRoles :=
  if r.states.contains node then
    { r with superseded := r.superseded.insert node version }
  else r

/-- Whether `forget` removes the node: it is known, and no change of it is under way. -/
def canForget (r : NodeRoles) (node : String) : Bool :=
  match r.states[node]? with
  | some role => !role.isPending
  | none => false

/-- Drops a node that is settled. -/
def forget (r : NodeRoles) (node : String) : NodeRoles :=
  if r.canForget node then
    { states := r.states.erase node, superseded := r.superseded.erase node }
  else r

/-- Starts a change and returns the flag before it. -/
def begin (r : NodeRoles) (node : String) (target : Bool) :
    Except ConsoleError (Bool × NodeRoles) :=
  match r.states[node]? with
  | none => .error (.nodeNotFound node)
  | some role =>
      if role.isPending then .error (.toggleInFlight node)
      else
        .ok (role.isSelected,
          { r with states := r.states.insert node (.pending role.isSelected target) })

/-- Replaces the role of a known node. -/
def settle (r : NodeRoles) (node : String) (f : NodeRole → NodeRole) : NodeRoles :=
  match r.states[node]? with
  | some role => { r with states := r.states.insert node (f role) }
  | none => r

/-- Ends a change that was applied. -/
def resolve (r : NodeRoles) (node : String) : NodeRoles := r.settle node .applied

/-- Ends a change that was given up. -/
def revert (r : NodeRoles) (node : String) : NodeRoles := r.settle node .reverted

end NodeRoles

end LunConsole
