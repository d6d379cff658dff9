import LunConsole.Alert
import LunConsole.Candidates
import LunConsole.Config.Basic
import LunConsole.Console.Metrics
import LunConsole.Role
import LunConsole.Snapshot
/-!
# The console

The console holds the latest snapshots of the three lists it watches, the roles of the nodes, the
candidates with the user's selection, the outcome of the last check of the requirements, and what
the user is told. Everything but the first four parts is derived: whatever changes one of them ends
with `Console.recompute`, which brings the candidates, the check, the alerts and the gauges up to
date.

The check is announced only when it differs from the one before, so an alert about missing
requirements is raised once and not again with every snapshot.
-/

set_option autoImplicit false

namespace LunConsole

/-- The state of a console. `inFlight` holds the nodes with a change under way, `failures` counts
the failed changes, which number their alerts, and `clock` is the time given to alerts. -/
structure Console where
  config : Config
  nodes : Snapshot StorageNode
  discovery : Snapshot DiscoveryReport
  disks : Snapshot LocalDisk
  roles : NodeRoles
  candidates : Candidates
  requirements : Option RequirementCheck
  board : Board
  inFlight : NameSet
  failures : Nat
  metrics : Metrics
  clock : Instant

namespace Console

/-- The id of the alert about missing requirements. -/
def requirementsAlertId : String := "minimum-requirements"

/-! ## 1. Alerts -/

/-- The console after an event on its board. -/
def tell (c : Console) (e : BoardEvent) : Console := { c with board := c.board.after e }

/-- An alert that the user can dismiss, raised now. -/
def alert (c : Console) (id : String) (severity : Severity) (title description : String) :
    Alert where
  id
  severity
  title
  description
  dismissible := true
  raisedAt := c.clock

/-- Tells of a failed change in an alert of its own. -/
def tellFailure (c : Console) (title : String) (e : ConsoleError) : Console :=
  { c.tell (.raise (c.alert s!"mutation-{c.failures}" .danger title e.message)) with
    failures := c.failures + 1 }

/-! ## 2. Derived state -/

/-- The inputs of the candidates as they follow from the snapshots and the roles. -/
def inputs (c : Console) : Inputs :=
  .project c.discovery.data c.disks.data c.roles.selectedNodes

/-- Brings the candidates up to date. -/
def refreshCandidates (c : Console) : Console :=
  { c with candidates := c.candidates.refresh c.inputs }

/-- Takes note of a check and tells the user if it differs from the last one. -/
def review (c : Console) (check : RequirementCheck) : Console :=
  if c.requirements = some check then c
  else
    let c := { c with requirements := some check }
    if check.passes then
      (c.tell (.setCta ⟨true, none⟩)).tell (.retract requirementsAlertId)
    else
      (c.tell (.setCta ⟨false, some check.message⟩)).tell
        (.raise (c.alert requirementsAlertId .warning "Minimum requirements not met"
          check.message).sticky)

/-- The check of the present state. -/
def currentCheck (c : Console) : RequirementCheck :=
  c.config.requirements.check c.roles.selectedNodes.length c.candidates.luns.length

/-- The gauges of the present state. -/
def currentGauges (c : Console) : Gauges where
  sharedLuns := c.candidates.luns.length
  selectedLuns := c.candidates.luns.selected.length
  storageNodes := c.roles.selectedNodes.length
  requirementsMet := c.currentCheck.passes

/-- Sets the gauges. -/
def setGauges (c : Console) : Console :=
  { c with metrics := { c.metrics with gauges := c.currentGauges } }

/-- Brings everything that is derived up to date. -/
def recompute (c : Console) : Console :=
  let c := c.refreshCandidates
  -- the check counts the candidates, so it is made of the new ones
  (c.review c.currentCheck).setGauges

/-- A console that knows nothing yet, and says that the requirements are not met. -/
def new (config : Config) (clock : Instant) : Console :=
  recompute {
    config
    nodes := .empty
    discovery := .empty
    disks := .empty
    roles := .empty
    candidates := .empty
    requirements := none
    board := .empty
    inFlight := ∅
    failures := 0
    metrics := ⟨⟨0, 0, 0, false⟩, .zero⟩
    clock }

/-! ## 3. Snapshots -/

/-- The id of the alert about a list that could not be loaded. -/
def loadAlertId (list : WatchedList) : String := s!"load-{list.text}"

/-- Tells of an error of a watch as long as it lasts. -/
def trackLoad (c : Console) (list : WatchedList) (error : Option String) : Console :=
  match error with
  | some error =>
      let c := { c with
        metrics := { c.metrics with counters := c.metrics.counters.addWatchError list } }
      c.tell (.raise (c.alert (loadAlertId list) .danger s!"Failed to load {list.text}"
        error).sticky)
  | none => c.tell (.retract (loadAlertId list))

/-- Takes in the nodes. -/
def applyNodes (c : Console) (s : Snapshot StorageNode) : Console :=
  let c := c.trackLoad .nodes s.error
  let label := c.config.storageRoleLabel
  recompute { c with roles := c.roles.sync label.key label.value s.data, nodes := s }

/-- Takes in the discovery reports. -/
def applyDiscovery (c : Console) (s : Snapshot DiscoveryReport) : Console :=
  recompute { c.trackLoad .discovery s.error with discovery := s }

/-- Takes in the local disks. -/
def applyDisks (c : Console) (s : Snapshot LocalDisk) : Console :=
  recompute { c.trackLoad .disks s.error with disks := s }

/-! ## 4. Views -/

/-- The outcome of the last check. -/
def check (c : Console) : RequirementCheck := c.requirements.getD ⟨[]⟩

/-- Whether each list has been loaded. -/
def isLoaded (c : Console) : Bool := c.nodes.loaded && c.discovery.loaded && c.disks.loaded

/-- A node and its role, as the user sees them. -/
structure NodeView where
  name : String
  role : NodeRole
  selected : Bool
  deriving DecidableEq, Repr

/-- The known nodes in the order of their names. -/
def nodeViews (c : Console) : List NodeView :=
  c.roles.states.toList.map fun (name, role) => ⟨name, role, role.isSelected⟩

/-- The console in numbers. -/
structure Status where
  loaded : Bool
  storageNodes : Nat
  sharedLuns : Nat
  selectedLuns : Nat
  requirements : RequirementCheck
  rebuilds : Nat
  deriving DecidableEq, Repr

/-- The console in numbers. -/
def status (c : Console) : Status where
  loaded := c.isLoaded
  storageNodes := c.roles.selectedNodes.length
  sharedLuns := c.candidates.luns.length
  selectedLuns := c.candidates.luns.selected.length
  requirements := c.check
  rebuilds := c.candidates.rebuilds

/-- The console in short. -/
def summary (c : Console) : String :=
  s!"StorageConsole \x7b namespace: {Text.quoted c.config.watchedNamespace}, "
    ++ s!"in_flight: {c.inFlight.size} \x7d"

end Console

/-! ## Wire forms -/

instance : Wire Console.NodeView where
  encode v := .object <|
    Json.member "name" v.name ++ Json.member "role" v.role ++ Json.member "selected" v.selected
  decode? x := do
    let fs ← x.record? ["name", "role", "selected"] 3
    return {
      name := ← fs.required? "name"
      role := ← fs.required? "role"
      selected := ← fs.required? "selected" }

instance : Wire Console.Status where
  encode s := .object <|
    Json.member "loaded" s.loaded ++ [("storageNodes", .ofNat s.storageNodes),
      ("sharedLuns", .ofNat s.sharedLuns), ("selectedLuns", .ofNat s.selectedLuns)]
      ++ Json.member "requirements" s.requirements ++ [("rebuilds", .ofNat s.rebuilds)]
  decode? x := do
    let fs ← x.record? ["loaded", "storageNodes", "sharedLuns", "selectedLuns", "requirements",
      "rebuilds"] 6
    let count (name : String) : Option Nat := (fs.required? name : Option UInt64).map (·.toNat)
    return {
      loaded := ← fs.required? "loaded"
      storageNodes := ← count "storageNodes"
      sharedLuns := ← count "sharedLuns"
      selectedLuns := ← count "selectedLuns"
      requirements := ← fs.required? "requirements"
      rebuilds := ← count "rebuilds" }

end LunConsole
