import LunConsole.Lun
import LunConsole.Resource.DiscoveryReport
import LunConsole.Resource.LocalDisk
/-!
# Candidates for a filesystem

The candidates are the devices that every storage node sees and that no local disk claims. They
are a function of three inputs: the reports of the storage nodes in the order of the node names,
the number of storage nodes, and the claimed WWNs (`Inputs.candidates`).

The list is kept along with the inputs it was computed from (`Candidates`). As long as the inputs
stay the same the list stays, and with it what the user has selected; other inputs make a new
list with nothing selected.
-/

set_option autoImplicit false

namespace LunConsole

/-! ## 1. Inputs -/

/-- What the candidates are computed from. -/
structure Inputs where
  reports : List NodeReport
  nodeCount : Nat
  claimed : NameSet
  deriving DecidableEq

namespace Inputs

/-- Puts a report behind all reports with a node name that is not greater. -/
def insertReport (r : NodeReport) : List NodeReport → List NodeReport
  | [] => [r]
  | s :: rs => if r.nodeName < s.nodeName then r :: s :: rs else s :: insertReport r rs

/-- Orders reports by node name and leaves reports of one node in their order. -/
def sortReports (rs : List NodeReport) : List NodeReport :=
  rs.foldl (fun sorted r => insertReport r sorted) []

/-- The inputs that follow from what is known of the cluster. -/
def project (discovery : List DiscoveryReport) (disks : List LocalDisk)
    (storageNodes : List String) : Inputs where
  reports := sortReports
    ((discovery.filter fun r => storageNodes.contains r.nodeName).map DiscoveryReport.nodeReport)
  nodeCount := storageNodes.length
  claimed := Std.ExtTreeSet.ofList (disks.map LocalDisk.wwn)

/-- The candidates, none of them selected. -/
def candidates (i : Inputs) : LunList :=
  (unclaimedEntries (sharedEntries (catalog i.reports) i.nodeCount) i.claimed).map Lun.ofEntry

end Inputs

/-! ## 2. The list that is kept -/

/-- The candidates with the user's selection, the inputs they were computed from, and how often
they have been computed. -/
structure Candidates where
  inputs : Option Inputs
  luns : LunList
  rebuilds : Nat
  deriving DecidableEq

namespace Candidates

/-- Nothing has been computed. -/
def empty : Candidates := ⟨none, [], 0⟩

/-- Whether the list was computed from other inputs than these. -/
def isStale (c : Candidates) (i : Inputs) : Bool := c.inputs != some i

/-- The candidates for these inputs: the list that is kept if the inputs are the same. -/
def refresh (c : Candidates) (i : Inputs) : Candidates :=
  if c.isStale i then ⟨some i, i.candidates, c.rebuilds + 1⟩ else c

/-- Sets the flag of one candidate. -/
def select (c : Candidates) (wwn : String) (b : Bool) : Candidates :=
  { c with luns := c.luns.select wwn b }

/-- Sets the flags of all candidates. -/
def selectAll (c : Candidates) (b : Bool) : Candidates := { c with luns := c.luns.selectAll b }

end Candidates

end LunConsole
