import LunConsole.Text.Quoted
/-!
# Metrics of a console

Four gauges that show the present state and two families of counters. They are published as lines
of text: a family opens with what it means and of which kind it is, families stand in the order of
their names, and a counter that has never counted is left out.
-/

set_option autoImplicit false

namespace LunConsole

/-- The lists that a console watches. -/
inductive WatchedList where
  | nodes
  | discovery
  | disks
  deriving DecidableEq, Repr

/-- The name of the list in alerts and metrics. -/
def WatchedList.text : WatchedList → String
  | nodes => "nodes"
  | discovery => "discovery-results"
  | disks => "local-disks"

/-- The gauges. -/
structure Gauges where
  sharedLuns : Nat
  selectedLuns : Nat
  storageNodes : Nat
  requirementsMet : Bool
  deriving DecidableEq, Repr

/-- The counters: patches of nodes by outcome, and errors of watches by list. -/
@[ext] structure Counters where
  applied : Nat
  rolledBack : Nat
  watchErrors : WatchedList → Nat

namespace Counters

/-- Nothing has been counted. -/
def zero : Counters := ⟨0, 0, fun _ => 0⟩

/-- One more error of a watch. -/
def addWatchError (c : Counters) (list : WatchedList) : Counters :=
  { c with watchErrors := fun l => c.watchErrors l + if l = list then 1 else 0 }

/-- One more patch that was applied. -/
def addApplied (c : Counters) : Counters := { c with applied := c.applied + 1 }

/-- One more patch that was rolled back. -/
def addRolledBack (c : Counters) : Counters := { c with rolledBack := c.rolledBack + 1 }

/-! Each of them counts by one, and leaves all other counters as they are. -/

variable (c : Counters) (list l : WatchedList)

@[simp] theorem applied_addApplied : c.addApplied.applied = c.applied + 1 := rfl

@[simp] theorem rolledBack_addApplied : c.addApplied.rolledBack = c.rolledBack := rfl

@[simp] theorem watchErrors_addApplied : c.addApplied.watchErrors = c.watchErrors := rfl

@[simp] theorem applied_addRolledBack : c.addRolledBack.applied = c.applied := rfl

@[simp] theorem rolledBack_addRolledBack : c.addRolledBack.rolledBack = c.rolledBack + 1 := rfl

@[simp] theorem watchErrors_addRolledBack : c.addRolledBack.watchErrors = c.watchErrors := rfl

@[simp] theorem applied_addWatchError : (c.addWatchError list).applied = c.applied := rfl

@[simp] theorem rolledBack_addWatchError : (c.addWatchError list).rolledBack = c.rolledBack := rfl

@[simp] theorem watchErrors_addWatchError :
    (c.addWatchError list).watchErrors l
      = if l = list then c.watchErrors l + 1 else c.watchErrors l := by
  by_cases hl : l = list
  · simp only [addWatchError, if_pos hl]
  · simp only [addWatchError, if_neg hl, Nat.add_zero]

end Counters

/-- All metrics. -/
structure Metrics where
  gauges : Gauges
  counters : Counters

namespace Metrics

/-- The media type of the published text. -/
def contentType : String := "text/plain; version=0.0.4"

/-- One family: its name, meaning and kind, and its values by label text. -/
structure Family where
  name : String
  help : String
  kind : String
  values : List (String × Nat)

/-- The lines of a family. -/
def Family.text (f : Family) : String :=
  let name := "fusion_access_" ++ f.name
  s!"# HELP {name} {f.help}\n# TYPE {name} {f.kind}\n"
    ++ String.join (f.values.map fun (label, n) => s!"{name}{label} {n}\n")

/-- A label as it stands behind the name of a family. -/
def labelText (name value : String) : String := s!"\x7b{name}=\"{value}\"\x7d"

/-- A gauge as a family. -/
def gauge (name help : String) (n : Nat) : Family := ⟨name, help, "gauge", [("", n)]⟩

/-- Counters with one label as a family. -/
def counter (name help label : String) (values : List (String × Nat)) : Family where
  name
  help
  kind := "counter"
  values := (values.filter fun v => v.2 != 0).map fun (value, n) => (labelText label value, n)

/-- The families in the order of their names. -/
def families (m : Metrics) : List Family :=
  [ counter "node_patches_total" "Storage role label patches by outcome" "outcome"
      [("applied", m.counters.applied), ("rolled_back", m.counters.rolledBack)],
    gauge "requirements_met" "1 when the minimum storage cluster requirements are met"
      (if m.gauges.requirementsMet then 1 else 0),
    gauge "selected_luns" "LUN candidates currently selected" m.gauges.selectedLuns,
    gauge "shared_luns" "Shared, unclaimed LUN candidates" m.gauges.sharedLuns,
    gauge "storage_nodes_selected" "Nodes carrying the storage role label" m.gauges.storageNodes,
    counter "watch_errors_total" "Watch stream errors by resource kind" "kind"
      ([WatchedList.discovery, .disks, .nodes].map fun l => (l.text, m.counters.watchErrors l)) ]

/-- The published text. -/
def text (m : Metrics) : String :=
  String.join ((m.families.filter fun f => !f.values.isEmpty).map Family.text)

/-- The metrics in short. -/
def summary (m : Metrics) : String :=
  s!"ConsoleMetrics \x7b shared_luns: {m.gauges.sharedLuns}, "
    ++ s!"storage_nodes_selected: {m.gauges.storageNodes} \x7d"

end Metrics

end LunConsole
