import LunConsole.Resource.Metadata
/-!
# Storage clusters

The storage cluster runs its daemons and its collectors of performance data on the nodes with the
storage role label.
-/

set_option autoImplicit false

namespace LunConsole

/-- The licence of the storage software. -/
structure License where
  accept : Bool
  license : String
  deriving DecidableEq, Repr

/-- The nodes on which something runs, by their labels. -/
structure Placement where
  nodeSelector : TextMap
  deriving DecidableEq

/-- What a cluster is to be. -/
structure ClusterSpec where
  license : License
  daemon : Placement
  pmcollector : Option Placement
  deriving DecidableEq

/-- The conditions of a cluster, in whatever form they are reported. -/
structure ClusterStatus where
  conditions : List Json

instance : ResourceSpec ClusterSpec where
  type := {
    group := "scale.spectrum.ibm.com"
    version := "v1beta1"
    kind := "Cluster"
    plural := "clusters" }

/-- A storage cluster. -/
abbrev Cluster := Resource ClusterSpec ClusterStatus

namespace Cluster

/-- The name of the one cluster there is. -/
def storageClusterName : String := "ibm-spectrum-scale"

/-- The cluster on the nodes with a label. -/
def forStorageRole (ns key value : String) : Cluster :=
  let placement : Placement := { nodeSelector := Std.ExtTreeMap.ofList [(key, value)] }
  { metadata := Metadata.named storageClusterName ns
    spec := {
      license := { accept := true, license := "data-management" }
      daemon := placement
      pmcollector := some placement }
    status := none }

end Cluster

instance : Wire License where
  encode l := .object (Json.member "accept" l.accept ++ Json.member "license" l.license)
  decode? x := do
    let fs ← x.record? ["accept", "license"] 2
    return { accept := ← fs.required? "accept", license := ← fs.required? "license" }

instance : Wire Placement where
  encode p := .object (Json.member "nodeSelector" p.nodeSelector)
  decode? x := do
    let fs ← x.record? ["nodeSelector"] 0
    return { nodeSelector := ← fs.withDefault? "nodeSelector" ∅ }

instance : Wire ClusterSpec where
  encode s := .object <|
    Json.member "license" s.license ++ Json.member "daemon" s.daemon
      ++ Json.memberOrNull "pmcollector" s.pmcollector
  decode? x := do
    let fs ← x.record? ["license", "daemon", "pmcollector"] 2
    return {
      license := ← fs.required? "license"
      daemon := ← fs.required? "daemon"
      pmcollector := ← fs.optional? "pmcollector" }

instance : Wire ClusterStatus where
  encode s := .object (Json.member "conditions" s.conditions)
  decode? x := do
    let fs ← x.record? ["conditions"] 0
    return { conditions := ← fs.withDefault? "conditions" [] }

end LunConsole
