import LunConsole.Json.Shape
import LunConsole.Node
import LunConsole.Resource.Metadata
/-!
# Nodes of the API server

A node as the API server returns it. Only its metadata is kept. Where it states its type, it has to
be that of a node, and where it has a `spec` or a `status`, all that is known of those has to be of
the right type.
-/

set_option autoImplicit false

namespace LunConsole

/-- A node as the API server returns it. -/
structure CoreNode where
  metadata : Metadata

/-- What the console keeps of the node. -/
def CoreNode.storageNode (n : CoreNode) : StorageNode where
  name := n.metadata.anyName
  labels := n.metadata.labels.getD ∅
  resourceVersion := n.metadata.resourceVersion

/-! ## What is asked of a node -/

namespace CoreNode

open Json (Shape)

/-- Texts that may be left out. -/
def texts (keys : List String) : List (String × Shape) :=
  keys.map fun key => (key, (Shape.ofType String).orNull)

/-- A list of objects that may be left out. -/
def objects (known : List (String × Shape)) : Shape := (Shape.object known).list.orNull

/-- Where the configuration of a node comes from. -/
def configSource : Shape := (Shape.object [
  ("configMap", (Shape.object (texts
    ["kubeletConfigKey", "name", "namespace", "resourceVersion", "uid"])).orNull)]).orNull

/-- An instant that may be left out. -/
def time : Shape := (Shape.ofType Instant).orNull

/-- Quantities by name, which may be left out. -/
def quantities : Shape := (Shape.ofType String).map.orNull

/-- The wanted state of a node. -/
def spec : Shape := Shape.object <|
  texts ["externalID", "podCIDR", "providerID"] ++ [
    ("configSource", configSource),
    ("podCIDRs", (Shape.ofType String).list.orNull),
    ("taints", objects (("timeAdded", time) :: texts ["effect", "key", "value"])),
    ("unschedulable", (Shape.ofType Bool).orNull)]

/-- The observed state of a node. -/
def status : Shape := Shape.object [
  ("addresses", objects (texts ["address", "type"])),
  ("allocatable", quantities),
  ("capacity", quantities),
  ("conditions", objects (("lastHeartbeatTime", time) :: ("lastTransitionTime", time)
    :: texts ["message", "reason", "status", "type"])),
  ("config", (Shape.object (texts ["error"] ++ [("active", configSource),
    ("assigned", configSource), ("lastKnownGood", configSource)])).orNull),
  ("daemonEndpoints", (Shape.object [
    ("kubeletEndpoint", (Shape.object [("Port", Shape.int32.orNull)]).orNull)]).orNull),
  ("images", objects [("names", (Shape.ofType String).list.orNull),
    ("sizeBytes", (Shape.ofType Int64).orNull)]),
  ("nodeInfo", (Shape.object (texts ["architecture", "bootID", "containerRuntimeVersion",
    "kernelVersion", "kubeProxyVersion", "kubeletVersion", "machineID", "operatingSystem",
    "osImage", "systemUUID"])).orNull),
  ("phase", (Shape.ofType String).orNull),
  ("volumesAttached", objects (texts ["devicePath", "name"])),
  ("volumesInUse", (Shape.ofType String).list.orNull)]

end CoreNode

instance : Wire CoreNode where
  encode n := .object <|
    Json.member "apiVersion" "v1" ++ Json.member "kind" "Node"
      ++ Json.member "metadata" n.metadata
  decode? x := do
    let ms ← x.members?
    let rest : Json.Shape := .object [("apiVersion", .exactly "v1"), ("kind", .exactly "Node"),
      ("spec", CoreNode.spec.orNull), ("status", CoreNode.status.orNull)]
    if !rest.fits x then none
    return { metadata := (← Json.part? ms "metadata").getD .empty }

end LunConsole
