import LunConsole.Device
import LunConsole.Instant
import LunConsole.Resource.Metadata
/-!
# Discovery reports

The resource by which a node reports its devices. One node may have several of them, and one
without a status reports no devices.
-/

set_option autoImplicit false

namespace LunConsole

/-- The node that reports. -/
structure DiscoverySpec where
  nodeName : String
  deriving DecidableEq, Repr

/-- What was found, and when. -/
structure DiscoveryStatus where
  devices : List DiscoveredDevice
  time : Option Instant
  deriving DecidableEq, Repr

instance : ResourceSpec DiscoverySpec where
  type := {
    group := "fusion.storage.openshift.io"
    version := "v1alpha1"
    kind := "LocalVolumeDiscoveryResult"
    plural := "localvolumediscoveryresults" }

/-- The report of one node. -/
abbrev DiscoveryReport := Resource DiscoverySpec DiscoveryStatus

namespace DiscoveryReport

/-- The node that reports. -/
def nodeName (r : DiscoveryReport) : String := r.spec.nodeName

/-- The devices it reports. -/
def devices (r : DiscoveryReport) : List DiscoveredDevice :=
  match r.status with
  | some status => status.devices
  | none => []

/-- What the report says, without the resource around it. -/
def nodeReport (r : DiscoveryReport) : NodeReport := ⟨r.nodeName, r.devices⟩

end DiscoveryReport

instance : Wire DiscoverySpec where
  encode s := .object (Json.member "nodeName" s.nodeName)
  decode? x := do
    let fs ← x.record? ["nodeName"] 1
    return { nodeName := ← fs.required? "nodeName" }

instance : Wire DiscoveryStatus where
  encode s := .object <|
    Json.member "discoveredDevices" s.devices ++ Json.memberOrNull "discoveredTimeStamp" s.time
  decode? x := do
    let fs ← x.record? ["discoveredDevices", "discoveredTimeStamp"] 0
    return {
      devices := ← fs.withDefault? "discoveredDevices" []
      time := ← fs.optional? "discoveredTimeStamp" }

end LunConsole
