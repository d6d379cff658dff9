import LunConsole.Wire
/-!
# Devices seen by nodes

Every node reports the block devices that it sees, each under the world wide name (WWN) that
identifies it on all nodes. The catalog is the flat list of all sightings, in the order of the
reports and, within a report, of the devices.
-/

set_option autoImplicit false

namespace LunConsole

/-- A block device as one node sees it. -/
structure DiscoveredDevice where
  path : String
  wwn : String
  size : UInt64
  deviceId : Option String
  model : Option String
  vendor : Option String
  fstype : Option String
  deriving DecidableEq, Repr

/-- The devices that one node reports. -/
structure NodeReport where
  nodeName : String
  devices : List DiscoveredDevice
  deriving DecidableEq, Repr

/-- One sighting of a device by a node. -/
structure DeviceEntry where
  nodeName : String
  path : String
  wwn : String
  size : UInt64
  deriving DecidableEq, Repr

/-- A sighting of a device by the node of that name. -/
def DiscoveredDevice.seenBy (d : DiscoveredDevice) (nodeName : String) : DeviceEntry where
  nodeName
  path := d.path
  wwn := d.wwn
  size := d.size

/-- The sightings in one report. -/
def NodeReport.entries (r : NodeReport) : List DeviceEntry :=
  r.devices.map fun d => d.seenBy r.nodeName

/-- All sightings of a list of reports. -/
def catalog (reports : List NodeReport) : List DeviceEntry :=
  reports.flatMap NodeReport.entries

theorem mem_catalog {reports : List NodeReport} {e : DeviceEntry} :
    e ∈ catalog reports ↔ ∃ r ∈ reports, ∃ d ∈ r.devices, d.seenBy r.nodeName = e := by
  simp [catalog, NodeReport.entries]

theorem catalog_append (xs ys : List NodeReport) :
    catalog (xs ++ ys) = catalog xs ++ catalog ys := by
  simp [catalog]

/-! ## Wire forms -/

instance : Wire DiscoveredDevice where
  encode d := .object <|
    Json.member "path" d.path ++ Json.member "WWN" d.wwn ++ Json.member "size" d.size
      ++ Json.memberIf "deviceID" d.deviceId ++ Json.memberIf "model" d.model
      ++ Json.memberIf "vendor" d.vendor ++ Json.memberIf "fstype" d.fstype
  decode? x := do
    let fs ← x.record? ["path", "WWN", "size", "deviceID", "model", "vendor", "fstype"] 2
    return {
      path := ← fs.required? "path"
      wwn := ← fs.required? "WWN"
      size := ← fs.withDefault? "size" 0
      deviceId := ← fs.optional? "deviceID"
      model := ← fs.optional? "model"
      vendor := ← fs.optional? "vendor"
      fstype := ← fs.optional? "fstype" }

instance : Wire NodeReport where
  encode r := .object <|
    Json.member "nodeName" r.nodeName ++ Json.member "discoveredDevices" r.devices
  decode? x := do
    let fs ← x.record? ["nodeName", "discoveredDevices"] 2
    return {
      nodeName := ← fs.required? "nodeName"
      devices := ← fs.required? "discoveredDevices" }

instance : Wire DeviceEntry where
  encode e := .object <|
    Json.member "nodeName" e.nodeName ++ Json.member "path" e.path
      ++ Json.member "wwn" e.wwn ++ Json.member "size" e.size
  decode? x := do
    let fs ← x.record? ["nodeName", "path", "wwn", "size"] 4
    return {
      nodeName := ← fs.required? "nodeName"
      path := ← fs.required? "path"
      wwn := ← fs.required? "wwn"
      size := ← fs.required? "size" }

end LunConsole
