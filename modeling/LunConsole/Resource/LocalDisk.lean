import LunConsole.Resource.Metadata
/-!
# Local disks

A local disk claims a device for the storage cluster. The object is named by the WWN of the
device.
-/

set_option autoImplicit false

namespace LunConsole

/-- Which device of which node is claimed. -/
structure LocalDiskSpec where
  device : String
  node : String
  existingDataSkipVerify : Bool
  deriving DecidableEq, Repr

/-- What is known of the disk. -/
structure LocalDiskStatus where
  type : Option String
  size : Option String
  filesystem : Option String
  deriving DecidableEq, Repr

instance : ResourceSpec LocalDiskSpec where
  type := {
    group := "scale.spectrum.ibm.com"
    version := "v1beta1"
    kind := "LocalDisk"
    plural := "localdisks" }

/-- A claim on a device. -/
abbrev LocalDisk := Resource LocalDiskSpec LocalDiskStatus

/-- The WWN of the claimed device. -/
def LocalDisk.wwn (d : LocalDisk) : String := d.name

instance : Wire LocalDiskSpec where
  encode s := .object <|
    Json.member "device" s.device ++ Json.member "node" s.node
      ++ Json.member "existingDataSkipVerify" s.existingDataSkipVerify
  decode? x := do
    let fs ← x.record? ["device", "node", "existingDataSkipVerify"] 2
    return {
      device := ← fs.required? "device"
      node := ← fs.required? "node"
      existingDataSkipVerify := ← fs.withDefault? "existingDataSkipVerify" false }

instance : Wire LocalDiskStatus where
  encode s := .object <|
    Json.memberOrNull "type" s.type ++ Json.memberOrNull "size" s.size
      ++ Json.memberOrNull "filesystem" s.filesystem
  decode? x := do
    let fs ← x.record? ["type", "size", "filesystem"] 0
    return {
      type := ← fs.optional? "type"
      size := ← fs.optional? "size"
      filesystem := ← fs.optional? "filesystem" }

end LunConsole
