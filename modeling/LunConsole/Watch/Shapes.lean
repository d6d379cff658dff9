import LunConsole.Error
import LunConsole.Json.Shape
import LunConsole.Resource.CoreNode
import LunConsole.Resource.DiscoveryReport
import LunConsole.Resource.LocalDisk
/-!
# Shapes of watched objects

Changes of a list come in line by line, and a line may break off. What has come in is then still
looked at: if it could not have become a message it is a fault, and otherwise it is passed over. So
for everything that is sent as part of a message, its shape is known.
-/

set_option autoImplicit false

namespace LunConsole

open Json (Shape)

/-- A type whose values are recognised from their beginnings. -/
class HasShape (α : Type) where
  shape : Shape

export HasShape (shape)

namespace Metadata

/-- Texts that may be left out. -/
def texts (keys : List String) : List (String × Shape) :=
  keys.map fun key => (key, (Shape.ofType String).orNull)

/-- The fields of metadata. -/
def fields : List (String × Shape) :=
  texts ["name", "generateName", "namespace", "resourceVersion", "uid", "selfLink"] ++ [
    ("labels", (Shape.ofType String).map.orNull),
    ("annotations", (Shape.ofType String).map.orNull),
    ("generation", (Shape.ofType Int64).orNull),
    ("creationTimestamp", (Shape.ofType Instant).orNull),
    ("deletionTimestamp", (Shape.ofType Instant).orNull),
    ("deletionGracePeriodSeconds", (Shape.ofType Int64).orNull),
    ("finalizers", (Shape.ofType String).list.orNull),
    ("ownerReferences", (Shape.object (texts ["apiVersion", "kind", "name", "uid"] ++ [
      ("controller", (Shape.ofType Bool).orNull),
      ("blockOwnerDeletion", (Shape.ofType Bool).orNull)])).list.orNull),
    ("managedFields", (Shape.object (texts ["manager", "operation", "apiVersion", "fieldsType",
      "subresource"] ++ [("time", (Shape.ofType Instant).orNull),
      ("fieldsV1", Shape.any)])).list.orNull)]

end Metadata

instance : HasShape Metadata := ⟨.object Metadata.fields⟩

instance : HasShape CoreNode where
  shape := .object [
    ("apiVersion", .exactly "v1"), ("kind", .exactly "Node"),
    ("metadata", (shape Metadata).orNull), ("spec", CoreNode.spec.orNull),
    ("status", CoreNode.status.orNull)]

instance : HasShape DiscoverySpec where
  shape := .record DiscoverySpec [("nodeName", .ofType String)]

instance : HasShape DiscoveredDevice where
  shape := .record DiscoveredDevice [
    ("path", .ofType String), ("WWN", .ofType String), ("size", .ofType UInt64),
    ("deviceID", (Shape.ofType String).orNull), ("model", (Shape.ofType String).orNull),
    ("vendor", (Shape.ofType String).orNull), ("fstype", (Shape.ofType String).orNull)]

instance : HasShape DiscoveryStatus where
  shape := .record DiscoveryStatus [
    ("discoveredDevices", (shape DiscoveredDevice).list),
    ("discoveredTimeStamp", (Shape.ofType Instant).orNull)]

instance : HasShape LocalDiskSpec where
  shape := .record LocalDiskSpec [
    ("device", .ofType String), ("node", .ofType String),
    ("existingDataSkipVerify", .ofType Bool)]

instance : HasShape LocalDiskStatus where
  shape := .record LocalDiskStatus [
    ("type", (Shape.ofType String).orNull), ("size", (Shape.ofType String).orNull),
    ("filesystem", (Shape.ofType String).orNull)]

instance {σ τ : Type} [ResourceSpec σ] [Wire σ] [Wire τ] [HasShape σ] [HasShape τ] :
    HasShape (Resource σ τ) where
  shape := .record (Resource σ τ) [
    ("metadata", shape Metadata), ("spec", shape σ), ("status", (shape τ).orNull)]

instance : HasShape ApiStatus where
  shape := .record ApiStatus [
    ("status", .ofType String), ("message", .ofType String), ("reason", .ofType String),
    ("code", .ofType UInt16)]

end LunConsole
