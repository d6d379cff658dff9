import LunConsole.Capacity
import LunConsole.Sharing
/-!
# LUNs and their selection

A LUN is a shared device offered for a filesystem: where the representing node sees it, its
capacity as a text, and whether the user has selected it.
-/

set_option autoImplicit false

namespace LunConsole

/-- A device offered for a filesystem. -/
structure Lun where
  wwn : String
  path : String
  nodeName : String
  capacity : String
  sizeBytes : UInt64
  isSelected : Bool
  deriving DecidableEq, Repr

namespace Lun

/-- The LUN of a device, not selected. -/
def ofEntry (e : DeviceEntry) : Lun where
  wwn := e.wwn
  path := e.path
  nodeName := e.nodeName
  capacity := formatCapacity e.size
  sizeBytes := e.size
  isSelected := false

/-- The same LUN with its flag set to `b`. -/
def withSelected (l : Lun) (b : Bool) : Lun := { l with isSelected := b }

end Lun

instance : Wire Lun where
  encode l := .object <|
    Json.member "wwn" l.wwn ++ Json.member "path" l.path ++ Json.member "nodeName" l.nodeName
      ++ Json.member "capacity" l.capacity ++ Json.member "sizeBytes" l.sizeBytes
      ++ Json.member "isSelected" l.isSelected
  decode? x := do
    let fs ← x.record? ["wwn", "path", "nodeName", "capacity", "sizeBytes", "isSelected"] 6
    return {
      wwn := ← fs.required? "wwn"
      path := ← fs.required? "path"
      nodeName := ← fs.required? "nodeName"
      capacity := ← fs.required? "capacity"
      sizeBytes := ← fs.required? "sizeBytes"
      isSelected := ← fs.required? "isSelected" }

/-! ## Selection in a list of LUNs -/

/-- The LUNs on offer, in their order. -/
abbrev LunList := List Lun

namespace LunList

/-- Sets the flag of the first LUN with that WWN. -/
def select (wwn : String) (b : Bool) : LunList → LunList
  | [] => []
  | l :: ls => if l.wwn = wwn then l.withSelected b :: ls else l :: select wwn b ls

/-- Whether there is a LUN with that WWN. -/
def offers (ls : LunList) (wwn : String) : Bool := ls.any fun l => l.wwn = wwn

/-- Sets the flags of all LUNs. -/
def selectAll (ls : LunList) (b : Bool) : LunList := ls.map fun l => l.withSelected b

/-- The selected LUNs. -/
def selected (ls : LunList) : LunList := ls.filter Lun.isSelected

/-- The WWNs of the selected LUNs. -/
def selectedWwns (ls : LunList) : List String := ls.selected.map Lun.wwn

end LunList

end LunConsole
