import LunConsole.Device
import Std.Data.ExtTreeSet
/-!
# Shared and claimed devices

A device is shared by `n` nodes if exactly `n` nodes see it. The sightings are gone through once.
For every WWN the first sighting is kept, which represents the device from then on, together with
the nodes that saw it. The groups stand in the order of those first sightings.

A device that is claimed already is left out.
-/

set_option autoImplicit false

namespace LunConsole

/-- Names without an order and without repetition. -/
abbrev NameSet := Std.ExtTreeSet String

/-- The sightings of one device: the first of them, and the nodes of all of them. -/
structure Sighting where
  first : DeviceEntry
  nodes : NameSet

namespace Sighting

/-- A device that is seen for the first time. -/
def ofEntry (e : DeviceEntry) : Sighting := ⟨e, {e.nodeName}⟩

/-- Adds one entry to the groups: to the group of its WWN if there is one, else as a new group at
the end. -/
def record : List Sighting → DeviceEntry → List Sighting
  | [], e => [ofEntry e]
  | g :: gs, e =>
      if g.first.wwn = e.wwn then { g with nodes := g.nodes.insert e.nodeName } :: gs
      else g :: record gs e

/-- The groups of a list of entries. -/
def groups (entries : List DeviceEntry) : List Sighting := entries.foldl record []

end Sighting

/-- The first sightings of the devices seen by exactly `nodeCount` nodes. No device is shared by
no nodes. -/
def sharedEntries (entries : List DeviceEntry) (nodeCount : Nat) : List DeviceEntry :=
  if nodeCount = 0 then []
  else ((Sighting.groups entries).filter fun g => g.nodes.size = nodeCount).map Sighting.first

/-- The entries whose WWN is not claimed. -/
def unclaimedEntries (entries : List DeviceEntry) (claimed : NameSet) : List DeviceEntry :=
  entries.filter fun e => !claimed.contains e.wwn

end LunConsole
