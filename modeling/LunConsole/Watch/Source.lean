import LunConsole.Console.Basic
import LunConsole.Resource.CoreNode
import LunConsole.Target
/-!
# The watched lists

Where the console's three lists come from, what it keeps of their objects, and how it takes them
in. Nodes are chosen by a label selector; the other two lists are those of the namespace.
-/

set_option autoImplicit false

namespace LunConsole

/-- A list that the console watches: of what comes from the server (`α`) it keeps a view (`β`). -/
structure Source (α β : Type) where
  list : WatchedList
  path : Config → String
  selector : Config → Option String
  view : α → β
  apply : Console → Snapshot β → Console

namespace Source

/-- What the first request for the list is about; `none` if no request can ask for it. A namespace
that does not fit into a path makes the request impossible, and one that ends the path early makes
it a request for something that there is not. -/
def target? {α β : Type} (src : Source α β) (c : Config) : Option Target := do
  let parameters := match src.selector c with
    | some selector => [("labelSelector", selector)]
    | none => []
  let target ← Target.read? (Target.write (src.path c) parameters)
  if target.path = src.path c then some target else none

/-- The nodes. -/
def nodes : Source CoreNode StorageNode where
  list := .nodes
  path _ := "/api/v1/nodes"
  selector c := some c.workerNodeSelector
  view := CoreNode.storageNode
  apply := Console.applyNodes

/-- The discovery reports. -/
def discovery : Source DiscoveryReport DiscoveryReport where
  list := .discovery
  path c := (ResourceSpec.type DiscoverySpec).path (some c.watchedNamespace)
  selector _ := none
  view := id
  apply := Console.applyDiscovery

/-- The local disks. -/
def disks : Source LocalDisk LocalDisk where
  list := .disks
  path c := (ResourceSpec.type LocalDiskSpec).path (some c.watchedNamespace)
  selector _ := none
  view := id
  apply := Console.applyDisks

end Source

end LunConsole
