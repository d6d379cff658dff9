/-!
# Snapshots of a watched list

The last known content of a list that is watched, whether it has been loaded at all, and the error
of the watch, if the watch is in error. An error does not discard the content, and the next
content clears the error.
-/

set_option autoImplicit false

namespace LunConsole

/-- The state of a watched list. -/
structure Snapshot (α : Type) where
  loaded : Bool
  error : Option String
  data : List α
  deriving DecidableEq, Repr

namespace Snapshot

variable {α : Type}

/-- A list that has not been loaded. -/
def empty : Snapshot α := ⟨false, none, []⟩

/-- A list that has just been loaded. -/
def ofData (data : List α) : Snapshot α := ⟨true, none, data⟩

/-- The same content with an error of the watch. -/
def withError (s : Snapshot α) (error : String) : Snapshot α := { s with error := some error }

/-- New content, whatever was known before. -/
def replace (_ : Snapshot α) (data : List α) : Snapshot α := ofData data

end Snapshot

end LunConsole
