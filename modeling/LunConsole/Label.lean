import LunConsole.Error
import LunConsole.Text.Blank
import LunConsole.Wire
/-!
# Labels

A label is given as `key=value`. The first equals sign divides the two, blanks around either do
not count, the key must not be empty, and the value may be.
-/

set_option autoImplicit false

namespace LunConsole

/-- A label of a node. -/
structure Label where
  key : String
  value : String
  deriving DecidableEq, Repr

namespace Label

/-- What stands before the first equals sign and what after it. -/
def divide? : List Char → Option (List Char × List Char)
  | [] => none
  | '=' :: s => some ([], s)
  | c :: s => (divide? s).map fun (key, value) => (c :: key, value)

/-- Reads a label. -/
def parse (text : String) : Except ConsoleError Label :=
  match divide? text.toList with
  | none => .error (.configuration s!"label must be key=value: {text}")
  | some (key, value) =>
      let key := Text.trimmed key
      if key.isEmpty then .error (.configuration s!"label key is empty: {text}")
      else .ok ⟨String.ofList key, String.ofList (Text.trimmed value)⟩

/-- The label as it is given. -/
def text (l : Label) : String := l.key ++ "=" ++ l.value

end Label

instance : Wire Label where
  encode l := .object (Json.member "key" l.key ++ Json.member "value" l.value)
  decode? x := do
    let fs ← x.record? ["key", "value"] 2
    return { key := ← fs.required? "key", value := ← fs.required? "value" }

end LunConsole
