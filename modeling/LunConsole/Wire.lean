import LunConsole.Json.Basic
import Std.Data.ExtTreeMap
/-!
# Values as JSON

How the values that are exchanged with other programs are written as JSON and read back. Reading
is by shape: a wrong type, a missing field or a repeated one refuses the value as a whole, and
nothing is said about the cause.

A record is read from an object, whose unknown members are ignored, or from an array that lists
its fields in their order. A choice with fields names its case in one member of the object, the
tag.
-/

set_option autoImplicit false

namespace LunConsole

/-- A type whose values are exchanged as JSON. -/
class Wire (α : Type) where
  /-- The value as it is written. -/
  encode : α → Json
  /-- The value that is read; `none` if the shape is wrong. -/
  decode? : Json → Option α

export Wire (encode decode?)

/-! ## 1. Plain values -/

instance : Wire String := ⟨.string, Json.text?⟩

instance : Wire Bool := ⟨.bool, Json.bool?⟩

instance : Wire UInt64 := ⟨fun n => Json.ofNat n.toNat, Json.uint64?⟩

instance : Wire UInt16 := ⟨fun n => Json.ofNat n.toNat, Json.uint16?⟩

instance : Wire Int64 := ⟨fun n => .number (.whole n.toInt), Json.int64?⟩

/-- Any JSON is read as it stands. -/
instance : Wire Json := ⟨id, some⟩

instance {α : Type} [Wire α] : Wire (List α) where
  encode xs := .array (xs.map encode)
  decode? x := do (← x.items?).mapM decode?

/-- Texts by name, in the order of the names. -/
abbrev TextMap := Std.ExtTreeMap String String

/-- Reads the members of an object into a map; a later member of the same key overrides. -/
def TextMap.ofMembers? (ms : List (String × Json)) : Option TextMap :=
  ms.foldlM (fun (m : TextMap) (k, x) => return m.insert k (← x.text?)) ∅

instance : Wire TextMap where
  encode m := .object (m.toList.map fun (k, v) => (k, .string v))
  decode? x := do TextMap.ofMembers? (← x.members?)

/-! ## 2. Records -/

namespace Json

/-- The known fields of a record that a value mentions. -/
abbrev Fields := List (String × Json)

/-- The fields of a record. An object may mention each of them once, and other members besides.
An array lists the fields in their order; from the position `least` on the list may stop. -/
def record? (names : List String) (least : Nat) : Json → Option Fields
  | .object ms => do
      let known := (← (Json.object ms).members?).filter fun m => names.contains m.1
      if (known.map Prod.fst).Nodup then some known else none
  | .array xs =>
      if least ≤ xs.length ∧ xs.length ≤ names.length then some (names.zip xs) else none
  | _ => none

namespace Fields

variable {α : Type} [Wire α]

/-- A field that has to be there. -/
def required? (fs : Fields) (name : String) : Option α := do decode? (← fs.lookup name)

/-- A field with a value of its own where it is not mentioned. -/
def withDefault? (fs : Fields) (name : String) (fallback : α) : Option α :=
  match fs.lookup name with
  | none => some fallback
  | some x => decode? x

/-- A field that may be missing or null. -/
def optional? (fs : Fields) (name : String) : Option (Option α) :=
  match fs.lookup name with
  | none => some none
  | some .null => some none
  | some x => (decode? x).map some

end Fields

/-- A member that is always written. -/
def member {α : Type} [Wire α] (name : String) (x : α) : Fields := [(name, encode x)]

/-- A member that is written only if it has a value. -/
def memberIf {α : Type} [Wire α] (name : String) (x : Option α) : Fields :=
  match x with
  | some x => [(name, encode x)]
  | none => []

/-- A member that is written as null if it has no value. -/
def memberOrNull {α : Type} [Wire α] (name : String) (x : Option α) : Fields :=
  [(name, match x with | some x => encode x | none => .null)]

/-! ## 3. Choices -/

/-- The tag of a choice and what else was written with it. All of it has to denote something,
since all of it is taken in before the case is known. -/
def tagged? (tag : String) (x : Json) : Option (String × Json) :=
  if x.fault?.isSome then none
  else match x with
    | .object ms =>
        match ms.filter fun m => m.1 = tag with
        | [(_, .string kind)] => some (kind, .object (ms.filter fun m => m.1 ≠ tag))
        | _ => none
    | .array (.string kind :: xs) => some (kind, .array xs)
    | _ => none

/-- The tag of a choice within another choice, and what else was written with it. The outer choice
is taken in as a whole before anything is made of it, and then the case may also be given by its
place among the cases. -/
def innerTagged? (tag : String) (cases : List String) (x : Json) : Option (String × Json) :=
  let case? : Json → Option String
    | .string kind => some kind
    | .number (.whole i) => if 0 ≤ i then cases[i.toNat]? else none
    | _ => none
  match x with
  | .object ms =>
      match ms.filter fun m => m.1 = tag with
      | [(_, kind)] => do return (← case? kind, .object (ms.filter fun m => m.1 ≠ tag))
      | _ => none
  | .array (kind :: xs) => do return (← case? kind, .array xs)
  | _ => none

/-- The rest of a case without fields. -/
def noFields? : Json → Option Unit
  | .object _ => some ()
  | .array [] => some ()
  | _ => none

/-- The word of a choice whose cases have no fields; also the key of an object with the value
null. -/
def word? : Json → Option String
  | .string s => some s
  | .object [(s, .null)] => some s
  | _ => none

end Json

/-- Reads a value for use: no part of what is kept may denote nothing. -/
def readWhole? {α : Type} [Wire α] (x : Json) : Option α := do
  let value : α ← decode? x
  if (encode value).fault?.isSome then none else some value

end LunConsole
