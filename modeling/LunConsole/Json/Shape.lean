import LunConsole.Wire
/-!
# Shapes of JSON values

A shape says which values are welcome. It judges whole values (`Shape.fits`) and also values of
which the text has broken off (`Shape.begins`). Of the latter, all parts but the last one are whole
and are judged as such, while the last one has broken off itself. So a beginning is unwelcome as
soon as something stands in it that no continuation can mend.
-/

set_option autoImplicit false

namespace LunConsole.Json

/-- Which values are welcome, and which beginnings of values. -/
structure Shape where
  fits : Json → Bool
  begins : Json → Bool

namespace Shape

/-- A value that ended before anything was wrong with it. -/
def isCut : Json → Bool
  | .broken f => f.isEnd
  | _ => false

/-! ## 1. Values without parts -/

/-- The values that satisfy a test; only arrays and objects have parts. -/
def plain (test : Json → Bool) : Shape := ⟨test, isCut⟩

/-- The values that are read as a type without parts. -/
def ofType (α : Type) [Wire α] : Shape := plain fun x => (decode? x : Option α).isSome

/-- One text. -/
def exactly (text : String) : Shape := plain fun x => x.text? == some text

/-- The whole numbers of 32 bits with a sign. -/
def int32 : Shape := plain fun
  | .number (.whole i) => Int32.minValue.toInt ≤ i && i ≤ Int32.maxValue.toInt
  | _ => false

/-- Any value that denotes something in all of its parts. -/
def any : Shape where
  fits x := x.fault?.isNone
  begins x := match x.fault? with
    | some f => f.isEnd
    | none => true

/-- A value that nobody looks at. -/
def ignored : Shape where
  fits x := !x.isBroken
  begins x := isCut x || !x.isBroken

/-! ## 2. Values with parts -/

/-- Judges the parts of a value that has broken off. -/
def beginsWith {α : Type} (fits begins : α → Bool) : List α → Bool
  | [] => true
  | [x] => begins x
  | x :: xs => fits x && beginsWith fits begins xs

/-- The same values, and null. -/
def orNull (s : Shape) : Shape where
  fits
    | .null => true
    | x => s.fits x
  begins := s.begins

/-- The arrays of such values. -/
def list (s : Shape) : Shape where
  fits
    | .array xs => xs.all s.fits
    | _ => false
  begins
    | .array xs => beginsWith s.fits s.begins xs
    | x => isCut x

/-- The objects in which the value of each member is welcome, as its key says. -/
def members (valueOf : String → Shape) : Shape where
  fits
    | .object ms => ms.all fun m => (valueOf m.1).fits m.2
    | _ => false
  begins
    | .object ms =>
        beginsWith (fun m => (valueOf m.1).fits m.2) (fun m => (valueOf m.1).begins m.2) ms
    | x => isCut x

/-- The objects in which all members have such values. -/
def map (s : Shape) : Shape := members fun _ => s

/-- The objects in which the known members have the values that they should; they may occur several
times or not at all, and other members are passed over. -/
def object (known : List (String × Shape)) : Shape :=
  members fun key => (known.lookup key).getD ignored

/-- Whether the keys of some fields occur at most once. -/
def onceEach (names : List String) (ms : List (String × Json)) : Bool :=
  ((ms.map Prod.fst).filter names.contains).Nodup

/-- Judges the beginning of the list of a record's fields. After the last field nothing but the end
of the list may follow. -/
def beginsFields : List Shape → List Json → Bool
  | _, [] => true
  | [], xs => match xs with
    | [.broken .endInArray] => true
    | _ => false
  | s :: _, [x] => s.begins x
  | s :: ss, x :: xs => s.fits x && beginsFields ss xs

/-- The records of a type; `other` judges the members that are no fields. -/
def recordWith (other : Shape) (α : Type) [Wire α] (fields : List (String × Shape)) : Shape where
  fits x := (readWhole? x : Option α).isSome
  begins
    | .object ms =>
        onceEach (fields.map Prod.fst) ms
          && (members fun key => (fields.lookup key).getD other).begins (.object ms)
    | .array xs => beginsFields (fields.map Prod.snd) xs
    | x => isCut x

/-- The records of a type, whose other members are passed over. -/
def record (α : Type) [Wire α] (fields : List (String × Shape)) : Shape :=
  recordWith ignored α fields

end Shape

end LunConsole.Json
