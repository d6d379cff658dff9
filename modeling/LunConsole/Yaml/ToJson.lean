import LunConsole.Json.Basic
import LunConsole.Yaml.Value
/-!
# Documents as JSON

What a document denotes for a reader that expects nothing in particular: a JSON value. A plain
scalar is nothing, a truth value, a number or else a text; other scalars are texts. A tag of the
standard may ask for one of these, while a local tag names something that JSON does not have. A key
is the text of a scalar, whatever that scalar would denote as a value, and where a key is repeated
the last pair counts.

An alias stands for a node that is read again each time, so a short text may denote a value of any
size. Two limits make the reading end early: one on nesting, one on how often aliases are followed.
-/

set_option autoImplicit false

namespace LunConsole.Yaml

/-! ## 1. Scalars -/

/-- Whether a plain scalar is nothing. -/
def isNull (s : List Char) : Bool := ["", "~", "null", "Null", "NULL"].contains (String.ofList s)

/-- The truth value of a plain scalar. -/
def truth? (s : List Char) : Option Bool :=
  if ["true", "True", "TRUE"].contains (String.ofList s) then some true
  else if ["false", "False", "FALSE"].contains (String.ofList s) then some false
  else none

/-- A scalar without its sign, and whether that is a minus. -/
def splitSign (s : List Char) : Bool × List Char :=
  match s with
  | '-' :: s => (true, s)
  | '+' :: s => (false, s)
  | s => (false, s)

/-- The whole number of a plain scalar, of any size. -/
def integer? (s : List Char) : Option Int :=
  let (negative, s) := splitSign s
  let magnitude? : Option Nat := match s with
    | '0' :: 'x' :: s => Text.number? 16 s
    | '0' :: 'o' :: s => Text.number? 8 s
    | '0' :: 'b' :: s => Text.number? 2 s
    | s => if hasLeadingZero s then none else Text.number? 10 s
  magnitude?.map fun n => if negative then -n else n

/-- The value of a whole number: it has at most 64 bits. Up to 128 bits it is refused, and beyond
it is no whole number any more. -/
def boundedInteger? (n : Int) : Except Fault (Option Json) :=
  if -(Nat.pow 2 63) ≤ n ∧ n < Nat.pow 2 64 then .ok (some (.number (.whole n)))
  else if -(Nat.pow 2 127) ≤ n ∧ n < Nat.pow 2 128 then .error .unexpectedShape
  else .ok none

/-- Digits with perhaps a point and an exponent, as the digits without the point and the power of
ten that goes with them. -/
def decimal? (s : List Char) : Option (Nat × Int) := do
  let whole := s.takeWhile Char.isDigit
  let s := s.dropWhile Char.isDigit
  let (fraction, s) := match s with
    | '.' :: s => (s.takeWhile Char.isDigit, s.dropWhile Char.isDigit)
    | s => ([], s)
  let digits ← Text.number? 10 (whole ++ fraction)
  match s with
  | [] => return (digits, -fraction.length)
  | e :: s =>
      if !(e = 'e' || e = 'E') then none
      let (negative, s) := splitSign s
      let n : Int ← Text.number? 10 s
      return (digits, (if negative then -n else n) - fraction.length)

/-- The value of a number with a fraction or an exponent: the nearest float. What is infinite or no
number is nothing in JSON; `none` means that the scalar is no such number, or too large a one. -/
def real? (s : List Char) : Option Json := do
  let (negative, unsigned) := splitSign s
  if [".inf", ".Inf", ".INF"].contains (String.ofList unsigned)
      || [".nan", ".NaN", ".NAN"].contains (String.ofList s) then
    return .null
  let (digits, exponent) ← decimal? unsigned
  return .number (.real (← Decimal.Binary64.nearest? negative digits exponent))

/-- The value of a plain scalar. -/
def plainValue (s : List Char) : Except Fault Json := do
  if isNull s then return .null
  if let some b := truth? s then return .bool b
  let whole ← match integer? s with
    | some n => boundedInteger? n
    | none => pure none
  let number := whole <|> if hasLeadingZero (splitSign s).2 then none else real? s
  return number.getD (.string (String.ofList s))

/-- The value of a scalar. -/
def scalarValue (s : List Char) (style : Style) (tag : Option (List Char)) : Except Fault Json := do
  let text : Json := .string (String.ofList s)
  let demand (v : Option Json) : Except Fault Json :=
    match v with
    | some v => .ok v
    | none => .error .unexpectedShape
  match tag.map String.ofList with
  | none => if style == .plain then plainValue s else return text
  | some "tag:yaml.org,2002:bool" => demand ((truth? s).map .bool)
  | some "tag:yaml.org,2002:int" =>
      match integer? s with
      | some n => do demand (← boundedInteger? n)
      | none => .error .unexpectedShape
  | some "tag:yaml.org,2002:float" => demand (real? s)
  | some "tag:yaml.org,2002:null" =>
      demand (if isNull s && !s.isEmpty then some .null else none)
  | some _ => return text

/-! ## 2. Nodes -/

namespace Node

/-- The tag of a node. -/
def tag? : Node → Option (List Char)
  | .scalar _ _ tag | .sequence _ tag | .mapping _ tag => tag
  | .alias _ => none

/-- Whether a node carries a local tag. -/
def isLocal (n : Node) : Bool := n.tag?.any fun tag => tag.head? == some '!'

mutual

/-- The length of a node's description as a series of events: collections begin and end. -/
def eventCount : Node → Nat
  | .scalar .. => 1
  | .alias _ => 1
  | .sequence items _ => eventsOfItems items + 2
  | .mapping pairs _ => eventsOfPairs pairs + 2

/-- The events of items. -/
def eventsOfItems : List Node → Nat
  | [] => 0
  | n :: ns => eventCount n + eventsOfItems ns

/-- The events of pairs. -/
def eventsOfPairs : List (Node × Node) → Nat
  | [] => 0
  | (k, v) :: ps => eventCount k + eventCount v + eventsOfPairs ps

end

end Node

/-- A step of a conversion, which counts how often an alias has been followed. -/
abbrev Conversion := StateT Nat (Except Fault)

/-- How often aliases may be followed for each event of the document. -/
def repetitions : Nat := 100

/-- The deepest nesting of a value. -/
def deepest : Nat := 128

namespace Document

/-- The node itself, or what it stands for. -/
def resolve (d : Document) (n : Node) : Conversion Node := do
  match n with
  | .alias number =>
      let followed := (← get) + 1
      if repetitions * d.root.eventCount < followed then throw .tooManyAliases
      set followed
      return d.target number
  | n => return n

/-- The text of a key. -/
def key (d : Document) (n : Node) : Conversion String := do
  match ← d.resolve n with
  | .scalar text _ _ => return String.ofList text
  | _ => throw .unexpectedShape

/-- The value of a node in which nothing is nested deeper than a depth. -/
def value (d : Document) : Nat → Node → Conversion Json
  | 0, n => do
      let n ← d.resolve n
      if n.isLocal then throw .unexpectedShape
      match n with
      | .scalar s style tag => scalarValue s style tag
      | _ => throw .tooDeep
  | depth + 1, n => do
      let n ← d.resolve n
      if n.isLocal then throw .unexpectedShape
      match n with
      | .scalar s style tag => scalarValue s style tag
      | .sequence items _ => return .array (← items.mapM (d.value depth))
      | .mapping pairs _ =>
          return .object <| ← pairs.mapM fun (k, v) => do
            let name ← d.key k
            return (name, ← d.value depth v)
      | .alias _ => return .null

end Document

/-- The JSON value of a text. -/
def toJson (text : String) : Except Fault Json := do
  match ← Document.read text with
  | some d => (d.value deepest d.root).run' 0
  | none => return .null

end LunConsole.Yaml
