import LunConsole.Yaml.Document
/-!
# Values of a YAML document

What the nodes of a document denote for a reader that knows what to expect. Text may be any scalar.
A number must be a plain one, in decimal or with one of the marks `0x`, `0o` and `0b`. A record is a
mapping from names to values; names that the reader does not know are passed over, and each that it
knows comes at most once.
-/

set_option autoImplicit false

namespace LunConsole.Yaml

/-! ## 1. Whole numbers -/

/-- Digits after a zero are a text and no number. -/
def hasLeadingZero (s : List Char) : Bool :=
  match s with
  | '0' :: _ :: _ => s.all Char.isDigit
  | _ => false

/-- The whole number that a scalar writes. -/
def wholeNumber? (s : List Char) : Option UInt64 :=
  let s := if s.head? == some '+' then s.tail else s
  let marked : Option UInt64 := match s with
    | '0' :: 'x' :: s => Text.word? 16 s
    | '0' :: 'o' :: s => Text.word? 8 s
    | '0' :: 'b' :: s => Text.word? 2 s
    | _ => none
  marked <|> if hasLeadingZero s then none else Text.word? 10 s

/-! ## 2. Values of nodes -/

namespace Document

/-- The node itself, or what it stands for. -/
def follow (d : Document) : Node → Node
  | .alias number => d.target number
  | n => n

/-- The text of a scalar. -/
def text? (d : Document) (n : Node) : Except Fault String :=
  match d.follow n with
  | .scalar text _ _ => .ok (String.ofList text)
  | _ => .error .unexpectedShape

/-- The tag of whole numbers. -/
def wholeNumberTag : List Char := "tag:yaml.org,2002:int".toList

/-- The number of a scalar: a plain one, or a literal block that is tagged as a number. -/
def count? (d : Document) (n : Node) : Except Fault UInt64 :=
  match d.follow n with
  | .scalar text style tag =>
      let mayBeNumber := style == .plain || (style == .literal && tag == some wholeNumberTag)
      match if mayBeNumber then wholeNumber? text else none with
      | some n => .ok n
      | none => .error .unexpectedShape
  | _ => .error .unexpectedShape

/-- The pairs of a mapping by the texts of their keys; an empty scalar is a mapping without
pairs. -/
def pairs? (d : Document) (n : Node) : Except Fault (List (String × Node)) :=
  match d.follow n with
  | .mapping pairs _ => pairs.mapM fun (key, value) => do return (← d.text? key, value)
  | .scalar [] .plain _ => .ok []
  | _ => .error .unexpectedShape

end Document

/-! ## 3. Records -/

/-- The known names of a mapping with what they are given. -/
abbrev Entries := List (String × Node)

/-- The entries of those names in a mapping, each at most once. -/
def Document.entries? (d : Document) (names : List String) (n : Node) : Except Fault Entries := do
  let known := (← d.pairs? n).filter fun p => names.contains p.1
  if (known.map Prod.fst).eraseDups.length = known.length then return known
  else throw .repeatedEntry

namespace Entries

/-- Reads an entry that must be there. -/
def required {α : Type} (es : Entries) (name : String) (read : Node → Except Fault α) :
    Except Fault α :=
  match es.lookup name with
  | some n => read n
  | none => .error .missingEntry

/-- Reads an entry that may be left out. -/
def orStandard {α : Type} (es : Entries) (name : String) (standard : α)
    (read : Node → Except Fault α) : Except Fault α :=
  match es.lookup name with
  | some n => read n
  | none => .ok standard

end Entries

end LunConsole.Yaml
