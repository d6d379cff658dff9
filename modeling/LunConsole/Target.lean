import LunConsole.Text.Percent
/-!
# Targets of requests

A request names what it is about in a target: a path and, after a question mark, parameters. The
target is put together as text from parts that need not be fit for it. What is read back from the
text is what counts: a question mark or a number sign in a name ends the path early, and a
character that may not stand in a target makes the request impossible.
-/

set_option autoImplicit false

namespace LunConsole

/-- A path and what follows its question mark. -/
structure Target where
  path : String
  query : Option String
  deriving DecidableEq, Repr

namespace Target

/-! ## 1. Reading -/

/-- A character that is seen and is one byte long. -/
def isVisible (c : Char) : Bool := 0x21 ≤ c.toNat && c.toNat ≤ 0x7e

/-- A character of a path. -/
def isPathChar (c : Char) : Bool := isVisible c && c != '<' && c != '>' && c != '\x60'

/-- A character of the parameters. -/
def isQueryChar (c : Char) : Bool := isVisible c && c != '<' && c != '>' && c != '"'

/-- The most bytes that the text of a target may have. -/
def longest : Nat := 65534

/-- Reads a target. What follows a number sign is no part of it. -/
def read? (text : String) : Option Target :=
  let s := text.toList.takeWhile (· != '#')
  let path := s.takeWhile (· != '?')
  let query := s.drop path.length
  if text.utf8ByteSize ≤ longest ∧ path.all isPathChar ∧ query.all isQueryChar then
    some ⟨String.ofList path, if query.isEmpty then none else some (String.ofList query.tail)⟩
  else none

/-! ## 2. Parameters -/

/-- A digit below sixteen, as it is written in an escape. -/
def escapeDigit (n : Nat) : Char :=
  if n < 10 then Char.ofNat ('0'.toNat + n) else Char.ofNat ('A'.toNat + n - 10)

/-- A byte of a parameter as it is written. -/
def encodeByte (b : UInt8) : List Char :=
  let c := Char.ofNat b.toNat
  if c.isAlphanum || c = '*' || c = '-' || c = '.' || c = '_' then [c]
  else if c = ' ' then ['+']
  else ['%', escapeDigit (b.toNat / 16), escapeDigit (b.toNat % 16)]

/-- A text as it is written in a parameter. -/
def encodeText (s : String) : String := String.ofList (s.toUTF8.toList.flatMap encodeByte)

/-- The text that was written in a parameter; bytes that are no text are left as they are
written. -/
def decodeText (s : String) : String :=
  (Text.percentDecode? (s.map fun c => if c = '+' then ' ' else c)).getD s

/-- The text of a target with parameters. -/
def write (path : String) (parameters : List (String × String)) : String :=
  path ++ "?" ++ String.join (parameters.map fun (name, value) =>
    "&" ++ encodeText name ++ "=" ++ encodeText value)

/-- The value of the first parameter of that name. -/
def parameter? (t : Target) (name : String) : Option String := do
  let pairs := ((← t.query).splitOn "&").map fun pair =>
    match pair.splitOn "=" with
    | [] => ("", "")
    | key :: value => (decodeText key, decodeText ("=".intercalate value))
  pairs.lookup name

end Target

end LunConsole
