/-!
# Media types

The type of a body as a header states it: `type/subtype`, where the subtype may end in a suffix
after a plus sign, followed by parameters.
-/

set_option autoImplicit false

namespace LunConsole

/-- A media type in lower case, its parameters left out. -/
structure MediaType where
  type : String
  subtype : String
  suffix : Option String
  deriving DecidableEq, Repr

namespace MediaType

/-- A character of a token. -/
def isTokenChar (c : Char) : Bool :=
  c.isAlphanum || "!#$%&'*+-.^_|~".toList.contains c || c = '\x60'

/-- A character that may stand between the quotes of a parameter. As a header is text only if it
is ASCII, so is this. -/
def isQuotedChar (c : Char) : Bool := 0x20 ≤ c.toNat && c.toNat < 0x7f

/-- What follows the closing quote of a text in quotes. The first character is part of the text,
even if it is a quote, so that the text is never empty. -/
def afterQuoted? : List Char → Option (List Char)
  | [] => none
  | c :: s =>
      let value := c :: s.takeWhile (· != '"')
      match s.drop (value.length - 1) with
      | '"' :: rest => if value.all isQuotedChar then some rest else none
      | _ => none

/-- The parameters are well formed. Each is `name=value` with a token or a text in quotes; a
semicolon stands between two of them, with spaces after it. Each parameter takes at least one
character, so the length of the text is fuel enough. -/
def parametersOk : Nat → List Char → Bool
  | 0, s => s.isEmpty
  | fuel + 1, s =>
      match s.dropWhile (· = ' ') with
      | [] => true
      | s =>
          let name := s.takeWhile isTokenChar
          if name.isEmpty then false
          else
            match s.drop name.length with
            | '=' :: '"' :: s =>
                match afterQuoted? s with
                | none => false
                | some s =>
                    match s.dropWhile (· = ' ') with
                    | [] => true
                    | ';' :: s => parametersOk fuel s
                    | _ => false
            | '=' :: s =>
                let value := s.takeWhile isTokenChar
                match s.drop value.length with
                | [] => true
                | ';' :: s => !value.isEmpty && parametersOk fuel s
                | _ => false
            | _ => false

/-- Splits a subtype at its last plus sign, the first character aside. -/
def splitSuffix (s : List Char) : List Char × Option (List Char) :=
  let suffix := (s.drop 1).reverse.takeWhile (· != '+')
  if suffix.length < (s.drop 1).length then
    (s.take (s.length - suffix.length - 1), some suffix.reverse)
  else (s, none)

/-- Reads a media type. -/
def parse? (text : String) : Option MediaType := do
  let s := text.toList.map Char.toLower
  let type := s.takeWhile isTokenChar
  if type.isEmpty then none
  let '/' :: s := s.drop type.length | none
  let sub := s.takeWhile isTokenChar
  if sub.isEmpty then none
  let wellFormed := match s.drop sub.length with
    | [] => true
    | ';' :: s => parametersOk (s.length + 1) s
    | _ => false
  if !wellFormed then none
  let (subtype, suffix) := splitSuffix sub
  return ⟨String.ofList type, String.ofList subtype, suffix.map String.ofList⟩

/-- Whether a body of this type is JSON. -/
def isJson (m : MediaType) : Bool :=
  m.type == "application" && (m.subtype == "json" || m.suffix == some "json")

end MediaType

end LunConsole
