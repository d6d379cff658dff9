import LunConsole.Yaml.Fault
/-!
# A place in a YAML text

A cursor is what is left of a text together with where it stands: the line, the column and the
number of bytes before it. Columns count characters, and it is columns that layout compares; only
the length of a key is measured in bytes. Layout carries meaning in this format, so every reader of
a piece of text moves a cursor.
-/

set_option autoImplicit false

namespace LunConsole.Yaml

/-! ## 1. Characters -/

/-- A character that a text may contain. -/
def isPrintable (c : Char) : Bool :=
  let n := c.toNat
  n = 0x09 || n = 0x0A || n = 0x0D || (0x20 ≤ n && n ≤ 0x7E) || n = 0x85
    || (0xA0 ≤ n && n ≤ 0xD7FF) || (0xE000 ≤ n && n ≤ 0xFFFD) || 0x10000 ≤ n

/-- A character that ends a line. -/
def isBreak (c : Char) : Bool :=
  c = '\n' || c = '\r' || c = '\x85' || c = '\u2028' || c = '\u2029'

/-- A space or a tab. -/
def isSpace (c : Char) : Bool := c = ' ' || c = '\t'

/-- A character of a name. -/
def isWordChar (c : Char) : Bool := c.isAlphanum || c = '_' || c = '-'

/-! ## 2. The cursor -/

/-- What is left of a text, and where it stands. -/
structure Cursor where
  rest : List Char
  line : Nat
  column : Nat
  /-- The bytes of UTF-8 before it. -/
  index : Nat
  deriving Repr

namespace Cursor

/-- The beginning of a text. -/
def start (text : List Char) : Cursor := ⟨text, 0, 0, 0⟩

/-- The character so many places ahead. -/
def ahead (c : Cursor) (k : Nat) : Option Char := c.rest[k]?

/-- Whether the text is at its end. -/
def atEnd (c : Cursor) : Bool := c.rest.isEmpty

/-- Whether that character comes next. -/
def sees (c : Cursor) (x : Char) : Bool := c.ahead 0 == some x

/-- Whether the character so many places ahead satisfies a test; the end of the text does. -/
def endOr (c : Cursor) (k : Nat) (p : Char → Bool) : Bool :=
  match c.ahead k with
  | some x => p x
  | none => true

/-- A line break or the end comes next. -/
def atLineEnd (c : Cursor) : Bool := c.endOr 0 isBreak

/-- A blank, a line break or the end stands so many places ahead. -/
def gapAt (c : Cursor) (k : Nat) : Bool := c.endOr k fun x => isSpace x || isBreak x

/-- A blank comes next. -/
def atSpace (c : Cursor) : Bool := (c.ahead 0).any isSpace

/-- A line break comes next. -/
def atBreak (c : Cursor) : Bool := (c.ahead 0).any isBreak

/-- The bytes of a text. -/
def byteLength (s : List Char) : Nat := s.foldl (fun n c => n + c.utf8Size) 0

/-- Moves past several characters within a line. -/
def skipMany (c : Cursor) (k : Nat) : Cursor :=
  ⟨c.rest.drop k, c.line, c.column + k, c.index + byteLength (c.rest.take k)⟩

/-- Moves past a character within a line. -/
def skip (c : Cursor) : Cursor := c.skipMany 1

/-- The text of the line break that comes next: two of the five kinds are kept as they are, the
others become a line feed. -/
def breakText (c : Cursor) : List Char :=
  match c.ahead 0 with
  | some '\u2028' => ['\u2028']
  | some '\u2029' => ['\u2029']
  | some x => if isBreak x then ['\n'] else []
  | none => []

/-- Moves past the line break that comes next, if one does. -/
def skipBreak (c : Cursor) : Cursor :=
  match c.rest with
  | '\r' :: '\n' :: s => ⟨s, c.line + 1, 0, c.index + 2⟩
  | x :: s => if isBreak x then ⟨s, c.line + 1, 0, c.index + x.utf8Size⟩ else c
  | [] => c

/-- Moves past all characters of a line that satisfy a test. -/
def skipWhile (c : Cursor) (p : Char → Bool) : Cursor := c.skipMany (c.rest.takeWhile p).length

/-- A mark between documents comes next: at the beginning of a line three times that character
and then a gap. -/
def atMark (c : Cursor) (x : Char) : Bool :=
  c.column = 0 && c.rest.take 3 == [x, x, x] && c.gapAt 3

/-- A mark between documents of either kind comes next. -/
def atDocumentMark (c : Cursor) : Bool := c.atMark '-' || c.atMark '.'

end Cursor

end LunConsole.Yaml
