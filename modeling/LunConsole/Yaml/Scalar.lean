import LunConsole.Text.Digits
import LunConsole.Yaml.Cursor
/-!
# Scalars of YAML

The three ways to write a text: plain, in quotes, and as a block of lines. Where a plain or quoted
text goes over several lines, the break between two of them becomes a space, and of several breaks
all but the first are kept. A block keeps its breaks (`|`) or folds them in the same way (`>`).
-/

set_option autoImplicit false

namespace LunConsole.Yaml

/-! ## 1. Gaps between words -/

/-- What stands between two words: blanks on one line, or a first line break and those after it.
Texts are kept in their order. -/
structure Gap where
  spaces : List Char
  first : List Char
  others : List Char
  crossesLine : Bool

namespace Gap

/-- No gap. -/
def none : Gap := ⟨[], [], [], false⟩

/-- What the gap contributes to the text. -/
def text (g : Gap) : List Char :=
  if g.crossesLine then
    match g.first with
    | '\n' :: _ => if g.others.isEmpty then [' '] else g.others
    | _ => g.first ++ g.others
  else g.spaces

/-- Reads a gap. Within a line that is not the first, a tab left of `margin` is refused. -/
def read (margin : Nat) : Nat → Gap → Cursor → Except Fault (Gap × Cursor)
  | 0, g, c => .ok (g, c)
  | fuel + 1, g, c =>
      if c.atSpace then
        if g.crossesLine then
          if c.sees '\t' && c.column < margin then .error .tabInIndentation
          else read margin fuel g c.skip
        else read margin fuel { g with spaces := g.spaces ++ c.rest.take 1 } c.skip
      else if c.atBreak then
        if g.crossesLine then
          read margin fuel { g with others := g.others ++ c.breakText } c.skipBreak
        else
          read margin fuel { g with spaces := [], first := c.breakText, crossesLine := true }
            c.skipBreak
      else .ok (g, c)

end Gap

/-! ## 2. Plain scalars -/

/-- Whether a plain scalar ends before the character that comes next. -/
def plainEnds (inFlow : Bool) (c : Cursor) : Bool :=
  match c.ahead 0 with
  | some ':' => c.gapAt 1
  | some x => inFlow && (x = ',' || x = '[' || x = ']' || x = '\x7b' || x = '\x7d')
  | none => true

/-- Reads a word of a plain scalar: characters up to a gap or the end of the scalar. -/
def plainWord (inFlow : Bool) : Nat → List Char → Cursor → Except Fault (List Char × Cursor)
  | 0, word, c => .ok (word.reverse, c)
  | fuel + 1, word, c =>
      match c.rest with
      | [] => .ok (word.reverse, c)
      | x :: s =>
          if isSpace x || isBreak x then .ok (word.reverse, c)
          else if inFlow && x = ':' && (s.head?.any fun y => ",?[]\x7b\x7d".toList.contains y) then
            .error .colonInPlainScalar
          else if plainEnds inFlow c then .ok (word.reverse, c)
          else plainWord inFlow fuel (x :: word) c.skip

/-- Reads the words of a plain scalar. The flag tells if the gap after the last word crosses a
line. -/
def plainWords (inFlow : Bool) (margin : Nat) :
    Nat → List Char → Gap → Cursor → Except Fault (List Char × Bool × Cursor)
  | 0, text, g, c => .ok (text, g.crossesLine, c)
  | fuel + 1, text, g, c =>
      if c.atDocumentMark || c.sees '#' then .ok (text, g.crossesLine, c)
      else do
        let (word, c) ← plainWord inFlow (c.rest.length + 1) [] c
        let (text, g) := if word.isEmpty then (text, g) else (text ++ g.text ++ word, Gap.none)
        if !(c.atSpace || c.atBreak) then return (text, g.crossesLine, c)
        let (g, c) ← Gap.read margin (c.rest.length + 1) g c
        if !inFlow && c.column < margin then return (text, g.crossesLine, c)
        plainWords inFlow margin fuel text g c

/-- Reads a plain scalar; `margin` is the column that its lines have to reach. -/
def plainScalar (inFlow : Bool) (margin : Nat) (c : Cursor) :
    Except Fault (List Char × Bool × Cursor) :=
  plainWords inFlow margin (c.rest.length + 1) [] Gap.none c

/-! ## 3. Quoted scalars -/

/-- What a one-letter escape stands for. -/
def escapeChar? : Char → Option Char
  | '0' => some '\x00'
  | 'a' => some '\x07'
  | 'b' => some '\x08'
  | 't' => some '\t'
  | '\t' => some '\t'
  | 'n' => some '\n'
  | 'v' => some '\x0b'
  | 'f' => some '\x0c'
  | 'r' => some '\r'
  | 'e' => some '\x1b'
  | ' ' => some ' '
  | '"' => some '"'
  | '/' => some '/'
  | '\\' => some '\\'
  | 'N' => some '\x85'
  | '_' => some '\xa0'
  | 'L' => some '\u2028'
  | 'P' => some '\u2029'
  | _ => none

/-- How many digits follow the letter of an escape by number. -/
def escapeDigits? : Char → Option Nat
  | 'x' => some 2
  | 'u' => some 4
  | 'U' => some 8
  | _ => none

/-- Reads an escape after its backslash. -/
def readEscape (c : Cursor) : Except Fault (Char × Cursor) :=
  match c.rest with
  | [] => .error .unknownEscape
  | x :: s =>
      match escapeChar? x, escapeDigits? x with
      | some y, _ => .ok (y, c.skip)
      | none, some k =>
          let digits := s.take k
          match if digits.length = k then Text.number? 16 digits else none with
          | some n =>
              if n.isValidChar then .ok (Char.ofNat n, c.skipMany (k + 1))
              else .error .malformedEscape
          | none => .error .malformedEscape
      | none, none => .error .unknownEscape

/-- Reads a word of a quoted scalar: characters up to a gap, the closing quote or the end. The
flag tells of a line break that was escaped, after which the gap contributes nothing by itself. -/
def quotedWord (single : Bool) :
    Nat → List Char → Cursor → Except Fault (List Char × Bool × Cursor)
  | 0, word, c => .ok (word.reverse, false, c)
  | fuel + 1, word, c =>
      match c.rest with
      | [] => .ok (word.reverse, false, c)
      | x :: s =>
          if isSpace x || isBreak x then .ok (word.reverse, false, c)
          else if single then
            if x = '\'' then
              if s.head? == some '\'' then quotedWord single fuel ('\'' :: word) (c.skipMany 2)
              else .ok (word.reverse, false, c)
            else quotedWord single fuel (x :: word) c.skip
          else if x = '"' then .ok (word.reverse, false, c)
          else if x = '\\' then
            if s.head?.any isBreak then .ok (word.reverse, true, c.skip.skipBreak)
            else do
              let (y, c) ← readEscape c.skip
              quotedWord single fuel (y :: word) c
          else quotedWord single fuel (x :: word) c.skip

/-- Reads the words of a quoted scalar up to its closing quote. -/
def quotedWords (single : Bool) :
    Nat → List Char → Cursor → Except Fault (List Char × Cursor)
  | 0, _, _ => .error .unclosedScalar
  | fuel + 1, text, c =>
      if c.atDocumentMark then .error .documentMarkInScalar
      else if c.atEnd then .error .unclosedScalar
      else do
        let (word, escaped, c) ← quotedWord single (c.rest.length + 1) [] c
        let text := text ++ word
        if c.sees (if single then '\'' else '"') then return (text, c.skip)
        let (g, c) ← Gap.read 0 (c.rest.length + 1) { Gap.none with crossesLine := escaped } c
        quotedWords single fuel (text ++ g.text) c

/-- Reads a quoted scalar after its opening quote. -/
def quotedScalar (single : Bool) (c : Cursor) : Except Fault (List Char × Cursor) :=
  quotedWords single (c.rest.length + 1) [] c

/-! ## 4. Block scalars -/

/-- What becomes of the line breaks at the end of a block. -/
inductive Chomping where
  | strip
  | clip
  | keep
  deriving DecidableEq, Repr

/-- The sign of a header. -/
def chompingOf? : Option Char → Option Chomping
  | some '+' => some .keep
  | some '-' => some .strip
  | _ => none

/-- The digit of a header, which must not be zero. -/
def incrementOf? (x : Option Char) : Except Fault (Option Nat) :=
  match x with
  | some d =>
      if d = '0' then .error .malformedBlockHeader
      else if d.isDigit then .ok (some (d.toNat - '0'.toNat))
      else .ok none
  | none => .ok none

/-- Reads the header of a block after its first character: a sign and a digit in either order. -/
def blockHeader (c : Cursor) : Except Fault (Chomping × Option Nat × Cursor) := do
  match chompingOf? (c.ahead 0) with
  | some chomping =>
      match ← incrementOf? (c.ahead 1) with
      | some k => return (chomping, some k, c.skipMany 2)
      | none => return (chomping, none, c.skip)
  | none =>
      match ← incrementOf? (c.ahead 0) with
      | some k =>
          match chompingOf? (c.ahead 1) with
          | some chomping => return (chomping, some k, c.skipMany 2)
          | none => return (.clip, some k, c.skip)
      | none => return (.clip, none, c)

/-- Reads empty lines and the indentation of the first line that is not empty. `indent` is none as
long as the indentation of the block is not known, `widest` the widest indentation so far. -/
def blockGap (indent : Option Nat) :
    Nat → Nat → List Char → Cursor → Except Fault (Nat × List Char × Cursor)
  | 0, widest, breaks, c => .ok (widest, breaks, c)
  | fuel + 1, widest, breaks, c =>
      let run := (c.rest.takeWhile (· = ' ')).length
      let c := c.skipMany <| match indent with
        | none => run
        | some n => min run (n - c.column)
      let widest := max widest c.column
      let inMargin := match indent with
        | none => true
        | some n => c.column < n
      if inMargin && c.sees '\t' then .error .tabInIndentation
      else if c.atBreak then
        blockGap indent fuel widest (breaks ++ c.breakText) c.skipBreak
      else .ok (widest, breaks, c)

/-- Reads the lines of a block. `lead` is the break before the line, `breaks` are those after it,
and `afterBlank` tells if the line before began with a blank. -/
def blockLines (literal : Bool) (indent : Nat) :
    Nat → List Char → List Char → List Char → Bool → Cursor →
      Except Fault (List Char × List Char × List Char × Cursor)
  | 0, text, lead, breaks, _, c => .ok (text, lead, breaks, c)
  | fuel + 1, text, lead, breaks, afterBlank, c =>
      if c.column != indent || c.atEnd then .ok (text, lead, breaks, c)
      else do
        let blank := c.atSpace
        let lead := if !literal && lead.head? == some '\n' && !afterBlank && !blank then
            if breaks.isEmpty then [' '] else []
          else lead
        let line := c.rest.takeWhile fun x => !isBreak x
        let c := c.skipMany line.length
        let (next, c) := (c.breakText, c.skipBreak)
        let text := text ++ lead ++ breaks ++ line
        let (_, breaks, c) ← blockGap (some indent) (c.rest.length + 1) 0 [] c
        blockLines literal indent fuel text next breaks blank c

/-- Reads a block scalar after its first character, inside a collection at column `parent`. -/
def blockScalar (literal : Bool) (parent : Int) (c : Cursor) :
    Except Fault (List Char × Cursor) := do
  let (chomping, increment, c) ← blockHeader c
  let c := c.skipWhile isSpace
  let c := if c.sees '#' then c.skipWhile fun x => !isBreak x else c
  if !c.atLineEnd then throw .malformedBlockHeader
  let c := c.skipBreak
  let stated := increment.map fun k => if 0 ≤ parent then parent.toNat + k else k
  let (widest, breaks, c) ← blockGap stated (c.rest.length + 1) 0 [] c
  let indent := stated.getD (max widest (max (parent + 1).toNat 1))
  let (text, lead, breaks, c) ←
    blockLines literal indent (c.rest.length + 1) [] [] breaks false c
  let tail := match chomping with
    | .strip => []
    | .clip => lead
    | .keep => lead ++ breaks
  return (text ++ tail, c)

end LunConsole.Yaml
