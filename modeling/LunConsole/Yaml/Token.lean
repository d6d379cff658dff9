import LunConsole.Yaml.Scalar
/-!
# Tokens of YAML

The words of a YAML text. Some of them are not written: a collection in block layout begins where a
line is indented further than the collection around it and ends where a line is indented less, and
a mapping key is known to be one only when its colon comes. So the reader remembers the columns of
the open collections and the place at which a key may have begun, and puts the tokens of the
collection and of the key in at that place.
-/

set_option autoImplicit false

namespace LunConsole.Yaml

/-! ## 1. Tokens -/

/-- How a scalar is written. -/
inductive Style where
  | plain
  | singleQuoted
  | doubleQuoted
  | literal
  | folded
  deriving DecidableEq, Repr

/-- A tag as it is written: a handle, which stands for the beginning of a name, and the rest. A tag
in full has no handle. -/
structure TagName where
  handle : List Char
  suffix : List Char
  deriving DecidableEq, Repr

/-- The tokens of a text. -/
inductive Token where
  | versionDirective (major minor : Nat)
  | tagDirective (handle : List Char) (stem : List Char)
  | documentStart
  | documentEnd
  | blockSequenceStart
  | blockMappingStart
  | blockEnd
  | flowSequenceStart
  | flowSequenceEnd
  | flowMappingStart
  | flowMappingEnd
  | blockEntry
  | flowEntry
  | key
  | value
  | alias (name : List Char)
  | anchor (name : List Char)
  | tag (name : TagName)
  | scalar (text : List Char) (style : Style)
  deriving DecidableEq, Repr

/-! ## 2. Anchors, tags and directives -/

/-- Reads the name of an anchor or an alias after its sign. -/
def readAnchor (c : Cursor) : Except Fault (List Char × Cursor) :=
  let name := c.rest.takeWhile isWordChar
  let c := c.skipMany name.length
  let ends := c.gapAt 0 || (c.ahead 0).any fun x => "?:,]\x7d%@\x60".toList.contains x
  if name.isEmpty || !ends then .error .malformedAnchor else .ok (name, c)

/-- The number of bytes of a character, told by its first byte. -/
def byteCount? (first : Nat) : Option Nat :=
  if first < 0x80 then some 1
  else if 0xC0 ≤ first ∧ first < 0xE0 then some 2
  else if 0xE0 ≤ first ∧ first < 0xF0 then some 3
  else if 0xF0 ≤ first ∧ first < 0xF8 then some 4
  else none

/-- Reads the byte that a percent sign and two digits write. -/
def readEscapedByte? (s : List Char) : Option (Nat × List Char) :=
  match s with
  | '%' :: a :: b :: s => (Text.number? 16 [a, b]).map fun n => (n, s)
  | _ => none

/-- Reads the later bytes of a character. -/
def readLaterBytes? : Nat → Nat → List Char → Option (Nat × List Char)
  | 0, n, s => some (n, s)
  | k + 1, n, s => do
      let (byte, s) ← readEscapedByte? s
      if 0x80 ≤ byte ∧ byte < 0xC0 then readLaterBytes? k (64 * n + (byte - 0x80)) s else none

/-- Reads a character that is written byte by byte. Bytes that are no character are kept as a
replacement character. -/
def readEscapedChar? (s : List Char) : Option (Char × Nat) := do
  let (first, s) ← readEscapedByte? s
  let count ← byteCount? first
  let low := if count = 1 then first else first % Nat.pow 2 (7 - count)
  let (n, _) ← readLaterBytes? (count - 1) low s
  let isWhole := count = 1 || (0x80 ≤ n && n.isValidChar)
  return (if isWhole then Char.ofNat n else '\ufffd', 3 * count)

/-- A character of a tag. The comma and the brackets belong to tags in full only. -/
def isTagChar (full : Bool) (x : Char) : Bool :=
  isWordChar x || ";/?:@&=+$.%!~*'()".toList.contains x || (full && ",[]".toList.contains x)

/-- Reads the characters of a tag. -/
def readTagChars (full : Bool) :
    Nat → List Char → Cursor → Except Fault (List Char × Cursor)
  | 0, name, c => .ok (name.reverse, c)
  | fuel + 1, name, c =>
      match c.rest with
      | '%' :: _ =>
          match readEscapedChar? c.rest with
          | some (x, k) => readTagChars full fuel (x :: name) (c.skipMany k)
          | none => .error .malformedTag
      | x :: _ =>
          if isTagChar full x then readTagChars full fuel (x :: name) c.skip
          else .ok (name.reverse, c)
      | [] => .ok (name.reverse, c)

/-- Reads the handle of a tag as far as it is one: a first `!`, a word and perhaps another `!`. -/
def readHandle (c : Cursor) : List Char × Cursor :=
  let word := (c.rest.drop 1).takeWhile isWordChar
  let c' := c.skipMany (word.length + 1)
  if c'.sees '!' then (('!' :: word) ++ ['!'], c'.skip) else ('!' :: word, c')

/-- Whether a handle is one of its own and not the beginning of a local tag. -/
def isNamedHandle (handle : List Char) : Bool := 1 < handle.length && handle.getLast? == some '!'

/-- Reads the three ways to write a tag: in full between angle brackets, by a handle, or local. -/
def readTagName (c : Cursor) : Except Fault (TagName × Cursor) :=
  if c.ahead 1 == some '<' then do
    let c := c.skipMany 2
    let (name, c) ← readTagChars true (c.rest.length + 1) [] c
    if name.isEmpty || !c.sees '>' then .error .malformedTag
    else return (⟨[], name⟩, c.skip)
  else
    let (handle, c) := readHandle c
    if isNamedHandle handle then do
      let (suffix, c) ← readTagChars false (c.rest.length + 1) [] c
      if suffix.isEmpty then .error .malformedTag else return (⟨handle, suffix⟩, c)
    else do
      let (suffix, c) ← readTagChars false (c.rest.length + 1) handle.tail.reverse c
      return (if suffix.isEmpty then ⟨[], ['!']⟩ else ⟨['!'], suffix⟩, c)

/-- Reads a tag, which a gap follows, or a comma within brackets. -/
def readTag (inFlow : Bool) (c : Cursor) : Except Fault (TagName × Cursor) := do
  let (name, c) ← readTagName c
  if c.gapAt 0 || (inFlow && c.sees ',') then return (name, c) else throw .malformedTag

/-- Reads one of the two numbers of a version, of at most nine digits. -/
def readVersionNumber (c : Cursor) : Except Fault (Nat × Cursor) :=
  let digits := c.rest.takeWhile Char.isDigit
  if digits.isEmpty || 9 < digits.length then .error .malformedDirective
  else .ok ((Text.number? 10 digits).getD 0, c.skipMany digits.length)

/-- Reads the two numbers of a version. -/
def readVersion (c : Cursor) : Except Fault (Token × Cursor) := do
  let (major, c) ← readVersionNumber (c.skipWhile isSpace)
  if !c.sees '.' then throw .malformedDirective
  let (minor, c) ← readVersionNumber c.skip
  return (.versionDirective major minor, c)

/-- Reads what a handle stands for. -/
def readTagDefinition (c : Cursor) : Except Fault (Token × Cursor) := do
  let c := c.skipWhile isSpace
  if !c.sees '!' then throw .malformedDirective
  let (handle, c) := readHandle c
  if !(handle == ['!'] || isNamedHandle handle) || !c.atSpace then throw .malformedDirective
  let c := c.skipWhile isSpace
  let (stem, c) ← readTagChars true (c.rest.length + 1) [] c
  if stem.isEmpty || !c.gapAt 0 then throw .malformedDirective
  return (.tagDirective handle stem, c)

/-- Reads a directive after its percent sign, to the end of its line. -/
def readDirective (c : Cursor) : Except Fault (Token × Cursor) := do
  let name := c.rest.takeWhile isWordChar
  let c := c.skipMany name.length
  if name.isEmpty || !c.gapAt 0 then throw .malformedDirective
  let (token, c) ←
    if name == "YAML".toList then readVersion c
    else if name == "TAG".toList then readTagDefinition c
    else throw .unknownDirective
  let c := c.skipWhile isSpace
  let c := if c.sees '#' then c.skipWhile fun x => !isBreak x else c
  if !c.atLineEnd then throw .malformedDirective
  return (token, c.skipBreak)

/-! ## 3. The state between two tokens -/

/-- The place at which a mapping key may have begun. -/
structure PossibleKey where
  /-- How many tokens stand before it. -/
  place : Nat
  line : Nat
  column : Nat
  index : Nat
  /-- Whether anything else than a key would be a fault there. -/
  required : Bool
  deriving DecidableEq, Repr

/-- How far a text is read. -/
structure Lexer where
  cursor : Cursor
  /-- The tokens so far, the last one first. -/
  tokens : List Token
  /-- How many they are. -/
  count : Nat
  /-- The column of the innermost block collection, −1 outside of all. -/
  indent : Int
  /-- The columns of the block collections around it, from the inside out. -/
  indents : List Int
  /-- The key that may have begun at the innermost level of brackets. -/
  key : Option PossibleKey
  /-- The same for each level around it, from the inside out. -/
  outerKeys : List (Option PossibleKey)
  /-- Whether a key may begin here. -/
  keyAllowed : Bool

namespace Lexer

/-- Before the first token. -/
def start (text : List Char) : Lexer := ⟨Cursor.start text, [], 0, -1, [], none, [], true⟩

/-- Within brackets layout has no meaning. -/
def inFlow (l : Lexer) : Bool := !l.outerKeys.isEmpty

/-- Adds a token. -/
def emit (l : Lexer) (t : Token) : Lexer := { l with tokens := t :: l.tokens, count := l.count + 1 }

/-- Adds a token behind the first `place` ones. -/
def emitAt (l : Lexer) (place : Nat) (t : Token) : Lexer :=
  let late := l.count - place
  { l with tokens := l.tokens.take late ++ t :: l.tokens.drop late, count := l.count + 1 }

/-- Ends the block collections that stand right of a column. -/
def dedent (column : Int) : List Int → Lexer → Lexer
  | [], l => l
  | outer :: indents, l =>
      if column < l.indent then
        dedent column indents { l.emit .blockEnd with indent := outer, indents := indents }
      else l

/-- Ends the block collections that stand right of a column, unless within brackets. -/
def dedentTo (l : Lexer) (column : Int) : Lexer :=
  if l.inFlow then l else dedent column l.indents l

/-- Begins a block collection at a column if it is right of the collection around, unless within
brackets. -/
def indentTo (l : Lexer) (column place : Nat) (t : Token) : Lexer :=
  if !l.inFlow && l.indent < column then
    { l.emitAt place t with indent := column, indents := l.indent :: l.indents }
  else l

/-- Gives up the key that may have begun. -/
def dropKey (l : Lexer) : Except Fault Lexer :=
  if l.key.any (·.required) then .error .missingColon else .ok { l with key := none }

/-- Notes that a key may begin here. -/
def noteKey (l : Lexer) : Except Fault Lexer :=
  if l.keyAllowed then do
    let l ← l.dropKey
    let c := l.cursor
    return { l with key := some {
      place := l.count, line := c.line, column := c.column, index := c.index
      required := !l.inFlow && l.indent == (c.column : Int) } }
  else .ok l

/-- Whether a key that began there can no longer get its colon: a key stays on one line and is not
longer than 1024 bytes. -/
def hasExpired (l : Lexer) (k : PossibleKey) : Bool :=
  k.line < l.cursor.line || k.index + 1024 < l.cursor.index

/-- Gives up the keys that can no longer get a colon. -/
def expireKeys (l : Lexer) : Except Fault Lexer :=
  if (l.key :: l.outerKeys).any fun k => k.any fun k => k.required && l.hasExpired k then
    .error .missingColon
  else
    let keep (k : Option PossibleKey) : Option PossibleKey := k.filter fun k => !l.hasExpired k
    .ok { l with key := keep l.key, outerKeys := l.outerKeys.map keep }

/-- Moves past blanks, comments and line breaks. A mark of the byte order at the beginning of a
line is a blank that takes a column. Where a key may begin, a tab is no blank. A line break allows
a key, unless within brackets. -/
def skipGap : Nat → Lexer → Lexer
  | 0, l => l
  | fuel + 1, l =>
      let tabs := l.inFlow || !l.keyAllowed
      let c := if l.cursor.column = 0 && l.cursor.sees '\ufeff' then l.cursor.skip else l.cursor
      let c := c.skipWhile fun x => x = ' ' || (tabs && x = '\t')
      let c := if c.sees '#' then c.skipWhile fun x => !isBreak x else c
      if c.atBreak then
        skipGap fuel { l with cursor := c.skipBreak, keyAllowed := l.keyAllowed || !l.inFlow }
      else { l with cursor := c }

/-! ## 4. One token -/

/-- Adds a token that is written with one character. -/
def emitChar (l : Lexer) (t : Token) : Lexer := { l.emit t with cursor := l.cursor.skip }

/-- A directive ends all block collections. -/
def directive (l : Lexer) : Except Fault Lexer := do
  let l ← (l.dedentTo (-1)).dropKey
  let (token, c) ← readDirective l.cursor.skip
  return { l.emit token with cursor := c, keyAllowed := false }

/-- A mark between documents ends all block collections. -/
def documentMark (l : Lexer) (t : Token) : Except Fault Lexer := do
  let l ← (l.dedentTo (-1)).dropKey
  return { l.emit t with cursor := l.cursor.skipMany 3, keyAllowed := false }

/-- An opening bracket, which may itself begin a key. -/
def openBracket (l : Lexer) (t : Token) : Except Fault Lexer := do
  let l ← l.noteKey
  return { l.emitChar t with key := none, outerKeys := l.key :: l.outerKeys, keyAllowed := true }

/-- A closing bracket. -/
def closeBracket (l : Lexer) (t : Token) : Except Fault Lexer := do
  let l ← l.dropKey
  let l := { l.emitChar t with keyAllowed := false }
  return match l.outerKeys with
    | key :: outerKeys => { l with key := key, outerKeys := outerKeys }
    | [] => l

/-- A comma. -/
def comma (l : Lexer) : Except Fault Lexer := do
  let l ← l.dropKey
  return { l.emitChar .flowEntry with keyAllowed := true }

/-- A hyphen before an entry of a block sequence. -/
def hyphen (l : Lexer) : Except Fault Lexer := do
  if !l.inFlow && !l.keyAllowed then throw .misplacedSequence
  let l ← (l.indentTo l.cursor.column l.count .blockSequenceStart).dropKey
  return { l.emitChar .blockEntry with keyAllowed := true }

/-- A question mark before a key. -/
def questionMark (l : Lexer) : Except Fault Lexer := do
  if !l.inFlow && !l.keyAllowed then throw .misplacedKey
  let l ← (l.indentTo l.cursor.column l.count .blockMappingStart).dropKey
  return { l.emitChar .key with keyAllowed := !l.inFlow }

/-- A colon: what began at the noted place was a key. Where none is noted, the key is empty or was
marked by a question mark. -/
def colon (l : Lexer) : Except Fault Lexer :=
  match l.key with
  | some k =>
      let l := (l.emitAt k.place .key).indentTo k.column k.place .blockMappingStart
      .ok { l.emitChar .value with key := none, keyAllowed := false }
  | none =>
      if !l.inFlow && !l.keyAllowed then .error .misplacedValue
      else
        let l := l.indentTo l.cursor.column l.count .blockMappingStart
        .ok { l.emitChar .value with keyAllowed := !l.inFlow }

/-- An anchor, an alias, a tag or a scalar in quotes. -/
def word (l : Lexer) (read : Cursor → Except Fault (Token × Cursor)) : Except Fault Lexer := do
  let l ← l.noteKey
  let (token, c) ← read l.cursor
  return { l.emit token with cursor := c, keyAllowed := false }

/-- A scalar as a block of lines. -/
def block (l : Lexer) (literal : Bool) : Except Fault Lexer := do
  let l ← l.dropKey
  let (text, c) ← blockScalar literal l.indent l.cursor.skip
  return { l.emit (.scalar text (if literal then .literal else .folded)) with
    cursor := c, keyAllowed := true }

/-- A plain scalar. The end of its last line allows a key. -/
def plain (l : Lexer) : Except Fault Lexer := do
  let l ← l.noteKey
  let (text, endsLine, c) ← plainScalar l.inFlow (l.indent + 1).toNat l.cursor
  return { l.emit (.scalar text .plain) with cursor := c, keyAllowed := endsLine }

/-- Whether a plain scalar begins here, given that no other token does. -/
def plainStarts (inFlow : Bool) (c : Cursor) : Bool :=
  match c.ahead 0 with
  | none => false
  | some '-' => !(c.ahead 1).any isSpace
  | some x =>
      if x = '?' || x = ':' then !inFlow && !c.gapAt 1
      else !(isSpace x || isBreak x || ",[]\x7b\x7d#&*!|>'\"%@\x60".toList.contains x)

/-- Reads the token that comes next, which is not the end. -/
def next (l : Lexer) : Except Fault Lexer :=
  let c := l.cursor
  if c.column = 0 && c.sees '%' then l.directive
  else if c.atMark '-' then l.documentMark .documentStart
  else if c.atMark '.' then l.documentMark .documentEnd
  else match c.ahead 0 with
    | some '[' => l.openBracket .flowSequenceStart
    | some '\x7b' => l.openBracket .flowMappingStart
    | some ']' => l.closeBracket .flowSequenceEnd
    | some '\x7d' => l.closeBracket .flowMappingEnd
    | some ',' => l.comma
    | some '*' => l.word fun c => do
        let (name, c) ← readAnchor c.skip
        return (.alias name, c)
    | some '&' => l.word fun c => do
        let (name, c) ← readAnchor c.skip
        return (.anchor name, c)
    | some '!' => l.word fun c => do
        let (name, c) ← readTag l.inFlow c
        return (.tag name, c)
    | some '\'' => l.word fun c => do
        let (text, c) ← quotedScalar true c.skip
        return (.scalar text .singleQuoted, c)
    | some '"' => l.word fun c => do
        let (text, c) ← quotedScalar false c.skip
        return (.scalar text .doubleQuoted, c)
    | some x =>
        if x = '-' && c.gapAt 1 then l.hyphen
        else if x = '?' && (l.inFlow || c.gapAt 1) then l.questionMark
        else if x = ':' && (l.inFlow || c.gapAt 1) then l.colon
        else if (x = '|' || x = '>') && !l.inFlow then l.block (x = '|')
        else if plainStarts l.inFlow c then l.plain
        else .error .unexpectedCharacter
    | none => .error .unexpectedCharacter

/-- Reads the tokens up to the end of the text. -/
def run : Nat → Lexer → Except Fault (List Token)
  | 0, l => .ok l.tokens.reverse
  | fuel + 1, l => do
      let l ← (skipGap (l.cursor.rest.length + 1) l).expireKeys
      let l := l.dedentTo l.cursor.column
      if l.cursor.atEnd then
        let l ← (l.dedentTo (-1)).dropKey
        return l.tokens.reverse
      else run fuel (← l.next)

end Lexer

/-- The tokens of a text. -/
def Token.readAll (text : List Char) : Except Fault (List Token) :=
  if text.all isPrintable then Lexer.run (text.length + 1) (Lexer.start text)
  else .error .controlCharacter

end LunConsole.Yaml
