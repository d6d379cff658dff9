import LunConsole.Text.Digits
import LunConsole.Json.Number
/-!
# Reading JSON text

The grammar is the strict one: no comments, no trailing commas, no control characters inside
strings, blanks are space, tab, line feed and carriage return.

Two readings are offered. `Json.parse` wants a value that can be held and stops at the first
fault of any kind. The lenient reading stops only where the text ceases to be JSON. What is
well formed but denotes nothing becomes a `spoiled` part, which does no harm where nobody asks for
it. When a text breaks off, the part before the break is still there, ended by a `broken` part
that names the fault (`Json.opening`); a receiver that works through a text from left to right
sees an unwanted value before it sees a break that comes later. The break is the last item or
member of each array and object that it stands in.
-/

set_option autoImplicit false

namespace LunConsole

/-- A fault with its place: the line, and the bytes of that line up to the place. -/
structure JsonError where
  fault : JsonFault
  line : Nat
  column : Nat
  deriving DecidableEq, Repr

namespace JsonError

/-- The fault and its place in words. -/
def message (e : JsonError) : String :=
  s!"{e.fault.message} at line {e.line} column {e.column}"

end JsonError

namespace Json

/-- What remains after a reading, or where it broke off. -/
abbrev Left := Except JsonBreak (List Char)

/-- Deepest nesting of arrays and objects in a value that is held. -/
def deepest : Nat := 127

/-- The white space of the grammar. -/
def isBlank (c : Char) : Bool := c = ' ' || c = '\n' || c = '\t' || c = '\r'

/-- Drops blanks from the front of a text. -/
def skipBlanks (s : List Char) : List Char := s.dropWhile isBlank

/-! ## 1. Strings -/

/-- The number written by four hexadecimal digits. -/
def hexUnit? (a b c d : Char) : Option Nat := Text.number? 16 [a, b, c, d]

/-- What a one-letter escape stands for. -/
def simpleEscape? : Char → Option Char
  | '"' => some '"'
  | '\\' => some '\\'
  | '/' => some '/'
  | 'b' => some '\x08'
  | 'f' => some '\x0c'
  | 'n' => some '\n'
  | 'r' => some '\r'
  | 't' => some '\t'
  | _ => none

/-- First half of a surrogate pair. -/
def isLeading (n : Nat) : Bool := 0xD800 ≤ n && n ≤ 0xDBFF

/-- Second half of a surrogate pair. -/
def isTrailing (n : Nat) : Bool := 0xDC00 ≤ n && n ≤ 0xDFFF

/-- The character that a surrogate pair stands for. -/
def joinSurrogates (lead trail : Nat) : Char :=
  Char.ofNat (0x10000 + (lead - 0xD800) * 0x400 + (trail - 0xDC00))

/-- Bytes of a text in UTF-8. -/
def byteLength (s : List Char) : Nat := s.foldl (fun n c => n + c.utf8Size) 0

/-- State of the reading of a string: what was read, last character first, a first half of a
surrogate pair that waits for its second, and the first soft fault. -/
structure StringState where
  read : List Char
  lead : Option Nat
  soft : Option JsonFault

namespace StringState

/-- Appends a character. -/
def push (st : StringState) (c : Char) : StringState := { st with read := c :: st.read }

/-- Notes a soft fault, unless there is one already. -/
def spoil (st : StringState) (f : JsonFault) : StringState :=
  { st with lead := none, soft := st.soft.or (some f) }

/-- The string that was read, or why there is none. -/
def result (st : StringState) : Except JsonFault String :=
  match st.soft with
  | some f => .error f
  | none => .ok (String.ofList st.read.reverse)

end StringState

/-- What a reader of the string finds wrong, where the reading breaks off because of a fault: a
soft fault before it comes first. -/
def StringState.seen (st : StringState) (f : JsonFault) : JsonFault := st.soft.getD f

/-- A soft fault: strictly, the reading breaks off. -/
def soften (strict : Bool) (st : StringState) (b : JsonBreak) : Except JsonBreak StringState :=
  if strict then .error b else .ok (st.spoil b.fault)

/-- Takes in one UTF-16 unit written as an escape. -/
def takeUnit (strict : Bool) (st : StringState) (n : Nat) (rest : List Char) :
    Except JsonBreak StringState :=
  match st.lead with
  | some lead =>
      if isTrailing n then .ok ({ st with lead := none }.push (joinSurrogates lead n))
      else soften strict st ⟨.loneSurrogate, rest, 0⟩
  | none =>
      if st.soft.isSome then .ok st
      else if isTrailing n then soften strict st ⟨.loneSurrogate, rest, 0⟩
      else if isLeading n then .ok { st with lead := some n }
      else .ok (st.push (Char.ofNat n))

/-- A waiting first half is not followed by an escape of four digits. The fault is found at `s`. -/
def closeLead (strict : Bool) (st : StringState) (s : List Char) :
    Except JsonBreak StringState :=
  match st.lead with
  | some _ => soften strict st ⟨.endOfEscape, s, 1⟩
  | none => .ok st

/-- A string as its reader gets it, and what remains of the text. -/
abbrev StringReading := Except JsonFault String × Left

/-- The reading breaks off. -/
def StringState.broken (st : StringState) (b : JsonBreak) : StringReading :=
  (.error (st.seen b.fault), .error b)

/-- Reads a string after its opening quote. -/
def stringBody (strict : Bool) : List Char → StringState → StringReading
  | [], st => st.broken ⟨.endInString, [], 0⟩
  | '"' :: r, st =>
      match closeLead strict st ('"' :: r) with
      | .error b => st.broken b
      | .ok st => (st.result, .ok r)
  | '\\' :: 'u' :: a :: b :: c :: d :: r, st =>
      match hexUnit? a b c d with
      | some n =>
          match takeUnit strict st n r with
          | .error b => st.broken b
          | .ok st => stringBody strict r st
      | none => st.broken ⟨.invalidEscape, a :: b :: c :: d :: r, 4⟩
  | ['\\'], st => st.broken ⟨.endInString, [], 0⟩
  | '\\' :: c :: r, st =>
      if c = 'u' then
        if byteLength r < 4 then st.broken ⟨.endInString, [], 0⟩
        else st.broken ⟨.invalidEscape, r, 4⟩
      else
        match closeLead strict st (c :: r) with
        | .error b => st.broken b
        | .ok st =>
            match simpleEscape? c with
            | some x => stringBody strict r (st.push x)
            | none => st.broken ⟨.invalidEscape, r, 0⟩
  | c :: r, st =>
      match closeLead strict st (c :: r) with
      | .error b => st.broken b
      | .ok st =>
          if c.toNat < 0x20 then st.broken ⟨.controlCharacter, r, 0⟩
          else stringBody strict r (st.push c)

/-- Reads a string after its opening quote, from a fresh state. -/
def readString (strict : Bool) (s : List Char) : StringReading := stringBody strict s ⟨[], none, none⟩

/-! ## 2. Values -/

/-- A value of which nothing was read. -/
def cut (f : JsonFault) (rest : List Char) (skip : Nat) : Json × Left :=
  (.broken f, .error ⟨f, rest, skip⟩)

/-- Reads the letters of a fixed word. -/
def readWord (value : Json) : List Char → List Char → Json × Left
  | [], s => (value, .ok s)
  | _ :: _, [] => cut .endInWord [] 0
  | w :: ws, c :: s => if c = w then readWord value ws s else cut .expectedIdent (c :: s) 1

/-- Reads a number after its sign. -/
def readNumber (strict negative : Bool) (s : List Char) : Json × Left :=
  match Numeral.read s with
  | .error b => (.broken b.fault, .error b)
  | .ok (x, rest) =>
      match x.value negative with
      | .ok n => (.number n, .ok rest)
      | .error left =>
          if strict then cut .numberOutOfRange (left ++ rest) 0
          else (.spoiled .numberOutOfRange, .ok rest)

mutual

/-- Reads a value inside `depth` arrays and objects. Each step takes at least one character, so
the length of the text is fuel enough. -/
def readValue (strict : Bool) : Nat → Nat → List Char → Json × Left
  | 0, _, s => cut .endInValue s 1
  | fuel + 1, depth, s =>
      match skipBlanks s with
      | [] => cut .endInValue [] 0
      | 'n' :: r => readWord .null ['u', 'l', 'l'] r
      | 't' :: r => readWord (.bool true) ['r', 'u', 'e'] r
      | 'f' :: r => readWord (.bool false) ['a', 'l', 's', 'e'] r
      | '-' :: r => readNumber strict true r
      | '"' :: r =>
          match readString strict r with
          | (.ok text, left) => (.string text, left)
          | (.error f, .ok r) => (.spoiled f, .ok r)
          | (.error f, .error b) => (if f = b.fault then .broken f else .spoiled f, .error b)
      | '[' :: r =>
          if strict && deepest ≤ depth then cut .tooDeep ('[' :: r) 1
          else
            let (xs, left) := readItems strict fuel (depth + 1) true r
            (if deepest ≤ depth then .spoiled .tooDeep else .array xs, left)
      | '\x7b' :: r =>
          if strict && deepest ≤ depth then cut .tooDeep ('\x7b' :: r) 1
          else
            let (ms, left) := readMembers strict fuel (depth + 1) true r
            (if deepest ≤ depth then .spoiled .tooDeep else .object ms, left)
      | c :: r =>
          if c.isDigit then readNumber strict false (c :: r) else cut .expectedValue (c :: r) 1

/-- Reads the items of an array up to its bracket. Every item but the first follows a comma. -/
def readItems (strict : Bool) : Nat → Nat → Bool → List Char → List Json × Left
  | 0, _, _, s => ([], .error ⟨.endInArray, s, 0⟩)
  | fuel + 1, depth, first, s =>
      let brk (f : JsonFault) (rest : List Char) : List Json × Left :=
        ([.broken f], .error ⟨f, rest, 1⟩)
      let item (s : List Char) : List Json × Left :=
        match readValue strict fuel depth s with
        | (x, .error b) => ([x], .error b)
        | (x, .ok s) =>
            let (xs, left) := readItems strict fuel depth false s
            (x :: xs, left)
      match skipBlanks s with
      | [] => brk .endInArray []
      | ']' :: r => ([], .ok r)
      | ',' :: r =>
          if first then item (',' :: r)
          else
            match skipBlanks r with
            | [] => brk .endInValue []
            | ']' :: r => brk .trailingComma (']' :: r)
            | r => item r
      | r => if first then item r else brk .expectedCommaOrBracket r

/-- Reads the members of an object up to its brace. In the place of a member whose key denotes no
text stands the fault. -/
def readMembers (strict : Bool) : Nat → Nat → Bool → List Char → List (String × Json) × Left
  | 0, _, _, s => ([], .error ⟨.endInObject, s, 0⟩)
  | fuel + 1, depth, first, s =>
      let brk (f : JsonFault) (rest : List Char) : List (String × Json) × Left :=
        ([("", .broken f)], .error ⟨f, rest, 1⟩)
      let member (s : List Char) : List (String × Json) × Left :=
        let (key, left) := readString strict s
        let put (x : Json) : String × Json := match key with
          | .ok name => (name, x)
          | .error f => ("", .broken f)
        match left with
        | .error b => ([put (.broken b.fault)], .error b)
        | .ok s =>
            match skipBlanks s with
            | [] => ([put (.broken .endInObject)], .error ⟨.endInObject, [], 0⟩)
            | ':' :: s =>
                match readValue strict fuel depth s with
                | (x, .error b) => ([put x], .error b)
                | (x, .ok s) =>
                    let (ms, left) := readMembers strict fuel depth false s
                    (put x :: ms, left)
            | s => ([put (.broken .expectedColon)], .error ⟨.expectedColon, s, 1⟩)
      match skipBlanks s with
      | [] => brk .endInObject []
      | '\x7d' :: r => ([], .ok r)
      | ',' :: r =>
          if first then brk .keyNotString (',' :: r)
          else
            match skipBlanks r with
            | [] => brk .endInValue []
            | '"' :: r => member r
            | '\x7d' :: r => brk .trailingComma ('\x7d' :: r)
            | r => brk .keyNotString r
      | '"' :: r => if first then member r else brk .expectedCommaOrBrace ('"' :: r)
      | r => if first then brk .keyNotString r else brk .expectedCommaOrBrace r

end

/-! ## 3. Whole texts -/

/-- Moves a place past characters. -/
def walk (place : Nat × Nat) (s : List Char) : Nat × Nat :=
  s.foldl (fun (line, column) c =>
    if c = '\n' then (line + 1, 0) else (line, column + c.utf8Size)) place

/-- Moves a place past a number of bytes, at most to the end of the text. -/
def walkBytes : Nat → Nat × Nat → List Char → Nat × Nat
  | _, place, [] => place
  | n, (line, column), c :: s =>
      if n = 0 then (line, column)
      else if n < c.utf8Size then (line, column + n)
      else walkBytes (n - c.utf8Size) (walk (line, column) [c]) s

/-- A break as an error with its place in the text. -/
def placeOf (b : JsonBreak) (text : List Char) : JsonError :=
  let before := text.take (text.length - b.rest.length)
  let (line, column) := walkBytes b.skip (walk (1, 0) before) b.rest
  ⟨b.fault, line, column⟩

/-- Only blanks may follow a value. -/
def endOfText (s : List Char) : Except JsonBreak Unit :=
  match skipBlanks s with
  | [] => .ok ()
  | s => .error ⟨.trailingCharacters, s, 1⟩

/-- The value in front of a text and what follows it, where the reading is lenient. -/
def opening (text : String) : Json × Left :=
  let s := text.toList
  readValue false (2 * s.length + 1) 0 s

/-- The value of a whole text, or the first fault. -/
def parse (text : String) : Except JsonError Json :=
  let s := text.toList
  match readValue true (2 * s.length + 1) 0 s with
  | (_, .error b) => .error (placeOf b s)
  | (x, .ok rest) =>
      match endOfText rest with
      | .error b => .error (placeOf b s)
      | .ok () => .ok x

/-- The value of a whole text in which parts may denote nothing, or the fault that makes it no
JSON. -/
def parseLeniently (text : String) : Except JsonFault Json :=
  match opening text with
  | (_, .error b) => .error b.fault
  | (x, .ok rest) =>
      match endOfText rest with
      | .error b => .error b.fault
      | .ok () => .ok x

end Json

end LunConsole
