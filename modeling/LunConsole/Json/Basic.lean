import LunConsole.Decimal.Binary64
/-!
# JSON values

A JSON value with its members in the order of the text. Nothing is normalised here: an object may
hold two members of one key, and what that means is for the reader of the object to say. A record
refuses a repeated field (`Json.record?`), a map keeps the last one (`Json.lastMember?`), and
writing keeps the last one too.

Whole numbers are kept exactly over the range of 64-bit integers, so that a size survives a
reading and a writing; all other numbers are binary floats.
-/

set_option autoImplicit false

namespace LunConsole

/-- Why a text is not JSON, or denotes no value that can be held. A text that ends within a word or
a number (`endInWord`) has shown more of the value than one that ends before it (`endInValue`). -/
inductive JsonFault where
  | endInArray | endInObject | endInString | endInValue | endInWord
  | expectedColon | expectedCommaOrBracket | expectedCommaOrBrace | expectedIdent | expectedValue
  | invalidEscape | invalidNumber | numberOutOfRange | invalidCodePoint | controlCharacter
  | keyNotString | loneSurrogate | trailingComma | trailingCharacters | endOfEscape | tooDeep
  deriving DecidableEq, Repr

namespace JsonFault

/-- Whether the text simply stops short, so that more of it could mend the fault. -/
def isEnd : JsonFault → Bool
  | endInArray | endInObject | endInString | endInValue | endInWord => true
  | _ => false

/-- What is said of the fault, without its place. -/
def message : JsonFault → String
  | endInArray => "EOF while parsing a list"
  | endInObject => "EOF while parsing an object"
  | endInString => "EOF while parsing a string"
  | endInValue | endInWord => "EOF while parsing a value"
  | expectedColon => "expected `:`"
  | expectedCommaOrBracket => "expected `,` or `]`"
  | expectedCommaOrBrace => "expected `,` or `\x7d`"
  | expectedIdent => "expected ident"
  | expectedValue => "expected value"
  | invalidEscape => "invalid escape"
  | invalidNumber => "invalid number"
  | numberOutOfRange => "number out of range"
  | invalidCodePoint => "invalid unicode code point"
  | controlCharacter => "control character (\\u0000-\\u001F) found while parsing a string"
  | keyNotString => "key must be a string"
  | loneSurrogate => "lone leading surrogate in hex escape"
  | trailingComma => "trailing comma"
  | trailingCharacters => "trailing characters"
  | endOfEscape => "unexpected end of hex escape"
  | tooDeep => "recursion limit exceeded"

end JsonFault

/-- A number: whole and within 64 bits, or a float. -/
inductive JsonNumber where
  | whole (value : Int)
  | real (value : Decimal.Binary64)
  deriving DecidableEq, Repr

/-- A JSON value. Two cases stand for parts of a text that denote nothing. `spoiled` is well formed:
a number beyond the range of floats, a string with an unpaired surrogate, a nesting beyond the
limit. A field that nobody asks for may hold one. `broken` is the place where the text ceases to be
JSON; as a member of an object it is also the place of a key that denotes no text, at which a
reader of the object stops, though one that passes over the object does not. -/
inductive Json where
  | null
  | bool (value : Bool)
  | number (value : JsonNumber)
  | string (value : String)
  | array (items : List Json)
  | object (members : List (String × Json))
  | spoiled (fault : JsonFault)
  | broken (fault : JsonFault)
  deriving Repr, Inhabited

namespace Json

/-- A count or a size as a number. -/
def ofNat (n : Nat) : Json := .number (.whole n)

/-- A list of texts. -/
def texts (xs : List String) : Json := .array (xs.map .string)

/-- The text of a string value. -/
def text? : Json → Option String
  | .string s => some s
  | _ => none

/-- The value of a Boolean. -/
def bool? : Json → Option Bool
  | .bool b => some b
  | _ => none

/-- The items of an array. -/
def items? : Json → Option (List Json)
  | .array xs => some xs
  | _ => none

/-- Whether reading stops at this place. -/
def isBroken : Json → Bool
  | .broken _ => true
  | _ => false

/-- The members of an object, if all of them can be read. -/
def members? : Json → Option (List (String × Json))
  | .object ms => if ms.any fun m => m.2.isBroken then none else some ms
  | _ => none

/-- A whole number without a sign that fits 64 bits. -/
def uint64? : Json → Option UInt64
  | .number (.whole i) => if 0 ≤ i ∧ i < UInt64.size then some (UInt64.ofNat i.toNat) else none
  | _ => none

/-- A whole number that fits 64 bits with a sign. -/
def int64? : Json → Option Int64
  | .number (.whole i) =>
      if Int64.minValue.toInt ≤ i ∧ i ≤ Int64.maxValue.toInt then some (Int64.ofInt i) else none
  | _ => none

/-- A whole number without a sign that fits 16 bits. -/
def uint16? : Json → Option UInt16
  | .number (.whole i) => if 0 ≤ i ∧ i < UInt16.size then some (UInt16.ofNat i.toNat) else none
  | _ => none

/-- The last member of that key: a later member overrides an earlier one. -/
def lastMember? (key : String) : Json → Option Json
  | .object ms => ms.reverse.lookup key
  | _ => none

mutual

/-- The first part of a value, in the order of the text, that denotes nothing. -/
def fault? : Json → Option JsonFault
  | .spoiled f => some f
  | .broken f => some f
  | .array xs => faultOfItems? xs
  | .object ms => faultOfMembers? ms
  | _ => none

/-- The first fault among items. -/
def faultOfItems? : List Json → Option JsonFault
  | [] => none
  | x :: xs => (fault? x).or (faultOfItems? xs)

/-- The first fault among the values of members. -/
def faultOfMembers? : List (String × Json) → Option JsonFault
  | [] => none
  | (_, x) :: ms => (fault? x).or (faultOfMembers? ms)

end

end Json

end LunConsole
