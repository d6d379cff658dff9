import LunConsole.Json.Basic
import LunConsole.Decimal.Shortest
/-!
# Writing JSON text

The compact form: no blanks, the members of an object in the order of their keys, one member per
key (of several the last). A float is written with the fewest digits that read back, positionally
for values between `1e-5` and `1e16` and with an exponent and its sign otherwise, and always shows
that it is a float.
-/

set_option autoImplicit false

namespace LunConsole.Json

/-! ## 1. Strings -/

/-- A digit below sixteen, in lower case. -/
def hexDigit (n : Nat) : Char :=
  if n < 10 then Char.ofNat ('0'.toNat + n) else Char.ofNat ('a'.toNat + n - 10)

/-- A character as it stands in a string. -/
def escaped (c : Char) : List Char :=
  match c with
  | '"' => ['\\', '"']
  | '\\' => ['\\', '\\']
  | '\n' => ['\\', 'n']
  | '\r' => ['\\', 'r']
  | '\t' => ['\\', 't']
  | c =>
      if c.toNat = 0x08 then ['\\', 'b']
      else if c.toNat = 0x0c then ['\\', 'f']
      else if c.toNat < 0x20 then
        ['\\', 'u', '0', '0', hexDigit (c.toNat / 16), hexDigit (c.toNat % 16)]
      else [c]

/-- A text in quotes. -/
def quote (s : String) : String :=
  String.ofList ('"' :: s.toList.flatMap escaped ++ ['"'])

/-! ## 2. Numbers -/

/-- `n` zeros. -/
def zeros (n : Nat) : String := String.ofList (List.replicate n '0')

/-- The text of a float. -/
def floatText (x : Decimal.Binary64) : String :=
  let sign := if x.negative then "-" else ""
  let d := x.shortest
  if d.digits = 0 then sign ++ "0.0"
  else
    let digits := (toString d.digits).toList
    let count : Int := digits.length
    -- the value is below `10 ^ point` and at least a tenth of that
    let point := count + d.exponent
    let text (cs : List Char) : String := String.ofList cs
    sign ++
      (if 0 ≤ d.exponent ∧ point ≤ 16 then text digits ++ zeros d.exponent.toNat ++ ".0"
      else if 0 < point ∧ point ≤ 16 then
        text (digits.take point.toNat) ++ "." ++ text (digits.drop point.toNat)
      else if -5 < point ∧ point ≤ 0 then "0." ++ zeros (-point).toNat ++ text digits
      else
        let mark := if 0 < point then "e+" else "e"
        (if digits.length = 1 then text digits
          else text (digits.take 1) ++ "." ++ text (digits.drop 1))
          ++ mark ++ toString (point - 1))

/-- The text of a number. -/
def numberText : JsonNumber → String
  | .whole i => toString i
  | .real x => floatText x

/-! ## 3. Values -/

/-- Puts a member in its place in an ordered list, over one of the same key. -/
def place (key : String) (value : String) : List (String × String) → List (String × String)
  | [] => [(key, value)]
  | (k, v) :: ms =>
      if key < k then (key, value) :: (k, v) :: ms
      else if key = k then (k, value) :: ms
      else (k, v) :: place key value ms

/-- Texts with commas between them. -/
def joined (parts : List String) : String := ",".intercalate parts

mutual

/-- The compact text of a value. A part that denotes nothing is written as null. -/
def compact : Json → String
  | .null => "null"
  | .bool true => "true"
  | .bool false => "false"
  | .number n => numberText n
  | .string s => quote s
  | .array xs => "[" ++ joined (compactItems xs) ++ "]"
  | .object ms =>
      "\x7b" ++ joined ((compactMembers ms []).map fun (k, v) => quote k ++ ":" ++ v) ++ "\x7d"
  | .spoiled _ | .broken _ => "null"

/-- The texts of the items of an array. -/
def compactItems : List Json → List String
  | [] => []
  | x :: xs => compact x :: compactItems xs

/-- The keys and the texts of the members of an object, in the order of the keys. -/
def compactMembers : List (String × Json) → List (String × String) → List (String × String)
  | [], written => written
  | (k, x) :: ms, written => compactMembers ms (place k (compact x) written)

end

end LunConsole.Json
