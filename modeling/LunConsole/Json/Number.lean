import LunConsole.Json.Basic
/-!
# Reading a number

A number is read in two steps. Its text is cut into the digits before the point, the digits after
it and the exponent (`Numeral.read`); what it denotes is computed from those (`Numeral.value?`).

Without a point and an exponent the value is exact as long as it fits 64 bits. Otherwise it is a
float. Then only as many digits are taken as fit a 64-bit significand, the others moving the
exponent, and the significand is scaled by the power of ten.
-/

set_option autoImplicit false

namespace LunConsole

/-- Where a reading broke off: the text from there on, and how many bytes of it the fault is
reported past. -/
structure JsonBreak where
  fault : JsonFault
  rest : List Char
  skip : Nat
  deriving Repr

namespace Json

/-- The parts of a number as written, its sign aside. The flag of the exponent tells if it is
negative. -/
structure Numeral where
  whole : List Char
  fraction : Option (List Char)
  exponent : Option (Bool × List Char)

namespace Numeral

/-- The digits in front of a text and what follows them. -/
def digits (s : List Char) : List Char × List Char :=
  (s.takeWhile Char.isDigit, s.dropWhile Char.isDigit)

/-- Digits that have to be there. The fault is reported past the character that is none. -/
def someDigits (s : List Char) : Except JsonBreak (List Char × List Char) :=
  match s with
  | [] => .error ⟨.endInWord, [], 0⟩
  | c :: _ => if c.isDigit then .ok (digits s) else .error ⟨.invalidNumber, s, 1⟩

/-- The digits before the point: a leading zero stands alone. -/
def wholePart (s : List Char) : Except JsonBreak (List Char × List Char) :=
  match s with
  | '0' :: c :: r => if c.isDigit then .error ⟨.invalidNumber, c :: r, 1⟩ else .ok (['0'], c :: r)
  | _ => someDigits s

/-- The point and the digits after it, if there is a point. -/
def fractionPart (s : List Char) : Except JsonBreak (Option (List Char) × List Char) :=
  match s with
  | '.' :: r => do
      let (ds, r) ← someDigits r
      return (some ds, r)
  | _ => .ok (none, s)

/-- The exponent, if there is one. -/
def exponentPart (s : List Char) : Except JsonBreak (Option (Bool × List Char) × List Char) :=
  match s with
  | [] => .ok (none, [])
  | c :: r =>
      if c = 'e' ∨ c = 'E' then do
        let (negative, r) : Bool × List Char := match r with
          | '+' :: r => (false, r)
          | '-' :: r => (true, r)
          | r => (false, r)
        let (ds, r) ← someDigits r
        return (some (negative, ds), r)
      else .ok (none, s)

/-- Cuts a number without its sign off the front of a text. -/
def read (s : List Char) : Except JsonBreak (Numeral × List Char) := do
  let (whole, s) ← wholePart s
  let (fraction, s) ← fractionPart s
  let (exponent, s) ← exponentPart s
  return (⟨whole, fraction, exponent⟩, s)

/-- The value of a digit. -/
def digitValue (c : Char) : Nat := c.toNat - '0'.toNat

/-- Appends digits to a significand while it fits 64 bits, and returns those that did not fit. -/
def absorb : Nat → List Char → Nat × List Char
  | n, [] => (n, [])
  | n, c :: cs =>
      if 10 * n + digitValue c < UInt64.size then absorb (10 * n + digitValue c) cs else (n, c :: cs)

/-- The largest exponent that is read as a number of its own. -/
def largestExponent : Nat := Nat.pow 2 31 - 1

/-- Reads the digits of an exponent. `error` returns the digits left after the one that made it
too large. -/
def exponentValue : Nat → List Char → Except (List Char) Nat
  | n, [] => .ok n
  | n, c :: cs =>
      if 10 * n + digitValue c ≤ largestExponent then exponentValue (10 * n + digitValue c) cs
      else .error cs

/-- Significand and exponent of ten, before the written exponent is added. -/
def parts (x : Numeral) : Nat × Int :=
  let (n, left) := absorb 0 x.whole
  match x.fraction with
  | none => (n, left.length)
  | some ds =>
      let (n, dropped) := absorb n ds
      (n, (left.length : Int) - (ds.length - dropped.length : Nat))

/-- A zero of either sign, as a float. -/
def signedZero (negative : Bool) : JsonNumber := .real (Decimal.Binary64.zero negative)

/-- What the number denotes. `error` means that it is beyond the range of floats, and returns the
digits after the place where that is certain. -/
def value (negative : Bool) (x : Numeral) : Except (List Char) JsonNumber :=
  let (n, e) := x.parts
  let real (e : Int) : Except (List Char) JsonNumber :=
    match Decimal.Binary64.ofDecimal? negative n e with
    | some f => .ok (.real f)
    | none => .error []
  match x.exponent with
  | some (down, ds) =>
      match exponentValue 0 ds with
      | .ok k => real (if down then e - k else e + k)
      | .error left => if n = 0 ∨ down then .ok (signedZero negative) else .error left
  | none =>
      if x.fraction.isSome ∨ e ≠ 0 then real e
      else if !negative then .ok (.whole n)
      else if n = 0 then .ok (signedZero true)
      else if n ≤ Nat.pow 2 63 then .ok (.whole (-n))
      else real 0

end Numeral

end Json

end LunConsole
