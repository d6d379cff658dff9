import LunConsole.Text.Blank
import LunConsole.Wire
/-!
# Instants

A point in time to the nanosecond, written in UTC as `YYYY-MM-DDTHH:MM:SS`, a fraction of as many
groups of three digits as are needed, and `Z`.

The reader takes any offset from UTC and is generous with blanks and with the number of digits.
A sixtieth second is a leap second: it is kept apart from the second after it, as nanoseconds
beyond the first thousand million.
-/

set_option autoImplicit false

namespace LunConsole

/-- Seconds since the beginning of 1970 and nanoseconds. -/
structure Instant where
  seconds : Int
  nanos : Nat
  deriving DecidableEq, Repr

namespace Instant

/-- The beginning of 1970. -/
def epoch : Instant := ⟨0, 0⟩

/-! ## 1. The calendar -/

/-- Days from the beginning of 1970 to a date. Years are counted from the first of March, so that
the leap day comes last, in periods of 400 years. -/
def daysOfDate (year : Int) (month day : Nat) : Int :=
  let y := if month ≤ 2 then year - 1 else year
  let era := y.fdiv 400
  let yearOfEra := y - era * 400
  let monthFromMarch : Int := (((month + 9) % 12 : Nat) : Int)
  let dayOfYear := (153 * monthFromMarch + 2) / 5 + (day : Int) - 1
  let dayOfEra := yearOfEra * 365 + yearOfEra / 4 - yearOfEra / 100 + dayOfYear
  era * 146097 + dayOfEra - 719468

/-- The date of a day, the inverse of `daysOfDate`. -/
def dateOfDays (days : Int) : Int × Nat × Nat :=
  let z := days + 719468
  let era := z.fdiv 146097
  let dayOfEra := z - era * 146097
  let yearOfEra := (dayOfEra - dayOfEra / 1460 + dayOfEra / 36524 - dayOfEra / 146096) / 365
  let dayOfYear := dayOfEra - (365 * yearOfEra + yearOfEra / 4 - yearOfEra / 100)
  let monthFromMarch := (5 * dayOfYear + 2) / 153
  let day := dayOfYear - (153 * monthFromMarch + 2) / 5 + 1
  let month := if monthFromMarch < 10 then monthFromMarch + 3 else monthFromMarch - 9
  let year := yearOfEra + era * 400 + (if month ≤ 2 then 1 else 0)
  (year, month.toNat, day.toNat)

/-- Whether a year has a leap day. -/
def isLeapYear (year : Int) : Bool :=
  year % 4 = 0 && (year % 100 != 0 || year % 400 = 0)

/-- The days of a month. -/
def daysOfMonth (year : Int) (month : Nat) : Nat :=
  match month with
  | 2 => if isLeapYear year then 29 else 28
  | 4 | 6 | 9 | 11 => 30
  | _ => 31

/-! ## 2. Writing -/

/-- A number in at least `width` digits. -/
def padded (width n : Nat) : String :=
  let digits := toString n
  String.ofList (List.replicate (width - digits.length) '0') ++ digits

/-- A year: four digits, with a sign if it is negative or needs more of them. -/
def yearText (year : Int) : String :=
  if 0 ≤ year ∧ year ≤ 9999 then padded 4 year.toNat
  else if year < 0 then "-" ++ padded 4 (-year).toNat
  else "+" ++ padded 4 year.toNat

/-- The fraction of a second in the fewest groups of three digits. -/
def fractionText (nanos : Nat) : String :=
  if nanos = 0 then ""
  else if nanos % 1000000 = 0 then "." ++ padded 3 (nanos / 1000000)
  else if nanos % 1000 = 0 then "." ++ padded 6 (nanos / 1000)
  else "." ++ padded 9 nanos

/-- The instant in UTC. -/
def text (t : Instant) : String :=
  let days := t.seconds.fdiv 86400
  let inDay := (t.seconds - days * 86400).toNat
  let (year, month, day) := dateOfDays days
  let leap := t.nanos / 1000000000
  yearText year ++ "-" ++ padded 2 month ++ "-" ++ padded 2 day ++ "T"
    ++ padded 2 (inDay / 3600) ++ ":" ++ padded 2 (inDay / 60 % 60) ++ ":"
    ++ padded 2 (inDay % 60 + leap) ++ fractionText (t.nanos % 1000000000) ++ "Z"

/-- The instant without the fraction of its second. -/
def toSecond (t : Instant) : Instant := ⟨t.seconds, t.nanos / 1000000000 * 1000000000⟩

/-! ## 3. Reading -/

/-- The value of digits. -/
def digitsValue (ds : List Char) : Nat := ds.foldl (fun n c => 10 * n + (c.toNat - '0'.toNat)) 0

/-- Between one and `most` digits. -/
def number? (most : Nat) (s : List Char) : Option (Nat × List Char) :=
  let ds := (s.take most).takeWhile Char.isDigit
  if ds.isEmpty then none else some (digitsValue ds, s.drop ds.length)

/-- A number of one or two digits after blanks, at most `limit`. -/
def field? (limit : Nat) (s : List Char) : Option (Nat × List Char) := do
  let (n, s) ← number? 2 (Text.dropBlanks s)
  if n ≤ limit then some (n, s) else none

/-- A year after blanks: four digits at most, any number of them after a sign. -/
def year? (s : List Char) : Option (Int × List Char) :=
  match Text.dropBlanks s with
  | '-' :: s => (number? s.length s).map fun (n, s) => (-(n : Int), s)
  | '+' :: s => (number? s.length s).map fun (n, s) => ((n : Int), s)
  | s => (number? 4 s).map fun (n, s) => ((n : Int), s)

/-- A fixed character after blanks. -/
def mark? (c : Char) (s : List Char) : Option (List Char) :=
  match Text.dropBlanks s with
  | d :: s => if d = c then some s else none
  | [] => none

/-- The fraction of a second as nanoseconds; digits beyond the ninth are dropped. -/
def fraction? (s : List Char) : Option (Nat × List Char) :=
  match s with
  | '.' :: s => do
      let ds := s.takeWhile Char.isDigit
      if ds.isEmpty then none
      let kept := ds.take 9
      return (digitsValue kept * Nat.pow 10 (9 - kept.length), s.drop ds.length)
  | _ => some (0, s)

/-- Two digits, the first of them at most `top`. -/
def twoDigits? (top : Nat) (s : List Char) : Option (Nat × List Char) :=
  match s with
  | a :: b :: s =>
      if a.isDigit ∧ b.isDigit ∧ digitsValue [a] ≤ top then some (digitsValue [a, b], s) else none
  | _ => none

/-- The offset from UTC in seconds. -/
def offset? (s : List Char) : Option (Int × List Char) :=
  match s with
  | 'Z' :: s => some (0, s)
  | 'z' :: s => some (0, s)
  | a :: b :: c :: s =>
      if a.toUpper = 'U' ∧ b.toUpper = 'T' ∧ c.toUpper = 'C' then some (0, s)
      else do
        let sign : Int ←
          if a = '+' then some 1 else if a = '-' ∨ a = '−' then some (-1) else none
        let (hours, s) ← twoDigits? 9 (b :: c :: s)
        let s := s.dropWhile fun c => c = ':' || Text.isBlank c
        let (minutes, s) ← twoDigits? 5 s
        if 24 ≤ hours then none
        return (sign * (hours * 3600 + minutes * 60 : Nat), s)
  | _ => none

/-- Earliest and latest year of a date. -/
def yearRange : Int × Int := (-262143, 262142)

/-- Reads an instant. -/
def parse? (text : String) : Option Instant := do
  let (year, s) ← year? text.toList
  let (month, s) ← field? 12 (← mark? '-' s)
  let (day, s) ← field? 31 (← mark? '-' s)
  let s ← match s with
    | 'T' :: s => some s
    | 't' :: s => some s
    | ' ' :: s => some s
    | _ => none
  let (hour, s) ← field? 23 s
  let (minute, s) ← field? 59 (← mark? ':' s)
  let (second, s) ← field? 60 (← mark? ':' s)
  let (nanos, s) ← fraction? s
  let (offset, s) ← offset? (Text.dropBlanks s)
  if !(Text.dropBlanks s).isEmpty then none
  let inRange (year : Int) : Bool := yearRange.1 ≤ year && year ≤ yearRange.2
  if !inRange year || month = 0 || day = 0 || daysOfMonth year month < day then none
  let (second, nanos) := if second = 60 then (59, nanos + 1000000000) else (second, nanos)
  let seconds := daysOfDate year month day * 86400
    + (hour * 3600 + minute * 60 + second : Nat) - offset
  if !inRange (dateOfDays (seconds.fdiv 86400)).1 then none
  return ⟨seconds, nanos⟩

end Instant

instance : Wire Instant where
  encode t := .string t.text
  decode? x := do Instant.parse? (← x.text?)

end LunConsole
