import LunConsole.Decimal.Binary64
/-!
# The shortest decimal that reads back

A float is written with the fewest significant digits that still denote it: of all decimals that
round to the float the shortest, and of those the nearest to its exact value.

The decimals that round to `m * 2 ^ e` form an interval around it that reaches half way to either
neighbour, with its ends included exactly if `m` is even. For one digit, then two, up to
seventeen, the two decimals next to the exact value are tested against the interval; seventeen
digits always suffice. All of it is arithmetic on natural numbers.
-/

set_option autoImplicit false

namespace LunConsole.Decimal

/-- A decimal `digits * 10 ^ exponent`. -/
structure Digits where
  digits : Nat
  exponent : Int
  deriving DecidableEq, Repr

namespace Digits

/-- Drops trailing zeros of the digits, at most `steps` of them. -/
def dropZeros : Nat → Digits → Digits
  | 0, d => d
  | steps + 1, d =>
      if d.digits ≠ 0 ∧ d.digits % 10 = 0 then
        dropZeros steps ⟨d.digits / 10, d.exponent + 1⟩
      else d

end Digits

namespace Binary64

/-- The interval of decimals that round to a float, over a common denominator: the exact value is
`mid / den`, the ends are `low / den` and `high / den`, and `closed` tells if they belong to it. -/
structure Interval where
  low : Nat
  mid : Nat
  high : Nat
  den : Nat
  closed : Bool

/-- The interval around `x`. Below a power of two the neighbours are half as far apart. -/
def interval (x : Binary64) : Interval :=
  let narrow : Bool := x.mantissa = Nat.pow 2 52 ∧ -1074 < x.exponent
  -- a quarter of the distance between neighbours is a whole number over `den`
  let (unit, den) := scale 1 4 x.exponent
  { low := (4 * x.mantissa - if narrow then 1 else 2) * unit
    mid := 4 * x.mantissa * unit
    high := (4 * x.mantissa + 2) * unit
    den
    closed := x.mantissa % 2 = 0 }

/-- Whether the decimal `d * 10 ^ e` lies in the interval. -/
def Interval.contains (i : Interval) (d : Nat) (e : Int) : Bool :=
  let (n, m) : Nat × Nat := match e with
    | .ofNat k => (d * Nat.pow 10 k, 1)
    | .negSucc k => (d, Nat.pow 10 (k + 1))
  if i.closed then i.low * m ≤ n * i.den ∧ n * i.den ≤ i.high * m
  else i.low * m < n * i.den ∧ n * i.den < i.high * m

/-- The decimal on the grid of `10 ^ e` that lies in the interval, the nearer one if both of the
value's neighbours do; a tie goes to the even one. -/
def Interval.onGrid? (i : Interval) (e : Int) : Option Nat :=
  let (n, m) : Nat × Nat := match e with
    | .ofNat k => (i.mid, i.den * Nat.pow 10 k)
    | .negSucc k => (i.mid * Nat.pow 10 (k + 1), i.den)
  let below := n / m
  let nearest := roundDiv n m
  let other := if nearest = below then below + 1 else below
  if i.contains nearest e then some nearest
  else if i.contains other e then some other
  else none

/-- The number of decimal digits before the point of `n / d`, by search from `start` downward;
negative if zeros follow the point. -/
def leadingExponent (n d : Nat) : Int :=
  -- `10 ^ k ≤ n / d` for the largest such `k`
  let fits (k : Int) : Bool := match k with
    | .ofNat k => d * Nat.pow 10 k ≤ n
    | .negSucc k => d ≤ n * Nat.pow 10 (k + 1)
  let guess : Int := ((n.log2 : Int) - (d.log2 : Int)) * 30103 / 100000
  if fits (guess + 1) then guess + 1
  else if fits guess then guess
  else if fits (guess - 1) then guess - 1
  else guess - 2

/-- Tries grids from coarse to fine, `steps` of them. -/
def Interval.search (i : Interval) : Nat → Int → Digits
  | 0, e => ⟨(i.onGrid? e).getD 0, e⟩
  | steps + 1, e =>
      match i.onGrid? e with
      | some d => ⟨d, e⟩
      | none => search i steps (e - 1)

/-- The shortest decimal that rounds to the value of `x`, its sign left out. -/
def shortest (x : Binary64) : Digits :=
  if x.mantissa = 0 then ⟨0, 0⟩
  else
    let i := x.interval
    (i.search 18 (leadingExponent i.mid i.den + 1)).dropZeros 20

end Binary64

end LunConsole.Decimal
