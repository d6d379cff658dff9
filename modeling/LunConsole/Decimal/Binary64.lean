import LunConsole.Decimal.Rounding
/-!
# Binary floats

A number with a fraction or an exponent is held as a 64-bit binary float. The three operations a
reader of numbers needs are defined here on the exact value `mantissa * 2 ^ exponent`, each as one
exact quotient followed by one rounding (`Binary64.ofQuotient?`), so that no step depends on the
arithmetic of the machine.

A value is kept with the mantissa of its 53-bit form; the smallest exponent is `-1074`, below
which the mantissa loses bits, and a value that would need an exponent above `971` is too large
to be held at all.
-/

set_option autoImplicit false

namespace LunConsole.Decimal

/-- A finite float: `mantissa * 2 ^ exponent`, with its sign kept apart so that zero has two. -/
structure Binary64 where
  negative : Bool
  mantissa : Nat
  exponent : Int
  deriving DecidableEq, Repr, Inhabited

namespace Binary64

/-- The value zero, with the given sign. -/
def zero (negative : Bool) : Binary64 := ⟨negative, 0, 0⟩

/-- `n / d * 2 ^ e` in exact arithmetic, as a numerator and a denominator. -/
def scale (n d : Nat) (e : Int) : Nat × Nat :=
  match e with
  | .ofNat k => (n * Nat.pow 2 k, d)
  | .negSucc k => (n, d * Nat.pow 2 (k + 1))

/-- The exponent of the last bit kept of `n / d`: 53 significant bits if the quotient is large
enough, the fixed step `2 ^ -1074` if it is not. -/
def lastBit (n d : Nat) : Int :=
  let guess : Int := (n.log2 : Int) - (d.log2 : Int) - 53
  -- the quotient has 52, 53 or 54 bits above `guess`; move until it has 53
  let fitsAt (e : Int) : Bool :=
    let (a, b) := scale n d (-e)
    a < b * Nat.pow 2 53
  let e := if fitsAt guess then guess else guess + 1
  max e (-1074)

/-- The float nearest to `n / d`, a half going to the even mantissa. `none` if the quotient is
too large. -/
def ofQuotient? (negative : Bool) (n d : Nat) : Option Binary64 :=
  if n = 0 then some (zero negative)
  else
    let e := lastBit n d
    let (a, b) := scale n d (-e)
    let m := roundDiv a b
    let (m, e) := if m = Nat.pow 2 53 then (Nat.pow 2 52, e + 1) else (m, e)
    if 971 < e then none else some ⟨negative, m, e⟩

/-- The float nearest to a natural number. -/
def ofNat? (n : Nat) : Option Binary64 := ofQuotient? false n 1

/-- The exact value of a float without its sign, as a numerator and a denominator. -/
def quotient (x : Binary64) : Nat × Nat := scale x.mantissa 1 x.exponent

/-- The product, rounded once. -/
def mul? (x y : Binary64) : Option Binary64 :=
  let (a, b) := x.quotient
  let (c, d) := y.quotient
  ofQuotient? (x.negative != y.negative) (a * c) (b * d)

/-- The quotient by a float other than zero, rounded once. -/
def div? (x y : Binary64) : Option Binary64 :=
  let (a, b) := x.quotient
  let (c, d) := y.quotient
  ofQuotient? (x.negative != y.negative) (a * d) (b * c)

/-- The largest power of ten a scaling step uses. -/
def largestTen : Nat := 308

/-- Scales a nonnegative float by a power of ten, in steps of at most `10 ^ 308`. Each step rounds,
as does the power of ten itself. `none` if the result is too large. -/
def scaleTen? (x : Binary64) : Int → Option Binary64
  | .ofNat k =>
      if k ≤ largestTen then do x.mul? (← ofNat? (Nat.pow 10 k))
      else if x.mantissa = 0 then some x
      else none
  | .negSucc k => down (k / largestTen + 1) x (k + 1)
where
  /-- Divides by `10 ^ k`, spending one unit of `steps` on each division. -/
  down : Nat → Binary64 → Nat → Option Binary64
    | 0, x, _ => some x
    | steps + 1, x, k =>
        if k ≤ largestTen then do x.div? (← ofNat? (Nat.pow 10 k))
        else if x.mantissa = 0 then some x
        else do down steps (← x.div? (← ofNat? (Nat.pow 10 largestTen))) (k - largestTen)

/-- The value written `significand` times ten to `exponent`. -/
def ofDecimal? (negative : Bool) (significand : Nat) (exponent : Int) : Option Binary64 := do
  let x ← (← ofNat? significand).scaleTen? exponent
  some { x with negative := negative }

/-- The float nearest to `significand` times ten to `exponent`, rounded once. A number with that
many places before or after the point that it is certainly too large, or certainly nothing but
zero, is told without computing it. -/
def nearest? (negative : Bool) (significand : Nat) (exponent : Int) : Option Binary64 :=
  let places : Int := (toString significand).length + exponent
  if significand = 0 ∨ places < -400 then some (zero negative)
  else if 400 < places then none
  else match exponent with
    | .ofNat k => ofQuotient? negative (significand * Nat.pow 10 k) 1
    | .negSucc k => ofQuotient? negative significand (Nat.pow 10 (k + 1))

end Binary64

end LunConsole.Decimal
