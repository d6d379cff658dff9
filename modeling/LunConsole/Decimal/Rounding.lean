/-!
# Rounding a quotient

Sizes and JSON numbers are rounded in two places: to the 53 significant bits of a binary float,
and to the decimal places that are printed. Both are the same operation on natural numbers, the
quotient `n / d` taken to the nearest whole number with a half going to the even neighbour, so it
is defined once and everything that rounds is stated over it.

`roundDiv` is exact: no intermediate value is a float, and the two halves of the definition (the
quotient and the remainder) are the ones `Nat.div_add_mod` relates.
-/

set_option autoImplicit false

namespace LunConsole.Decimal

/-- The whole number nearest to `n / d`; a half goes to the even neighbour. -/
def roundDiv (n d : Nat) : Nat :=
  let q := n / d
  let r := n % d
  if 2 * r < d then q
  else if d < 2 * r then q + 1
  else q + q % 2

/-- Rounding never drops below the quotient. -/
theorem div_le_roundDiv (n d : Nat) : n / d ≤ roundDiv n d := by
  unfold roundDiv
  dsimp only
  split
  · exact Nat.le_refl _
  · split
    · exact Nat.le_succ _
    · exact Nat.le_add_right _ _

/-- Rounding never exceeds the quotient by more than one. -/
theorem roundDiv_le_succ (n d : Nat) : roundDiv n d ≤ n / d + 1 := by
  unfold roundDiv
  dsimp only
  split
  · exact Nat.le_succ _
  · split
    · exact Nat.le_refl _
    · have := Nat.mod_lt (n / d) (show 0 < 2 by decide)
      omega

/-- A multiple of the divisor is left alone. -/
theorem roundDiv_mul_right (q d : Nat) (hd : 0 < d) : roundDiv (q * d) d = q := by
  simp [roundDiv, Nat.mul_div_cancel _ hd, hd]

/-- The number of low bits of `n` beyond the first 53 significant ones. -/
def excessBits (n : Nat) : Nat := n.log2 + 1 - 53

/-- `n` to 53 significant bits, the precision of a binary float. Numbers below `2 ^ 53` are
their own rounding. -/
def nearest53 (n : Nat) : Nat :=
  roundDiv n (Nat.pow 2 (excessBits n)) * Nat.pow 2 (excessBits n)

/-- Below `2 ^ 53` nothing is rounded away. -/
theorem nearest53_of_lt {n : Nat} (h : n < Nat.pow 2 53) : nearest53 n = n := by
  have hx : excessBits n = 0 := by
    unfold excessBits
    rcases Nat.eq_zero_or_pos n with rfl | hn
    · decide
    · have := (Nat.log2_lt (Nat.pos_iff_ne_zero.1 hn)).2 h
      omega
  have := roundDiv_mul_right n 1 Nat.one_pos
  simpa [nearest53, hx] using this

end LunConsole.Decimal
