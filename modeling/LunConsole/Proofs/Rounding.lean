import LunConsole.Decimal.Rounding
import Mathlib.Data.Nat.Log
import Mathlib.Tactic.Ring
/-!
# What rounding does to a quotient

Rounding is used twice on the way from a size to its text, once to the bits that a binary float keeps
and once to the hundredths that are printed. Both times it is the same operation, so what it does is
said once: a whole number lies below the rounded quotient exactly if the quotient has passed the
half that follows the number, where the half itself counts for odd numbers only
(`lt_roundDiv_iff`). That rounding is monotone, and off by at most a half, follows without another
look at the remainder.

The bits are more than an instance of this, since the step between neighbouring floats doubles at
each power of two. A number below such a power is rounded with the smaller step and a number above
it with the larger one. They cannot change places, because the power of two is a multiple of both
steps, and rounding leaves multiples alone (`nearest53_mono`).
-/

set_option autoImplicit false

namespace LunConsole.Decimal

variable {m n d q : Nat}

/-! ## 1. One quotient -/

/-- **Where rounding moves on**: half way to the next whole number, and at the half itself if the
number before it is odd. -/
theorem lt_roundDiv_iff (hd : 0 < d) :
    q < roundDiv n d ↔
      (2 * q + 1) * d < 2 * n ∨ (2 * q + 1) * d = 2 * n ∧ q % 2 = 1 := by
  have hn : d * (n / d) + n % d = n := Nat.div_add_mod n d
  have hr : n % d < d := Nat.mod_lt n hd
  have hexpand : (2 * q + 1) * d = 2 * (d * q) + d := by ring
  rw [hexpand]
  rcases Nat.lt_trichotomy q (n / d) with hlt | heq | hgt
  · -- the quotient without its remainder is past the half already
    have hstep : d * (q + 1) ≤ d * (n / d) := Nat.mul_le_mul_left d hlt
    rw [Nat.mul_succ] at hstep
    have hbelow : q < roundDiv n d := lt_of_lt_of_le hlt (div_le_roundDiv n d)
    omega
  · -- the remainder decides, by the three cases of the definition
    subst heq
    unfold roundDiv
    dsimp only
    split
    · omega
    · split
      · omega
      · omega
  · have hstep : d * (n / d + 1) ≤ d * q := Nat.mul_le_mul_left d hgt
    rw [Nat.mul_succ] at hstep
    have habove : roundDiv n d ≤ q := le_trans (roundDiv_le_succ n d) hgt
    omega

/-- A half goes to the even neighbour, down as well as up. -/
example : roundDiv 5 2 = 2 ∧ roundDiv 7 2 = 4 := by decide

/-- **Rounding is monotone**: what the smaller quotient has passed, the larger one has passed too. -/
theorem roundDiv_mono (hd : 0 < d) (h : m ≤ n) : roundDiv m d ≤ roundDiv n d := by
  refine le_of_forall_lt fun q hq => ?_
  rw [lt_roundDiv_iff hd] at hq ⊢
  omega

/-- **Rounding is off by at most a half**, on either side. -/
theorem roundDiv_near (n : Nat) (hd : 0 < d) :
    2 * (roundDiv n d * d) ≤ 2 * n + d ∧ 2 * n ≤ 2 * (roundDiv n d * d) + d := by
  generalize hq : roundDiv n d = q
  have hexpand : (2 * q + 1) * d = 2 * (q * d) + d := by ring
  constructor
  · cases q with
    | zero => omega
    | succ p =>
        -- the number before has been passed
        have hpast := (lt_roundDiv_iff hd).mp (show p < roundDiv n d by omega)
        have hbefore : (2 * p + 1) * d + d = 2 * ((p + 1) * d) := by ring
        omega
  · -- the number itself has not
    have hnot : ¬ q < roundDiv n d := by omega
    rw [lt_roundDiv_iff hd] at hnot
    omega

/-! ## 2. The bits of a float -/

theorem excessBits_mono (h : m ≤ n) : excessBits m ≤ excessBits n := by
  have hlog : m.log2 ≤ n.log2 := by
    rw [Nat.log2_eq_log_two, Nat.log2_eq_log_two]
    exact Nat.log_mono_right h
  unfold excessBits
  omega

/-- Without the excess there are at most 53 bits. -/
theorem lt_two_pow_excessBits (n : Nat) : n < 2 ^ 53 * 2 ^ excessBits n := by
  have hlog : n < 2 ^ (n.log2 + 1) := Nat.lt_log2_self
  have hle : n.log2 + 1 ≤ 53 + excessBits n := by
    unfold excessBits
    omega
  calc n < 2 ^ (n.log2 + 1) := hlog
    _ ≤ 2 ^ (53 + excessBits n) := Nat.pow_le_pow_right (by decide) hle
    _ = 2 ^ 53 * 2 ^ excessBits n := Nat.pow_add 2 53 _

/-- If there is an excess, there are 53 bits besides it. -/
theorem two_pow_excessBits_le (h : 0 < excessBits n) : 2 ^ 52 * 2 ^ excessBits n ≤ n := by
  have hlog : 52 + excessBits n = n.log2 := by
    unfold excessBits at h ⊢
    omega
  have hne : n ≠ 0 := by
    rintro rfl
    exact absurd h (by decide)
  calc 2 ^ 52 * 2 ^ excessBits n = 2 ^ n.log2 := by rw [← Nat.pow_add, hlog]
    _ ≤ n := Nat.log2_self_le hne

theorem nearest53_eq (n : Nat) :
    nearest53 n = roundDiv n (2 ^ excessBits n) * 2 ^ excessBits n := rfl

/-- **The rounded size is monotone**, also where the step between neighbours doubles. -/
theorem nearest53_mono (h : m ≤ n) : nearest53 m ≤ nearest53 n := by
  have hpos (k : Nat) : 0 < 2 ^ k := Nat.two_pow_pos k
  rw [nearest53_eq, nearest53_eq]
  rcases Nat.eq_or_lt_of_le (excessBits_mono h) with heq | hlt
  · rw [heq]
    exact Nat.mul_le_mul_right _ (roundDiv_mono (hpos _) h)
  · -- a power of two lies between them that neither can pass
    have hbelow : roundDiv m (2 ^ excessBits m) ≤ 2 ^ 53 := by
      calc roundDiv m (2 ^ excessBits m)
          ≤ roundDiv (2 ^ 53 * 2 ^ excessBits m) (2 ^ excessBits m) :=
            roundDiv_mono (hpos _) (lt_two_pow_excessBits m).le
        _ = 2 ^ 53 := roundDiv_mul_right _ _ (hpos _)
    have habove : 2 ^ 52 ≤ roundDiv n (2 ^ excessBits n) := by
      calc 2 ^ 52 = roundDiv (2 ^ 52 * 2 ^ excessBits n) (2 ^ excessBits n) :=
            (roundDiv_mul_right _ _ (hpos _)).symm
        _ ≤ roundDiv n (2 ^ excessBits n) :=
            roundDiv_mono (hpos _) (two_pow_excessBits_le (Nat.zero_lt_of_lt hlt))
    calc roundDiv m (2 ^ excessBits m) * 2 ^ excessBits m
        ≤ 2 ^ 53 * 2 ^ excessBits m := Nat.mul_le_mul_right _ hbelow
      _ = 2 ^ 52 * 2 ^ (excessBits m + 1) := by ring
      _ ≤ 2 ^ 52 * 2 ^ excessBits n :=
          Nat.mul_le_mul_left _ (Nat.pow_le_pow_right (by decide) hlt)
      _ ≤ roundDiv n (2 ^ excessBits n) * 2 ^ excessBits n := Nat.mul_le_mul_right _ habove

/-- A power of two has a single bit. -/
theorem nearest53_two_pow (k : Nat) : nearest53 (2 ^ k) = 2 ^ k := by
  have hle : excessBits (2 ^ k) ≤ k := by
    unfold excessBits
    rw [Nat.log2_two_pow]
    omega
  have hsplit : 2 ^ k = 2 ^ (k - excessBits (2 ^ k)) * 2 ^ excessBits (2 ^ k) := by
    rw [← Nat.pow_add, Nat.sub_add_cancel hle]
  calc nearest53 (2 ^ k)
      = roundDiv (2 ^ (k - excessBits (2 ^ k)) * 2 ^ excessBits (2 ^ k)) (2 ^ excessBits (2 ^ k))
          * 2 ^ excessBits (2 ^ k) := by rw [← hsplit, nearest53_eq]
    _ = 2 ^ (k - excessBits (2 ^ k)) * 2 ^ excessBits (2 ^ k) := by
        rw [roundDiv_mul_right _ _ (Nat.two_pow_pos _)]
    _ = 2 ^ k := hsplit.symm

/-- **Sixty-four bits lose at most eleven**, so the rounded size is at most 1024 away. -/
theorem nearest53_near (h : n < 2 ^ 64) : nearest53 n ≤ n + 1024 ∧ n ≤ nearest53 n + 1024 := by
  have hbits : excessBits n ≤ 11 := by
    have hlog : n.log2 < 64 ∨ n = 0 := by
      rcases Nat.eq_zero_or_pos n with hzero | hpos
      · exact .inr hzero
      · exact .inl ((Nat.log2_lt hpos.ne').mpr h)
    unfold excessBits
    rcases hlog with hlog | rfl
    · omega
    · decide
  have hstep : 2 ^ excessBits n ≤ 2 ^ 11 := Nat.pow_le_pow_right (by decide) hbits
  have hnear := roundDiv_near n (Nat.two_pow_pos (excessBits n))
  rw [nearest53_eq]
  omega

end LunConsole.Decimal
