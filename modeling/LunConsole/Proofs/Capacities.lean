import LunConsole.Capacity
import LunConsole.Proofs.Decimals
import LunConsole.Proofs.Rounding
import Mathlib.Tactic.Linarith
import Mathlib.Tactic.NormNum
/-!
# Sizes as they are shown

The text of a size is judged by what a reader takes from it, a decimal exactly as its digits stand
there and the unit that it counts (`Amount.read?`). What is written is what is read
(`Capacity.read?_text`), so all that remains to be said is about a number of hundredths and a unit.

**How near.** The hundredths are those of the float that holds the size, and the float is the size
itself below `2 ^ 53`. The two roundings add up: half a hundredth of a unit from the one, 1024 bytes
at most from the other (`Capacity.abs_bytes_sub_le`).

**In which order.** Two sizes with the same unit are in the order of their digits. If the units
differ, the larger unit lies between the two sizes. It is a whole number of the smaller unit and a
float, so neither rounding moves it, and neither text passes it (`Capacity.hundredths_mul_mono`).

**In which range.** The same argument keeps the number at one or above, and at 1024 or below where
there is a larger unit. It does not keep it below 1024, for the unit is chosen by the size and not by
what is shown: what lacks half a hundredth to the next unit is rounded up to it and is still counted
in the smaller one (`Capacity.lt_hundredths_iff`).
-/

set_option autoImplicit false

namespace LunConsole

open Decimal

/-! ## 1. Units -/

namespace CapacityUnit

/-- The units, from the smallest to the largest. -/
def all : List CapacityUnit := [byte, kib, mib, gib, tib, pib]

theorem bytes_eq_two_pow (u : CapacityUnit) : u.bytes = 2 ^ (10 * u.power) := by
  rw [Nat.pow_mul]
  rfl

theorem bytes_pos (u : CapacityUnit) : 0 < u.bytes := by
  rw [bytes_eq_two_pow]
  exact Nat.two_pow_pos _

/-- A unit is a multiple of every unit that is not larger. -/
theorem bytes_dvd_bytes {u v : CapacityUnit} (h : u.bytes ≤ v.bytes) : u.bytes ∣ v.bytes := by
  rw [bytes_eq_two_pow, bytes_eq_two_pow] at h ⊢
  exact Nat.pow_dvd_pow 2 ((Nat.pow_le_pow_iff_right (by decide)).mp h)

theorem exists_next {u : CapacityUnit} (h : u ≠ pib) :
    ∃ v : CapacityUnit, v.bytes = 1024 * u.bytes := by
  cases u with
  | byte => exact ⟨kib, rfl⟩
  | kib => exact ⟨mib, rfl⟩
  | mib => exact ⟨gib, rfl⟩
  | gib => exact ⟨tib, rfl⟩
  | tib => exact ⟨pib, rfl⟩
  | pib => exact absurd rfl h

variable {b c : Nat}

/-- The unit that is chosen does not exceed the size. -/
theorem bytes_forBytes_le (h : 1 ≤ b) : (forBytes b).bytes ≤ b := by
  unfold forBytes
  split_ifs with hpib htib hgib hmib hkib
  · exact hpib
  · exact htib
  · exact hgib
  · exact hmib
  · exact hkib
  · exact h

/-- **It is the largest** of the units that do not exceed the size. -/
theorem le_bytes_forBytes {u : CapacityUnit} (h : u.bytes ≤ b) :
    u.bytes ≤ (forBytes b).bytes := by
  have hkib : kib.bytes = 1024 * byte.bytes := rfl
  have hmib : mib.bytes = 1024 * kib.bytes := rfl
  have hgib : gib.bytes = 1024 * mib.bytes := rfl
  have htib : tib.bytes = 1024 * gib.bytes := rfl
  have hpib : pib.bytes = 1024 * tib.bytes := rfl
  -- each unit is compared with the one that each branch chooses
  unfold forBytes
  split_ifs <;> cases u <;> omega

theorem forBytes_mono (h : b ≤ c) : (forBytes b).bytes ≤ (forBytes c).bytes := by
  rcases Nat.eq_zero_or_pos b with rfl | hb
  · exact bytes_pos _
  · exact le_bytes_forBytes (le_trans (bytes_forBytes_le hb) h)

/-- The next unit is larger than the size. -/
theorem lt_of_forBytes_ne (h : forBytes b ≠ pib) : b < 1024 * (forBytes b).bytes := by
  obtain ⟨v, hv⟩ := exists_next h
  have hpos : 0 < (forBytes b).bytes := bytes_pos _
  by_contra hle
  have hlarger : v.bytes ≤ (forBytes b).bytes := le_bytes_forBytes (by omega)
  omega

theorem lt_pib_of_forBytes_ne (h : forBytes b ≠ pib) : b < pib.bytes := by
  by_contra hle
  exact h (if_pos (Nat.le_of_not_lt hle))

theorem le_bytes_of_ne_byte {u : CapacityUnit} (h : u ≠ byte) : 1024 ≤ u.bytes := by
  cases u with
  | byte => exact absurd rfl h
  | kib | mib | gib | tib | pib => decide

theorem forBytes_eq_byte_iff : forBytes b = byte ↔ b < 1024 := by
  constructor
  · intro h
    have hlt := lt_of_forBytes_ne (b := b) (by rw [h]; decide)
    rw [h] at hlt
    exact hlt
  · intro h
    rcases Nat.eq_zero_or_pos b with rfl | hb
    · decide
    · by_contra hne
      have hle := bytes_forBytes_le hb
      have hlarge := le_bytes_of_ne_byte hne
      omega

end CapacityUnit

/-! ## 2. A text and what it says -/

/-- A size as its text gives it: a number and the unit that it counts. -/
structure Amount where
  number : ℚ
  unit : CapacityUnit

namespace Amount

/-- The bytes that there are. -/
def bytes (a : Amount) : ℚ := a.number * a.unit.bytes

/-- Reads a size: a decimal, a blank, and the symbol of a unit. -/
def read? (text : String) : Option Amount := do
  let (number, symbol) := Text.cut ' ' text.toList
  let n ← Text.decimal? number
  let u ← CapacityUnit.all.find? fun u => ' ' :: u.symbol.toList = symbol
  some ⟨n, u⟩

end Amount

namespace Capacity

/-- The size that is meant. -/
def amount (c : Capacity) : Amount := ⟨(c.hundredths : ℚ) / 100, c.unit⟩

theorem unit_amount (c : Capacity) : c.amount.unit = c.unit := rfl

theorem bytes_amount (c : Capacity) :
    c.amount.bytes = (c.hundredths : ℚ) * c.unit.bytes / 100 := by
  rw [amount, Amount.bytes]
  ring

theorem toList_twoDigits {n : Nat} (h : n < 100) :
    (twoDigits n).toList = [(n / 10).digitChar, (n % 10).digitChar] := by
  have htens : n / 10 < 10 := by omega
  have hones : n % 10 < 10 := by omega
  rw [twoDigits, String.toList_append, Nat.toString_eq_repr, Nat.toString_eq_repr,
    Nat.toList_repr, Nat.toList_repr, Nat.toDigits_of_lt_base htens,
    Nat.toDigits_of_lt_base hones]
  rfl

theorem number?_twoDigits {n : Nat} (h : n < 100) :
    Text.number? 10 (twoDigits n).toList = some n := by
  have htens : n / 10 < 10 := by omega
  have hones : n % 10 < 10 := by omega
  have hdigits : ∀ c ∈ (twoDigits n).toList, c.isDigit = true := by
    rw [toList_twoDigits h]
    simp [htens, hones]
  have hvalue : Nat.ofDigitChars 10 (twoDigits n).toList 0 = n := by
    rw [toList_twoDigits h, Nat.ofDigitChars_cons_digitChar_of_lt_ten htens,
      Nat.ofDigitChars_cons_digitChar_of_lt_ten hones, Nat.ofDigitChars_nil]
    omega
  have hne : (twoDigits n).toList ≠ [] := by
    rw [toList_twoDigits h]
    exact List.cons_ne_nil _ _
  rw [Text.number?_of_isDigit hne hdigits, hvalue]

/-- A number of hundredths is its whole part and the rest. -/
theorem hundredths_eq (c : Capacity) :
    (c.hundredths : ℚ) / 100
      = ((c.hundredths / 100 : Nat) : ℚ) + ((c.hundredths % 100 : Nat) : ℚ) / 10 ^ 2 := by
  have hsplit : ((100 * (c.hundredths / 100) + c.hundredths % 100 : Nat) : ℚ) = c.hundredths := by
    rw [Nat.div_add_mod]
  push_cast at hsplit
  linarith

theorem decimal?_number (c : Capacity) (h : c.unit = .byte → c.hundredths % 100 = 0) :
    Text.decimal? c.number.toList = some ((c.hundredths : ℚ) / 100) := by
  have hlt : c.hundredths % 100 < 100 := Nat.mod_lt _ (by decide)
  by_cases hunit : c.unit = .byte
  · have hwhole : c.number = toString (c.hundredths / 100) := by rw [number, hunit]
    rw [hwhole, Text.decimal?_toString, hundredths_eq, h hunit]
    simp
  · have hparts : c.number.toList = (toString (c.hundredths / 100)).toList
        ++ '.' :: (twoDigits (c.hundredths % 100)).toList := by
      have hnumber : c.number = toString (c.hundredths / 100) ++ "."
          ++ twoDigits (c.hundredths % 100) := by
        rw [number]
        split
        · contradiction
        · rfl
      rw [hnumber, String.toList_append, String.toList_append, List.append_assoc]
      rfl
    rw [hparts, Text.decimal?_append _ (number?_twoDigits hlt), hundredths_eq, toList_twoDigits hlt]
    rfl

/-- There is no blank in the number. -/
theorem not_mem_number (c : Capacity) : ' ' ∉ c.number.toList := by
  have hwhole : ' ' ∉ (toString (c.hundredths / 100)).toList := Text.not_mem_toString rfl
  have htens : ' ' ∉ (toString (c.hundredths % 100 / 10)).toList := Text.not_mem_toString rfl
  have hones : ' ' ∉ (toString (c.hundredths % 100 % 10)).toList := Text.not_mem_toString rfl
  rw [number]
  split
  · exact hwhole
  · simp only [twoDigits, String.toList_append, List.mem_append, not_or]
    exact ⟨⟨hwhole, by decide⟩, htens, hones⟩

theorem find?_symbol (u : CapacityUnit) :
    (CapacityUnit.all.find? fun v => ' ' :: v.symbol.toList = ' ' :: u.symbol.toList)
      = some u := by
  cases u <;> decide

/-- **What is written is what is read.** -/
theorem read?_text (c : Capacity) (h : c.unit = .byte → c.hundredths % 100 = 0) :
    Amount.read? c.text = some c.amount := by
  have hparts : c.text.toList = c.number.toList ++ ' ' :: c.unit.symbol.toList := by
    rw [text, String.toList_append, String.toList_append, List.append_assoc]
    rfl
  rw [Amount.read?, hparts, Text.cut_append c.not_mem_number]
  dsimp only
  rw [decimal?_number c h, find?_symbol]
  rfl

/-! ## 3. The digits -/

section Digits

open CapacityUnit (forBytes)

variable (b c : UInt64)

theorem unit_ofBytes : (ofBytes b).unit = forBytes b.toNat := rfl

theorem hundredths_ofBytes :
    (ofBytes b).hundredths
      = roundDiv (100 * nearest53 b.toNat) (forBytes b.toNat).bytes := rfl

/-- A size below one KiB is shown as it is. -/
theorem hundredths_of_lt (h : b.toNat < 1024) : (ofBytes b).hundredths = 100 * b.toNat := by
  have hsmall : b.toNat < Nat.pow 2 53 := lt_trans h (by decide)
  have hround := roundDiv_mul_right (100 * b.toNat) 1 Nat.one_pos
  rw [hundredths_ofBytes, CapacityUnit.forBytes_eq_byte_iff.mpr h, nearest53_of_lt hsmall]
  rwa [Nat.mul_one] at hround

/-- **The text says** how many hundredths there are, and of which unit. -/
theorem read?_formatCapacity : Amount.read? (formatCapacity b) = some (ofBytes b).amount := by
  refine read?_text _ fun hunit => ?_
  rw [hundredths_of_lt b (CapacityUnit.forBytes_eq_byte_iff.mp hunit)]
  exact Nat.mul_mod_right 100 _

/-- A whole number of units is a float. -/
theorem nearest53_bytes (u : CapacityUnit) : nearest53 u.bytes = u.bytes := by
  rw [CapacityUnit.bytes_eq_two_pow, nearest53_two_pow]

variable {b c}

/-- A size is shown as one unit at least, for that unit does not exceed it. -/
theorem hundred_le_hundredths (h : 1 ≤ b.toNat) : 100 ≤ (ofBytes b).hundredths := by
  have hpos := CapacityUnit.bytes_pos (forBytes b.toNat)
  have hle : (forBytes b.toNat).bytes ≤ nearest53 b.toNat := by
    rw [← nearest53_bytes]
    exact nearest53_mono (CapacityUnit.bytes_forBytes_le h)
  calc 100 = roundDiv (100 * (forBytes b.toNat).bytes) _ :=
        (roundDiv_mul_right 100 _ hpos).symm
    _ ≤ (ofBytes b).hundredths := roundDiv_mono hpos (Nat.mul_le_mul_left 100 hle)

/-- A size is not shown as more than a larger unit, if it does not exceed that unit. -/
theorem hundredths_mul_le {v : CapacityUnit} (hv : b.toNat ≤ v.bytes)
    (hdvd : (forBytes b.toNat).bytes ∣ v.bytes) :
    (ofBytes b).hundredths * (forBytes b.toNat).bytes ≤ 100 * v.bytes := by
  have hpos := CapacityUnit.bytes_pos (forBytes b.toNat)
  have hle : nearest53 b.toNat ≤ v.bytes := by
    rw [← nearest53_bytes v]
    exact nearest53_mono hv
  obtain ⟨k, hk⟩ := hdvd
  have hround : (ofBytes b).hundredths ≤ 100 * k := by
    calc (ofBytes b).hundredths
        ≤ roundDiv (100 * v.bytes) (forBytes b.toNat).bytes :=
          roundDiv_mono hpos (Nat.mul_le_mul_left 100 hle)
      _ = roundDiv (100 * k * (forBytes b.toNat).bytes) (forBytes b.toNat).bytes := by
          rw [hk, Nat.mul_assoc, Nat.mul_comm k]
      _ = 100 * k := roundDiv_mul_right _ _ hpos
  calc (ofBytes b).hundredths * (forBytes b.toNat).bytes
      ≤ 100 * k * (forBytes b.toNat).bytes := Nat.mul_le_mul_right _ hround
    _ = 100 * v.bytes := by rw [hk, Nat.mul_assoc, Nat.mul_comm k]

/-- **A larger size is not shown as less.** With the same unit it is a matter of the digits. If the
units differ, the larger unit stands between the two sizes, and neither text passes it. -/
theorem hundredths_mul_mono (h : b.toNat ≤ c.toNat) :
    (ofBytes b).hundredths * (forBytes b.toNat).bytes
      ≤ (ofBytes c).hundredths * (forBytes c.toNat).bytes := by
  rcases Nat.eq_or_lt_of_le (CapacityUnit.forBytes_mono h) with heq | hlt
  · have hdigits : (ofBytes b).hundredths ≤ (ofBytes c).hundredths := by
      rw [hundredths_ofBytes, hundredths_ofBytes, heq]
      exact roundDiv_mono (CapacityUnit.bytes_pos _)
        (Nat.mul_le_mul_left 100 (nearest53_mono h))
    rw [heq]
    exact Nat.mul_le_mul_right _ hdigits
  · have hbelow : b.toNat < (forBytes c.toNat).bytes := by
      by_contra hle
      have hlarger := CapacityUnit.le_bytes_forBytes (Nat.le_of_not_lt hle)
      omega
    -- a size of nothing has the smallest unit, and no unit is below that
    have hunit := CapacityUnit.bytes_pos (forBytes b.toNat)
    have hc : 1 ≤ c.toNat := by
      by_contra hzero
      have hbyte : forBytes c.toNat = .byte :=
        CapacityUnit.forBytes_eq_byte_iff.mpr (by omega)
      rw [hbyte] at hlt
      have hone : CapacityUnit.byte.bytes = 1 := rfl
      omega
    calc (ofBytes b).hundredths * (forBytes b.toNat).bytes
        ≤ 100 * (forBytes c.toNat).bytes :=
          hundredths_mul_le hbelow.le (CapacityUnit.bytes_dvd_bytes hlt.le)
      _ ≤ (ofBytes c).hundredths * (forBytes c.toNat).bytes :=
          Nat.mul_le_mul_right _ (hundred_le_hundredths hc)

/-- **The text is off** by half a hundredth of the unit at most, and by what the float is off. -/
theorem abs_bytes_sub_le {e : Nat} (hlow : nearest53 b.toNat ≤ b.toNat + e)
    (hhigh : b.toNat ≤ nearest53 b.toNat + e) :
    |(ofBytes b).amount.bytes - b.toNat| ≤ ((ofBytes b).amount.unit.bytes : ℚ) / 200 + e := by
  have hnear := roundDiv_near (100 * nearest53 b.toNat) (CapacityUnit.bytes_pos (forBytes b.toNat))
  rw [← hundredths_ofBytes, ← unit_ofBytes] at hnear
  have habove : 2 * ((ofBytes b).hundredths * (ofBytes b).unit.bytes)
      ≤ 200 * (b.toNat + e) + (ofBytes b).unit.bytes := by omega
  have hbelow : 200 * b.toNat ≤ 2 * ((ofBytes b).hundredths * (ofBytes b).unit.bytes)
      + (ofBytes b).unit.bytes + 200 * e := by omega
  have habove' := Nat.cast_le (α := ℚ) |>.mpr habove
  have hbelow' := Nat.cast_le (α := ℚ) |>.mpr hbelow
  push_cast at habove' hbelow'
  rw [bytes_amount, unit_amount, abs_le]
  constructor
  · linarith
  · linarith

/-- Where there is a next unit, no more than 1024 of this one are shown. -/
theorem hundredths_le (hunit : forBytes b.toNat ≠ .pib) :
    (ofBytes b).hundredths ≤ 102400 := by
  have hpos := CapacityUnit.bytes_pos (forBytes b.toNat)
  have hlt := CapacityUnit.lt_of_forBytes_ne hunit
  obtain ⟨v, hv⟩ := CapacityUnit.exists_next hunit
  have hle : (ofBytes b).hundredths * (forBytes b.toNat).bytes ≤ 100 * v.bytes :=
    hundredths_mul_le (by omega) ⟨1024, by omega⟩
  rw [hv, ← Nat.mul_assoc] at hle
  exact Nat.le_of_mul_le_mul_right hle hpos

/-- **That many are shown** exactly where the next unit is half a hundredth away at most. A float
holds such a size, so the digits are rounded once only. -/
theorem lt_hundredths_iff (hunit : forBytes b.toNat ≠ .pib) :
    102399 < (ofBytes b).hundredths ↔
      (1024 - 1 / 200) * ((forBytes b.toNat).bytes : ℚ) ≤ b.toNat := by
  have hpos := CapacityUnit.bytes_pos (forBytes b.toNat)
  have hexact : nearest53 b.toNat = b.toNat :=
    nearest53_of_lt (lt_trans (CapacityUnit.lt_pib_of_forBytes_ne hunit) (by decide))
  have hwhole : (1024 - 1 / 200) * ((forBytes b.toNat).bytes : ℚ) ≤ b.toNat ↔
      204799 * (forBytes b.toNat).bytes ≤ 200 * b.toNat := by
    rw [← Nat.cast_le (α := ℚ)]
    push_cast
    constructor
    · intro h
      linarith
    · intro h
      linarith
  rw [hwhole, hundredths_ofBytes, hexact, lt_roundDiv_iff hpos]
  omega

end Digits

end Capacity

/-! ## 4. What is shown -/

namespace Amount

/-- Every size has a text that says a number of units. The unit is the largest that does not exceed
the size, and below one KiB, where the unit is the byte, the number is the size itself. The size that
the text says differs from the one that is shown by half a hundredth of a unit at most as long as a
float holds the size, and by up to 1024 bytes more from there on. A larger size is never shown as
less than a smaller one. -/
theorem sizes_shown_nearly_and_in_order :
    (∀ b : UInt64, ∃ a, read? (formatCapacity b) = some a ∧
        (b.toNat < 1024 → a.unit = .byte ∧ a.number = b.toNat) ∧
        (1024 ≤ b.toNat → a.unit.bytes ≤ b.toNat ∧
          ∀ u : CapacityUnit, u.bytes ≤ b.toNat → u.bytes ≤ a.unit.bytes) ∧
        (b.toNat < 2 ^ 53 → |a.bytes - b.toNat| ≤ a.unit.bytes / 200) ∧
        (2 ^ 53 ≤ b.toNat → |a.bytes - b.toNat| ≤ a.unit.bytes / 200 + 1024)) ∧
      ∀ b c : UInt64, b ≤ c → ∃ x y, read? (formatCapacity b) = some x ∧
        read? (formatCapacity c) = some y ∧ x.bytes ≤ y.bytes := by
  constructor
  · intro b
    refine ⟨_, Capacity.read?_formatCapacity b, ?_, ?_, ?_, ?_⟩
    · intro hsmall
      refine ⟨CapacityUnit.forBytes_eq_byte_iff.mpr hsmall, ?_⟩
      rw [Capacity.amount, Capacity.hundredths_of_lt b hsmall]
      push_cast
      ring
    · intro hlarge
      exact ⟨CapacityUnit.bytes_forBytes_le (le_trans (by decide) hlarge),
        fun u hu => CapacityUnit.le_bytes_forBytes hu⟩
    · intro hfloat
      have hexact : nearest53 b.toNat = b.toNat := nearest53_of_lt hfloat
      simpa using Capacity.abs_bytes_sub_le (e := 0) hexact.le hexact.ge
    · intro _
      obtain ⟨hlow, hhigh⟩ := nearest53_near b.toNat_lt
      exact_mod_cast Capacity.abs_bytes_sub_le hlow hhigh
  · intro b c h
    refine ⟨_, _, Capacity.read?_formatCapacity b, Capacity.read?_formatCapacity c, ?_⟩
    have hmono := Capacity.hundredths_mul_mono (UInt64.le_iff_toNat_le.mp h)
    have hcast := Nat.cast_le (α := ℚ) |>.mpr hmono
    push_cast at hcast
    rw [Capacity.bytes_amount, Capacity.bytes_amount]
    exact div_le_div_of_nonneg_right hcast (by norm_num)

/-- At a unit the two texts may say the same: one byte less than a MiB is rounded up to it. -/
theorem sizes_shown_nearly_and_in_order_below_unit :
    (1048575 : UInt64) ≤ 1048576 ∧ formatCapacity 1048575 = "1024.00 KiB" ∧
      formatCapacity 1048576 = "1.00 MiB" ∧
      ∃ x y, read? (formatCapacity 1048575) = some x ∧
        read? (formatCapacity 1048576) = some y ∧ x.bytes ≤ y.bytes :=
  ⟨by decide, by decide +kernel, by decide +kernel,
    sizes_shown_nearly_and_in_order.2 1048575 1048576 (by decide)⟩

/-- From one KiB on the number that is shown is at least one. Where there is a larger unit it is
below 1024, except that a size which lacks half a hundredth of a unit or less to the next one is
shown as 1024. -/
theorem number_shown_within_unit (b : UInt64) (hb : 1024 ≤ b.toNat) :
    ∃ a, read? (formatCapacity b) = some a ∧ 1 ≤ a.number ∧
      (a.unit ∈ [.kib, .mib, .gib, .tib] →
        (b.toNat < (1024 - 1 / 200) * (a.unit.bytes : ℚ) → a.number < 1024) ∧
        ((1024 - 1 / 200) * (a.unit.bytes : ℚ) ≤ b.toNat → a.number = 1024)) := by
  refine ⟨_, Capacity.read?_formatCapacity b, ?_, ?_⟩
  · have hone := Capacity.hundred_le_hundredths (b := b) (le_trans (by decide) hb)
    have hcast : (100 : ℚ) ≤ (Capacity.ofBytes b).hundredths := by exact_mod_cast hone
    rw [Capacity.amount, le_div_iff₀ (by norm_num)]
    linarith
  · intro hunit
    rw [Capacity.unit_amount, Capacity.unit_ofBytes] at hunit ⊢
    have hne : CapacityUnit.forBytes b.toNat ≠ .pib := by
      intro hpib
      rw [hpib] at hunit
      exact absurd hunit (by decide)
    have hle := Capacity.hundredths_le hne
    have hiff := Capacity.lt_hundredths_iff hne
    rw [Capacity.amount]
    constructor
    · intro hfar
      have hfew : ¬ 102399 < (Capacity.ofBytes b).hundredths := by
        rw [hiff]
        exact not_le.mpr hfar
      have hcast : ((Capacity.ofBytes b).hundredths : ℚ) ≤ 102399 := by
        exact_mod_cast Nat.le_of_not_lt hfew
      rw [div_lt_iff₀ (by norm_num)]
      linarith
    · intro hnear
      have hall : (Capacity.ofBytes b).hundredths = 102400 :=
        Nat.le_antisymm hle (hiff.mpr hnear)
      rw [hall]
      norm_num

/-- One byte less than a MiB is within half a hundredth of a KiB of it. -/
theorem number_shown_within_unit_rounded_up :
    1024 ≤ (1048575 : UInt64).toNat ∧
      ∃ a, read? (formatCapacity 1048575) = some a ∧ 1 ≤ a.number ∧
        (a.unit ∈ [.kib, .mib, .gib, .tib] →
          ((1048575 : UInt64).toNat < (1024 - 1 / 200) * (a.unit.bytes : ℚ) → a.number < 1024) ∧
          ((1024 - 1 / 200) * (a.unit.bytes : ℚ) ≤ (1048575 : UInt64).toNat →
            a.number = 1024)) :=
  ⟨by decide, number_shown_within_unit 1048575 (by decide)⟩

/-- It is shown as 1024 KiB, although there is a larger unit. -/
theorem number_shown_reaches_next_unit :
    formatCapacity 1048575 = "1024.00 KiB" ∧
      ¬ ∀ b : UInt64, 1024 ≤ b.toNat → ∃ a, read? (formatCapacity b) = some a ∧
        1 ≤ a.number ∧ (a.unit ∈ [.kib, .mib, .gib, .tib] → a.number < 1024) := by
  refine ⟨by decide +kernel, fun hall => ?_⟩
  obtain ⟨a, hread, -, hlt⟩ := hall 1048575 (by decide)
  have hshown : Capacity.ofBytes 1048575 = ⟨102400, .kib⟩ := by decide +kernel
  rw [Capacity.read?_formatCapacity, hshown] at hread
  obtain rfl := Option.some.inj hread
  have hbelow := hlt (by decide)
  rw [Capacity.amount] at hbelow
  norm_num at hbelow

end Amount

end LunConsole
