import LunConsole.Text.Digits
import Mathlib.Algebra.Order.Field.Rat
import Mathlib.Data.List.TakeWhile
/-!
# Reading decimals

A number that is shown with a fraction stands in its text in three parts: the digits of the whole,
a point, and the digits of the fraction. To say what such a text means it is read back, into a
rational number and not into a float, so that nothing is lost a second time (`Text.decimal?`).

The parts are found by cutting the text where a separator first occurs. That this gives the parts
back is due to what they consist of: no digit is a separator, so the first one is the one that was
put there (`Text.cut_append`). The digits themselves are those that write a natural number, and
they write that number again when they are read (`Text.number?_toString`).
-/

set_option autoImplicit false

namespace LunConsole.Text

/-! ## 1. Digits -/

theorem digit?_of_isDigit {c : Char} (h : c.isDigit = true) :
    digit? 10 c = some (c.toNat - '0'.toNat) := by
  have hle : c.toNat ≤ 57 := by
    simp only [Char.isDigit, Bool.and_eq_true, decide_eq_true_eq] at h
    exact h.2
  have hlt : c.toNat - '0'.toNat < 10 := by
    have hzero : '0'.toNat = 48 := rfl
    omega
  rw [digit?, hexDigit?, if_pos h, Option.filter_some, if_pos (decide_eq_true hlt)]

/-- Each digit adds to ten times what the digits before it write. The induction leaves open what
that is, since the first digit of the rest stands behind others already. -/
theorem foldlM_digit? {s : List Char} (h : ∀ c ∈ s, c.isDigit = true) (n : Nat) :
    s.foldlM (fun n c => (digit? 10 c).map fun d => 10 * n + d) n
      = some (Nat.ofDigitChars 10 s n) := by
  induction s generalizing n with
  | nil => rfl
  | cons c s ih =>
      obtain ⟨hc, hs⟩ := List.forall_mem_cons.mp h
      rw [List.foldlM_cons, digit?_of_isDigit hc, Nat.ofDigitChars_cons]
      exact ih hs _

theorem number?_of_isDigit {s : List Char} (hne : s ≠ []) (h : ∀ c ∈ s, c.isDigit = true) :
    number? 10 s = some (Nat.ofDigitChars 10 s 0) := by
  have hsome : ¬ s.isEmpty = true := by simpa using hne
  rw [number?, if_neg hsome, foldlM_digit? h]

theorem isDigit_of_mem_toString {n : Nat} {c : Char} (h : c ∈ (toString n).toList) :
    c.isDigit = true := by
  rw [Nat.toString_eq_repr, Nat.toList_repr] at h
  exact Nat.isDigit_of_mem_toDigits (by decide) (by decide) h

/-- A character that is no digit does not stand among the digits of a number. -/
theorem not_mem_toString {n : Nat} {c : Char} (h : c.isDigit = false) :
    c ∉ (toString n).toList := by
  intro hmem
  rw [isDigit_of_mem_toString hmem] at h
  exact Bool.noConfusion h

/-- **A number is read back** from its digits. -/
theorem number?_toString (n : Nat) : number? 10 (toString n).toList = some n := by
  have hne : (toString n).toList ≠ [] := by
    rw [Nat.toString_eq_repr, Nat.toList_repr]
    exact Nat.toDigits_ne_nil
  rw [number?_of_isDigit hne fun _ => isDigit_of_mem_toString, Nat.toString_eq_repr,
    Nat.toList_repr, Nat.ofDigitChars_ten_toDigits]

/-! ## 2. Parts of a text -/

section Cut

variable {separator : Char} {s : List Char}

/-- What stands before the first separator, and all that follows from there on. -/
def cut (separator : Char) (s : List Char) : List Char × List Char :=
  (s.takeWhile (· != separator), s.dropWhile (· != separator))

theorem ne_separator (h : separator ∉ s) : ∀ c ∈ s, (c != separator) = true := by
  intro c hc
  rw [bne_iff_ne]
  rintro rfl
  exact h hc

/-- **The parts are given back** if there is no separator in the first one. -/
theorem cut_append (h : separator ∉ s) (rest : List Char) :
    cut separator (s ++ separator :: rest) = (s, separator :: rest) := by
  rw [cut, List.takeWhile_append_of_pos (ne_separator h),
    List.dropWhile_append_of_pos (ne_separator h)]
  simp

theorem cut_of_not_mem (h : separator ∉ s) : cut separator s = (s, []) := by
  rw [cut, List.takeWhile_eq_self_iff.mpr (ne_separator h),
    List.dropWhile_eq_nil_iff.mpr (ne_separator h)]

end Cut

/-! ## 3. Decimals -/

/-- The number that a decimal writes: digits, and if a point follows them the digits of a
fraction. -/
def decimal? (s : List Char) : Option ℚ :=
  match cut '.' s with
  | (whole, []) => do
      let n ← number? 10 whole
      some (n : ℚ)
  | (whole, _ :: fraction) => do
      let n ← number? 10 whole
      let f ← number? 10 fraction
      some (n + f / 10 ^ fraction.length)

theorem decimal?_toString (n : Nat) : decimal? (toString n).toList = some (n : ℚ) := by
  have hcut := cut_of_not_mem (not_mem_toString (n := n) (c := '.') rfl)
  rw [decimal?, hcut]
  dsimp only
  rw [number?_toString]
  rfl

theorem decimal?_append (n : Nat) {fraction : List Char} {f : Nat}
    (hf : number? 10 fraction = some f) :
    decimal? ((toString n).toList ++ '.' :: fraction)
      = some ((n : ℚ) + f / 10 ^ fraction.length) := by
  have hcut := cut_append (not_mem_toString (n := n) (c := '.') rfl) fraction
  rw [decimal?, hcut]
  dsimp only
  rw [number?_toString, hf]
  rfl

end LunConsole.Text
