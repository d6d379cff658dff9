/-!
# Numbers in digits

What digits in a base of at most sixteen write. The letters among the digits may have either case.
-/

set_option autoImplicit false

namespace LunConsole.Text

/-- The value of a hexadecimal digit. -/
def hexDigit? (c : Char) : Option Nat :=
  if c.isDigit then some (c.toNat - '0'.toNat)
  else if 'a' ≤ c ∧ c ≤ 'f' then some (c.toNat - 'a'.toNat + 10)
  else if 'A' ≤ c ∧ c ≤ 'F' then some (c.toNat - 'A'.toNat + 10)
  else none

/-- The value of a digit in a base. -/
def digit? (base : Nat) (c : Char) : Option Nat := (hexDigit? c).filter (· < base)

/-- The number that digits write; there has to be at least one. -/
def number? (base : Nat) (s : List Char) : Option Nat :=
  if s.isEmpty then none
  else s.foldlM (fun n c => (digit? base c).map fun d => base * n + d) 0

/-- The number that digits write, if it has at most 64 bits. -/
def word? (base : Nat) (s : List Char) : Option UInt64 := do
  let n ← number? base s
  if n < UInt64.size then some (UInt64.ofNat n) else none

end LunConsole.Text
