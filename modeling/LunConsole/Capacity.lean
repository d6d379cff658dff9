import LunConsole.Decimal.Rounding
/-!
# Capacity of a device

A size in bytes is shown in the largest binary unit that does not exceed it, with two decimals:
`1610612736` is `1.50 GiB`. Below one KiB the count of bytes is shown as it is.

The digits are computed from the size as a binary float holds it, that is to 53 significant bits.
Dividing that by the unit is exact, a unit being a power of two, so the two decimals are the
exact quotient rounded once more, with a half to the even neighbour: `1152` bytes are `1.125` KiB
and print as `1.12 KiB`. The unit on the other hand is chosen from the size itself.
-/

set_option autoImplicit false

namespace LunConsole

/-- The units a size is shown in, each 1024 times the one before. -/
inductive CapacityUnit where
  | byte | kib | mib | gib | tib | pib
  deriving DecidableEq, Repr

namespace CapacityUnit

/-- How many factors of 1024 the unit stands for. -/
def power : CapacityUnit → Nat
  | byte => 0
  | kib => 1
  | mib => 2
  | gib => 3
  | tib => 4
  | pib => 5

/-- The bytes in one unit. -/
def bytes (u : CapacityUnit) : Nat := Nat.pow 1024 u.power

/-- The symbol printed after the number. -/
def symbol : CapacityUnit → String
  | byte => "B"
  | kib => "KiB"
  | mib => "MiB"
  | gib => "GiB"
  | tib => "TiB"
  | pib => "PiB"

/-- The largest unit not exceeding `b` bytes. -/
def forBytes (b : Nat) : CapacityUnit :=
  if pib.bytes ≤ b then pib
  else if tib.bytes ≤ b then tib
  else if gib.bytes ≤ b then gib
  else if mib.bytes ≤ b then mib
  else if kib.bytes ≤ b then kib
  else byte

end CapacityUnit

/-- A size as it is shown: a number of hundredths of a unit. -/
structure Capacity where
  hundredths : Nat
  unit : CapacityUnit
  deriving DecidableEq, Repr

namespace Capacity

/-- The size `b` in the unit it is shown in, to the nearest hundredth. -/
def ofBytes (b : UInt64) : Capacity :=
  let unit := CapacityUnit.forBytes b.toNat
  { hundredths := Decimal.roundDiv (100 * Decimal.nearest53 b.toNat) unit.bytes
    unit }

/-- A number below one hundred in exactly two digits. -/
def twoDigits (n : Nat) : String := toString (n / 10) ++ toString (n % 10)

/-- The digits of the number: two decimals, except for a count of bytes, which is whole. -/
def number (c : Capacity) : String :=
  match c.unit with
  | .byte => toString (c.hundredths / 100)
  | _ => toString (c.hundredths / 100) ++ "." ++ twoDigits (c.hundredths % 100)

/-- The number, a space and the unit. -/
def text (c : Capacity) : String := c.number ++ " " ++ c.unit.symbol

end Capacity

/-- The text shown for a size in bytes. -/
def formatCapacity (b : UInt64) : String := (Capacity.ofBytes b).text

end LunConsole
