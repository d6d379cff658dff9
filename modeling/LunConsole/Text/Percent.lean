/-!
# Percent encoding

A path segment may write any byte as a percent sign and two hexadecimal digits. A percent sign
that is not followed by two such digits stands for itself, and so does a plus sign. The bytes
have to form UTF-8 in the end.
-/

set_option autoImplicit false

namespace LunConsole.Text

/-- The value of a byte that is a hexadecimal digit. -/
def hexByte? (b : UInt8) : Option UInt8 :=
  if 48 ≤ b ∧ b ≤ 57 then some (b - 48)
  else if 97 ≤ b ∧ b ≤ 102 then some (b - 87)
  else if 65 ≤ b ∧ b ≤ 70 then some (b - 55)
  else none

/-- The bytes that an encoded text stands for. -/
def percentBytes : List UInt8 → List UInt8
  | 37 :: a :: b :: r =>
      match hexByte? a, hexByte? b with
      | some x, some y => (x * 16 + y) :: percentBytes r
      | _, _ => 37 :: percentBytes (a :: b :: r)
  | b :: r => b :: percentBytes r
  | [] => []

/-- The text that an encoded text stands for; `none` if its bytes are not UTF-8. -/
def percentDecode? (s : String) : Option String :=
  String.fromUTF8? (ByteArray.mk (percentBytes s.toUTF8.toList).toArray)

end LunConsole.Text
