/-!
# Blanks

The characters with the property White_Space, and the texts without blanks at their ends.
-/

set_option autoImplicit false

namespace LunConsole.Text

/-- Whether a character is white space. -/
def isBlank (c : Char) : Bool :=
  let n := c.toNat
  (0x09 ≤ n && n ≤ 0x0D) || n = 0x20 || n = 0x85 || n = 0xA0 || n = 0x1680
    || (0x2000 ≤ n && n ≤ 0x200A) || n = 0x2028 || n = 0x2029 || n = 0x202F || n = 0x205F
    || n = 0x3000

/-- Drops blanks from the front. -/
def dropBlanks (s : List Char) : List Char := s.dropWhile isBlank

/-- Drops blanks from both ends. -/
def trimmed (s : List Char) : List Char := (dropBlanks (dropBlanks s).reverse).reverse

end LunConsole.Text
