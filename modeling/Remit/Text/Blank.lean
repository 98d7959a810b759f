import Remit.Text.Basic

/-!
# Blanks

The white space of Unicode, the four ASCII separators among it, and stripping text of it.
-/

namespace Remit.Text

/-- Is the code point white space? -/
def isBlank (c : CodePoint) : Bool :=
  let n := c.val
  (0x09 ≤ n && n ≤ 0x0d) || (0x1c ≤ n && n ≤ 0x20) || n == 0x85 || n == 0xa0 || n == 0x1680 ||
    (0x2000 ≤ n && n ≤ 0x200a) || n == 0x2028 || n == 0x2029 || n == 0x202f || n == 0x205f || n == 0x3000

/-- Text without white space at either end. -/
def strip (t : Text) : Text := trim isBlank t

/-- Is the code point skipped around a number? The four ASCII separators are not. -/
def isNumberBlank (c : CodePoint) : Bool := isBlank c && !(0x1c ≤ c.val && c.val ≤ 0x1f)

end Remit.Text
