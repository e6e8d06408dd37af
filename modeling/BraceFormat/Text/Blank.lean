import BraceFormat.Text

/-!
Blanks are the characters that carry no ink and separate words: the ASCII layout characters, the
four separators below the space, the space, and the spaces of other scripts. The characters that
only join or break without a width (`U+180E`, `U+200B`, `U+FEFF`) are not among them.
-/

set_option autoImplicit false
set_option relaxedAutoImplicit false

namespace BraceFormat

def isBlank (c : Char) : Bool :=
  let n := c.toNat
  (0x09 ≤ n && n ≤ 0x0D) || (0x1C ≤ n && n ≤ 0x20) || n == 0x85 || n == 0xA0 || n == 0x1680 ||
    (0x2000 ≤ n && n ≤ 0x200A) || n == 0x2028 || n == 0x2029 || n == 0x202F || n == 0x205F ||
    n == 0x3000

/-- Blanks other than the four separators below the space. -/
def isSpacing (c : Char) : Bool :=
  isBlank c && !(0x1C ≤ c.toNat && c.toNat ≤ 0x1F)

/-- The text without the characters of a class at both ends. -/
def trim (inClass : Char → Bool) (text : Text) : Text :=
  ((text.dropWhile inClass).reverse.dropWhile inClass).reverse

/-- The text without the blanks at both ends. -/
def strip (text : Text) : Text :=
  trim isBlank text

end BraceFormat
