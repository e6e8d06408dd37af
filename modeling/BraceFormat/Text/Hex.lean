import BraceFormat.Text

/-!
Hexadecimal digits, written in lower case and read in either.
-/

set_option autoImplicit false
set_option relaxedAutoImplicit false

namespace BraceFormat

/-- The digits of a number, led by zeros to at least `places`. -/
def hexDigits (places n : Nat) : Text :=
  (Nat.toDigits 16 n).leftpad places '0'

def hexDigit? (c : Char) : Option Nat :=
  if c.isDigit then some (c.toNat - 0x30)
  else if 'a' ≤ c ∧ c ≤ 'f' then some (c.toNat - 0x61 + 10)
  else if 'A' ≤ c ∧ c ≤ 'F' then some (c.toNat - 0x41 + 10)
  else none

def hexNumber? : Text → Option Nat :=
  List.foldl (fun number c ↦ number.bind fun n ↦ (hexDigit? c).map (16 * n + ·)) (some 0)

end BraceFormat
