import BraceFormat.Text

/-!
Whole numbers in decimal digits. A numeral is read or written only up to `maxDigits` digits, its
sign not counted and its leading zeros counted; a longer run of digits stays text.
-/

set_option autoImplicit false
set_option relaxedAutoImplicit false

namespace BraceFormat.Numeral

def maxDigits : Nat := 4300

/-- The number that a run of decimal digits denotes. -/
def value (digits : Text) : Nat :=
  Nat.ofDigitChars 10 digits 0

def read? (digits : Text) : Option Nat :=
  if digits.length ≤ maxDigits then some (value digits) else none

def ofNat (n : Nat) : Text :=
  Nat.toDigits 10 n

def ofInt (n : Int) : Text :=
  if n < 0 then '-' :: ofNat n.natAbs else ofNat n.natAbs

/-- Numbers whose numeral has at most `maxDigits` digits. -/
def Writable (n : Int) : Prop :=
  n.natAbs < 10 ^ maxDigits

instance (n : Int) : Decidable (Writable n) :=
  inferInstanceAs (Decidable (n.natAbs < 10 ^ maxDigits))

@[simp] theorem value_ofNat (n : Nat) : value (ofNat n) = n :=
  Nat.ofDigitChars_ten_toDigits

theorem isDigit_of_mem_ofNat {n : Nat} {c : Char} (h : c ∈ ofNat n) : c.isDigit = true :=
  Nat.isDigit_of_mem_toDigits (by decide) (by decide) h

theorem length_ofNat_le_iff {n : Nat} : (ofNat n).length ≤ maxDigits ↔ n < 10 ^ maxDigits :=
  Nat.length_toDigits_le_iff (by decide) (by decide)

theorem read?_ofNat {n : Nat} (h : Writable n) : read? (ofNat n) = some n := by
  have h' : n < 10 ^ maxDigits := h
  simp [read?, length_ofNat_le_iff.mpr h']

end BraceFormat.Numeral
