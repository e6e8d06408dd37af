import BraceFormat.Number.Numeral

/-!
# Numerals read and written

A run of digits stays below the power of ten of its length, so what is read from a numeral that is
short enough can be written again. The numeral of a positive number has no zero in front, which is
what keeps it apart from a zero that asks for padding.
-/

set_option autoImplicit false
set_option relaxedAutoImplicit false

namespace BraceFormat.Numeral

/-- A run of decimal digits, at least one. -/
def IsNumeral (text : Text) : Prop :=
  text ≠ [] ∧ ∀ c ∈ text, c.isDigit = true

theorem ofDigitChars_lt {digits : Text} (h : ∀ c ∈ digits, c.isDigit = true) (start : Nat) :
    Nat.ofDigitChars 10 digits start < (start + 1) * 10 ^ digits.length := by
  induction digits generalizing start with
  | nil => simp
  | cons c rest ih =>
    have hc : c.toNat - '0'.toNat < 10 := by
      have hdigit := h c List.mem_cons_self
      simp only [Char.isDigit, Bool.and_eq_true, decide_eq_true_eq,
        UInt32.le_iff_toNat_le] at hdigit
      have htop : c.toNat ≤ 57 := hdigit.2
      have hzero : '0'.toNat = 48 := rfl
      omega
    rw [Nat.ofDigitChars_cons]
    have hrest := ih (fun d hd ↦ h d (List.mem_cons_of_mem c hd))
      (10 * start + (c.toNat - '0'.toNat))
    calc Nat.ofDigitChars 10 rest (10 * start + (c.toNat - '0'.toNat))
        < (10 * start + (c.toNat - '0'.toNat) + 1) * 10 ^ rest.length := hrest
      _ ≤ (10 * (start + 1)) * 10 ^ rest.length := Nat.mul_le_mul_right _ (by omega)
      _ = (start + 1) * 10 ^ (c :: rest).length := by
        rw [List.length_cons, Nat.pow_succ, Nat.mul_comm 10, Nat.mul_assoc,
          Nat.mul_comm 10 (10 ^ rest.length)]

/-- A run of digits denotes a number below the power of ten of its length. -/
theorem value_lt {digits : Text} (h : ∀ c ∈ digits, c.isDigit = true) :
    value digits < 10 ^ digits.length := by
  simpa [value] using ofDigitChars_lt h 0

theorem lt_pow_length_ofNat (n : Nat) : n < 10 ^ (ofNat n).length := by
  simpa using value_lt fun c hc ↦ isDigit_of_mem_ofNat (n := n) hc

theorem length_ofNat_pos (n : Nat) : 0 < (ofNat n).length :=
  Nat.length_toDigits_pos

/-- The numeral of a positive number is as short as can be. -/
theorem pow_length_ofNat_le {n : Nat} (h : 0 < n) : 10 ^ ((ofNat n).length - 1) ≤ n := by
  by_cases hone : (ofNat n).length = 1
  · rw [hone]
    exact h
  · have hlength := length_ofNat_pos n
    have hpos : 0 < (ofNat n).length - 1 := by omega
    have hshort : ¬ (ofNat n).length ≤ (ofNat n).length - 1 := by omega
    exact Nat.not_lt.mp fun hlt ↦ hshort ((Nat.length_toDigits_le_iff (by decide) hpos).mpr hlt)

theorem ofDigitChars_eq (digits : Text) (start : Nat) :
    Nat.ofDigitChars 10 digits start = start * 10 ^ digits.length + value digits := by
  induction digits generalizing start with
  | nil => simp [value]
  | cons c rest ih =>
    rw [value, Nat.ofDigitChars_cons, Nat.ofDigitChars_cons, ih, ih (10 * 0 + _), List.length_cons,
      Nat.pow_succ', Nat.add_mul, Nat.mul_zero, Nat.zero_add, Nat.add_assoc, Nat.mul_comm 10 start,
      Nat.mul_assoc]

theorem value_append (front back : Text) :
    value (front ++ back) = value front * 10 ^ back.length + value back := by
  rw [← ofDigitChars_eq, value, Nat.ofDigitChars_append, value]

theorem value_zeros (count : Nat) : value (List.replicate count '0') = 0 := by
  rw [value, Nat.ofDigitChars_replicate_zero, Nat.mul_zero]

/-- Zeros in front change nothing. -/
theorem value_zeros_append (count : Nat) (digits : Text) :
    value (List.replicate count '0' ++ digits) = value digits := by
  rw [value_append, value_zeros, Nat.zero_mul, Nat.zero_add]

theorem isDigit_of_mem_zeros {count : Nat} : ∀ c ∈ List.replicate count '0', c.isDigit = true := by
  intro c hc
  rw [List.eq_of_mem_replicate hc]
  decide

theorem isNumeral_ofNat (n : Nat) : IsNumeral (ofNat n) :=
  ⟨Nat.toDigits_ne_nil, fun _ ↦ isDigit_of_mem_ofNat⟩

theorem IsNumeral.zeros_append {digits : Text} (h : IsNumeral digits) (count : Nat) :
    IsNumeral (List.replicate count '0' ++ digits) :=
  ⟨List.append_ne_nil_of_right_ne_nil _ h.1,
    List.forall_mem_append.mpr ⟨isDigit_of_mem_zeros, h.2⟩⟩

theorem read?_eq_some_iff {digits : Text} {n : Nat} :
    read? digits = some n ↔ digits.length ≤ maxDigits ∧ n = value digits := by
  unfold read?
  split
  · simp [*, eq_comm]
  · simp [*]

/-- What is read from digits is short enough to be written. -/
theorem writable_value {digits : Text} (h : ∀ c ∈ digits, c.isDigit = true)
    (hlength : digits.length ≤ maxDigits) : Writable (value digits) :=
  Nat.lt_of_lt_of_le (value_lt h) (Nat.pow_le_pow_right (by decide) hlength)

theorem natCast_lt_pow_iff {n digits : Nat} : (n : Int) < 10 ^ digits ↔ n < 10 ^ digits := by
  norm_cast

theorem ofNat_ne_nil (n : Nat) : ofNat n ≠ [] :=
  Nat.toDigits_ne_nil

theorem ofInt_natCast (n : Nat) : ofInt n = ofNat n := by
  simp [ofInt, Int.not_lt.mpr (Int.natCast_nonneg n)]

theorem digitChar_ne_zero {n : Nat} (hpos : 0 < n) (hlt : n < 10) : n.digitChar ≠ '0' := by
  have hall : ∀ k < 10, 0 < k → k.digitChar ≠ '0' := by decide
  exact hall n hlt hpos

/-- The numeral of a positive number has no zero in front. -/
theorem head?_ofNat_ne_zero {n : Nat} (hpos : 0 < n) : (ofNat n).head? ≠ some '0' := by
  induction n using Nat.strongRecOn with
  | ind n ih =>
    unfold ofNat at ih ⊢
    rcases Nat.lt_or_ge n 10 with hsmall | hlarge
    · rw [Nat.toDigits_of_lt_base hsmall]
      simpa using digitChar_ne_zero hpos hsmall
    · have hfront := ih (n / 10) (by omega) (by omega)
      rw [Nat.toDigits_of_base_le (by decide) hlarge]
      cases hdigits : Nat.toDigits 10 (n / 10) with
      | nil => exact absurd hdigits Nat.toDigits_ne_nil
      | cons c rest => simpa [hdigits] using hfront

end BraceFormat.Numeral
