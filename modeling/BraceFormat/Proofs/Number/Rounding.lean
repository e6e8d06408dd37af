import Mathlib.Algebra.Order.Field.Basic
import Mathlib.Algebra.Order.Field.Rat
import Mathlib.Tactic.FieldSimp
import Mathlib.Tactic.Linarith
import Mathlib.Tactic.Positivity
import BraceFormat.Number.Rounding

/-!
# Rounding to the nearest whole number

A quotient is rounded to the whole number nearest to it, the even one if two are equally near
(`isNearest_roundHalfEven`). So the result depends on the quotient alone and not on how it is
written (`roundHalfEven_mul_mul`).
-/

set_option autoImplicit false
set_option relaxedAutoImplicit false

namespace BraceFormat

/-- The whole number nearest to a number, the even one if there are two. -/
structure IsNearest (x : ℚ) (n : ℤ) : Prop where
  le : ∀ other : ℤ, |x - n| ≤ |x - other|
  even : ∀ other : ℤ, other ≠ n → |x - other| = |x - n| → Even n

/-- Whole numbers are one apart, so no other is nearer than one that is within a half. -/
theorem isNearest_of_abs_sub_le {x : ℚ} {n : ℤ} (hle : |x - n| ≤ 1 / 2)
    (heven : |x - n| = 1 / 2 → Even n) : IsNearest x n := by
  have hfar : ∀ other : ℤ, other ≠ n → 1 / 2 ≤ |x - other| := by
    intro other hother
    have hone : (1 : ℚ) ≤ |(other : ℚ) - n| := by
      exact_mod_cast Int.one_le_abs (sub_ne_zero.mpr hother)
    have htriangle : |(other : ℚ) - n| ≤ |(other : ℚ) - x| + |x - n| := abs_sub_le _ _ _
    rw [abs_sub_comm (other : ℚ) x] at htriangle
    linarith
  refine ⟨fun other ↦ ?_, fun other hother htie ↦ ?_⟩
  · by_cases hother : other = n
    · rw [hother]
    · exact hle.trans (hfar other hother)
  · exact heven (le_antisymm hle (htie ▸ hfar other hother))

theorem isNearest_of_lt {x : ℚ} {n : ℤ} (hbelow : (n : ℚ) - 1 / 2 < x) (habove : x < n + 1 / 2) :
    IsNearest x n := by
  have hlt : |x - n| < 1 / 2 := abs_sub_lt_iff.mpr ⟨by linarith, by linarith⟩
  exact isNearest_of_abs_sub_le hlt.le fun htie ↦ absurd htie hlt.ne

/-- Half way between two whole numbers it is the even one. -/
theorem isNearest_half (n : Nat) : IsNearest (n + 1 / 2) ((n + n % 2 : Nat) : ℤ) := by
  have heven : Even ((n + n % 2 : Nat) : ℤ) := by
    rw [Int.even_iff]
    omega
  refine isNearest_of_abs_sub_le ?_ fun _ ↦ heven
  have hparity : n % 2 = 0 ∨ n % 2 = 1 := Nat.mod_two_eq_zero_or_one n
  rcases hparity with hparity | hparity
  · rw [hparity, abs_le]
    push_cast
    constructor
    · linarith
    · linarith
  · rw [hparity, abs_le]
    push_cast
    constructor
    · linarith
    · linarith

theorem isNearest_roundHalfEven (num : Nat) {den : Nat} (hden : 0 < den) :
    IsNearest ((num : ℚ) / den) (roundHalfEven num den : Nat) := by
  have hpos : (0 : ℚ) < den := by exact_mod_cast hden
  have hquotient : (num : ℚ) / den = (num / den : Nat) + ((num % den : Nat) : ℚ) / den := by
    have hsum : (num : ℚ) = den * (num / den : Nat) + (num % den : Nat) := by
      exact_mod_cast (Nat.div_add_mod num den).symm
    rw [hsum]
    field_simp
  have hlt := Nat.mod_lt num hden
  rw [hquotient, roundHalfEven]
  generalize num / den = whole
  generalize num % den = left at hlt ⊢
  have hnonneg : (0 : ℚ) ≤ left / den := div_nonneg (Nat.cast_nonneg left) hpos.le
  have hone : (left : ℚ) / den < 1 := by
    rw [div_lt_one hpos]
    exact_mod_cast hlt
  rcases Nat.lt_trichotomy (2 * left) den with hbelow | htie | habove
  · have hhalf : (left : ℚ) / den < 1 / 2 := by
      rw [div_lt_div_iff₀ hpos two_pos]
      exact_mod_cast (by omega : left * 2 < 1 * den)
    simp only [if_pos hbelow]
    refine isNearest_of_lt ?_ ?_
    · push_cast
      linarith
    · push_cast
      linarith
  · have hhalf : (left : ℚ) / den = 1 / 2 := by
      rw [div_eq_div_iff hpos.ne' two_ne_zero]
      exact_mod_cast (by omega : left * 2 = 1 * den)
    simp only [if_neg (Nat.not_lt.mpr htie.ge), if_neg (Nat.not_lt.mpr htie.le), hhalf]
    exact isNearest_half whole
  · have hhalf : (1 : ℚ) / 2 < left / den := by
      rw [div_lt_div_iff₀ two_pos hpos]
      exact_mod_cast (by omega : 1 * den < left * 2)
    simp only [if_neg (Nat.not_lt.mpr habove.le), if_pos habove]
    refine isNearest_of_lt ?_ ?_
    · push_cast
      linarith
    · push_cast
      linarith

theorem roundHalfEven_mul_mul (num den : Nat) {factor : Nat} (h : 0 < factor) :
    roundHalfEven (num * factor) (den * factor) = roundHalfEven num den := by
  have hdouble : 2 * (num % den * factor) = 2 * (num % den) * factor := (Nat.mul_assoc _ _ _).symm
  simp only [roundHalfEven, Nat.mul_div_mul_right _ _ h, Nat.mul_mod_mul_right, hdouble,
    Nat.mul_lt_mul_right h]

end BraceFormat
