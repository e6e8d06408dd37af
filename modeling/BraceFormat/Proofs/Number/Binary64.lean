import Mathlib.Tactic.Ring
import BraceFormat.Proofs.Number.Rounding
import BraceFormat.Number.Binary64
import BraceFormat.Proofs.Numeral

/-!
# Binary64 numbers that are read

A decimal fraction is read as its number of units rounded once. The cases in front that spare
computing a power of ten change nothing about that (`Magnitude.ofDecimal?_eq`). So fractions that
denote the same number are read as the same magnitude, however they are written
(`Magnitude.ofDecimal?_congr`), and a magnitude is its own reading (`Magnitude.ofUnits?_units`).
-/

set_option autoImplicit false
set_option relaxedAutoImplicit false

namespace BraceFormat

/-- The number that a decimal fraction denotes. -/
def Decimal.toRat (d : Decimal) : ℚ :=
  d.significand * 10 ^ d.exponent

namespace Magnitude

/-- The number that a magnitude is. -/
def toRat (m : Magnitude) : ℚ :=
  m.units / unitsPerOne

/-! ### Units -/

section Units

variable {num den : Nat}

theorem roundUnits_mul_mul (num den : Nat) {factor : Nat} (h : 0 < factor) :
    roundUnits (num * factor) (den * factor) = roundUnits num den := by
  have hspacing : spacing (num * factor) (den * factor) = spacing num den := by
    rw [spacing, spacing, Nat.mul_div_mul_right _ _ h]
  rw [roundUnits, roundUnits, hspacing, Nat.mul_right_comm, roundHalfEven_mul_mul _ _ h]

theorem ofUnits?_congr {num' den' : Nat} (hden : 0 < den) (hden' : 0 < den')
    (h : (num : ℚ) / den = (num' : ℚ) / den') : ofUnits? num den = ofUnits? num' den' := by
  have hcross : num * den' = num' * den := by
    have hpos : (den : ℚ) ≠ 0 := by exact_mod_cast hden.ne'
    have hpos' : (den' : ℚ) ≠ 0 := by exact_mod_cast hden'.ne'
    exact_mod_cast (div_eq_div_iff hpos hpos').mp h
  have hunits : roundUnits num den = roundUnits num' den' := by
    rw [← roundUnits_mul_mul num den hden', hcross, Nat.mul_comm den,
      roundUnits_mul_mul num' den' hden]
  simp only [ofUnits?, hunits]

/-- Less than half a unit is none. -/
theorem ofUnits?_of_two_mul_lt (h : 2 * num < den) : ofUnits? num den = some zero := by
  have hsmall : num < den := by omega
  have hspacing : spacing num den = 1 := by
    rw [spacing, Nat.div_eq_of_lt hsmall]
    rfl
  have hunits : roundUnits num den = 0 := by
    rw [roundUnits, hspacing, Nat.mul_one, Nat.mul_one, roundHalfEven, Nat.div_eq_of_lt hsmall,
      Nat.mod_eq_of_lt hsmall, if_pos h]
  simp only [ofUnits?, hunits]
  exact dif_pos unitsLimit_pos

/-- Rounding does not go below a power of two. -/
theorem two_pow_le_roundUnits {bits : Nat} (h : 2 ^ bits ≤ num / den) :
    2 ^ bits ≤ roundUnits num den := by
  have hne : num / den ≠ 0 := (Nat.two_pow_pos bits).trans_le h |>.ne'
  have hbits : bits ≤ (num / den).log2 := (Nat.le_log2 hne).mpr h
  have hfloor : 2 ^ min 52 (num / den).log2 ≤ num / den / spacing num den := by
    rw [spacing, Nat.le_div_iff_mul_le (Nat.two_pow_pos _), ← Nat.pow_add]
    refine (Nat.pow_le_pow_right two_pos ?_).trans (Nat.log2_self_le hne)
    omega
  calc 2 ^ bits ≤ 2 ^ (min 52 (num / den).log2) * spacing num den := by
        rw [spacing, ← Nat.pow_add]
        exact Nat.pow_le_pow_right two_pos (by omega)
    _ ≤ roundHalfEven num (den * spacing num den) * spacing num den := by
        refine Nat.mul_le_mul_right _ (hfloor.trans ?_)
        rw [Nat.div_div_eq_div_mul]
        exact le_roundHalfEven _ _

theorem ofUnits?_of_unitsLimit_le (h : unitsLimit ≤ num / den) : ofUnits? num den = none := by
  have hlarge : ¬ roundUnits num den < unitsLimit := by
    unfold unitsLimit at h ⊢
    exact Nat.not_lt.mpr (two_pow_le_roundUnits h)
  unfold ofUnits?
  exact dif_neg hlarge

theorem ofUnits?_units (m : Magnitude) : ofUnits? m.units 1 = some m := by
  have hspacing : spacing m.units 1 = 2 ^ (m.units.log2 - 52) := by rw [spacing, Nat.div_one]
  have hunits : roundUnits m.units 1 = m.units := by
    have haligned := m.aligned
    have hstep : 0 < 2 ^ (m.units.log2 - 52) := Nat.two_pow_pos _
    rw [roundUnits, hspacing, Nat.one_mul]
    generalize 2 ^ (m.units.log2 - 52) = step at haligned hstep ⊢
    obtain ⟨leading, hleading⟩ := haligned
    rw [hleading, Nat.mul_comm step, roundHalfEven_mul leading hstep]
  simp only [ofUnits?, hunits]
  exact dif_pos m.units_lt

end Units

/-! ### Decimal fractions -/

theorem two_mul_unitsPerOne_le : 2 * unitsPerOne ≤ 10 ^ 330 := by
  decide +kernel

theorem unitsLimit_le : unitsLimit ≤ 10 ^ 310 * unitsPerOne := by
  decide +kernel

theorem mul_pow_le_of_le {limit unit bound : Nat} (h : limit ≤ 10 ^ bound * unit) (n : Nat) :
    limit * 10 ^ n ≤ 10 ^ (bound + n) * unit := by
  rw [Nat.pow_add, Nat.mul_right_comm]
  exact Nat.mul_le_mul_right _ h

/-- Reading rounds the number of units, whether a power of ten is computed for that or not. -/
theorem ofDecimal?_eq (d : Decimal) :
    ofDecimal? d =
      ofUnits? (d.significand * 10 ^ d.exponent.toNat * unitsPerOne)
        (10 ^ (-d.exponent).toNat) := by
  unfold ofDecimal?
  simp only
  split
  · rename_i hsmall
    refine (ofUnits?_of_two_mul_lt ?_).symm
    rcases hsmall with hzero | hpoint
    · rw [hzero, Nat.zero_mul, Nat.zero_mul]
      exact Nat.pow_pos (by decide)
    · have hexponent : d.exponent.toNat = 0 := by omega
      calc 2 * (d.significand * 10 ^ d.exponent.toNat * unitsPerOne)
          = d.significand * (2 * unitsPerOne) := by rw [hexponent]; ring
        _ < 10 ^ (Numeral.ofNat d.significand).length * 10 ^ 330 :=
          Nat.mul_lt_mul_of_lt_of_le' (Numeral.lt_pow_length_ofNat _) two_mul_unitsPerOne_le
            (Nat.mul_pos two_pos unitsPerOne_pos)
        _ ≤ 10 ^ (-d.exponent).toNat :=
          (Nat.pow_add 10 _ 330).ge.trans (Nat.pow_le_pow_right (by decide) (by omega))
  · rename_i hsmall
    have hpos : 0 < d.significand := Nat.pos_of_ne_zero fun hzero ↦ hsmall (Or.inl hzero)
    split
    · refine (ofUnits?_of_unitsLimit_le ?_).symm
      have hlength := Numeral.length_ofNat_pos d.significand
      rw [Nat.le_div_iff_mul_le (Nat.pow_pos (by decide))]
      calc unitsLimit * 10 ^ (-d.exponent).toNat
          ≤ 10 ^ (310 + (-d.exponent).toNat) * unitsPerOne := mul_pow_le_of_le unitsLimit_le _
        _ ≤ 10 ^ ((Numeral.ofNat d.significand).length - 1 + d.exponent.toNat) * unitsPerOne :=
            Nat.mul_le_mul_right _ (Nat.pow_le_pow_right (by decide) (by omega))
        _ ≤ d.significand * 10 ^ d.exponent.toNat * unitsPerOne := by
          rw [Nat.pow_add]
          exact Nat.mul_le_mul_right _ (Nat.mul_le_mul_right _ (Numeral.pow_length_ofNat_le hpos))
    · split
      · rename_i hnegative
        have hwhole : d.exponent.toNat = 0 := by omega
        have hplaces : (-d.exponent).toNat = d.exponent.natAbs := by omega
        rw [hwhole, hplaces, Nat.pow_zero, Nat.mul_one]
      · rename_i hnonneg
        have hwhole : d.exponent.toNat = d.exponent.natAbs := by omega
        have hplaces : (-d.exponent).toNat = 0 := by omega
        rw [hwhole, hplaces, Nat.pow_zero]

theorem units_div_eq (d : Decimal) :
    ((d.significand * 10 ^ d.exponent.toNat * unitsPerOne : Nat) : ℚ) /
        (10 ^ (-d.exponent).toNat : Nat) = d.toRat * unitsPerOne := by
  have hten : (10 : ℚ) ^ d.exponent = 10 ^ d.exponent.toNat / 10 ^ (-d.exponent).toNat := by
    rw [← zpow_natCast, ← zpow_natCast, ← zpow_sub₀ (by norm_num)]
    congr 1
    omega
  rw [Decimal.toRat, hten]
  push_cast
  ring

/-- Decimal fractions that denote the same number are read as the same magnitude. -/
theorem ofDecimal?_congr {d other : Decimal} (h : d.toRat = other.toRat) :
    ofDecimal? d = ofDecimal? other := by
  have hpos : ∀ n, 0 < 10 ^ n := fun n ↦ Nat.pow_pos (by decide)
  rw [ofDecimal?_eq, ofDecimal?_eq]
  refine ofUnits?_congr (hpos _) (hpos _) ?_
  rw [units_div_eq, units_div_eq, h]

/-- A decimal fraction that denotes a magnitude is read as it. -/
theorem ofDecimal?_of_toRat_eq {d : Decimal} {m : Magnitude} (h : d.toRat = m.toRat) :
    ofDecimal? d = some m := by
  have hunits : (unitsPerOne : ℚ) ≠ 0 := by exact_mod_cast unitsPerOne_pos.ne'
  rw [ofDecimal?_eq, ← ofUnits?_units m]
  refine ofUnits?_congr (Nat.pow_pos (by decide)) one_pos ?_
  rw [units_div_eq, h, toRat, div_mul_cancel₀ _ hunits, Nat.cast_one, div_one]

end Magnitude

end BraceFormat
