import BraceFormat.Proofs.Number.Binary64
import BraceFormat.Proofs.Number.Decimal
import BraceFormat.Number.Shortest

/-!
# Shortest texts read back

A decimal fraction is written in one of two layouts, either of which spells the same number again
(`Decimal.exists_spells_write`), with a point or an exponent in it
(`Decimal.exists_not_isDigit_write`). Together with the choice of digits that read back this makes
the shortest text of a magnitude spell a decimal fraction that is read as it
(`Binary64.exists_spells_shortestMagnitude`).
-/

set_option autoImplicit false
set_option relaxedAutoImplicit false

namespace BraceFormat

namespace Decimal

/-! ### Digits -/

/-- Zeros in front change nothing. -/
theorem Spells.zeros_append {text : Text} {d : Decimal} (h : Spells text d) (count : Nat) :
    Spells (List.replicate count '0' ++ text) d := by
  cases h with
  | @whole whole behind exponent hwhole hexponent =>
    have hspells := Spells.whole (hwhole.zeros_append count) hexponent
    rwa [Numeral.value_zeros_append, List.append_assoc] at hspells
  | @point whole places behind exponent hdigits hexponent =>
    have hzeros := hdigits.zeros_append count
    rw [← List.append_assoc] at hzeros
    have hspells := Spells.point hzeros hexponent
    rwa [List.append_assoc _ whole places, Numeral.value_zeros_append, List.append_assoc _ whole,
      List.append_assoc] at hspells

/-- Nothing but zeros is left out of the digits that are shown. -/
theorem exists_zeros_behind_shownDigits (d : Decimal) :
    ∃ count, Numeral.ofNat d.significand = d.shownDigits ++ List.replicate count '0' := by
  let zeros := (Numeral.ofNat d.significand).reverse.takeWhile (· == '0')
  refine ⟨zeros.length, ?_⟩
  have hzeros : zeros.reverse = List.replicate zeros.length '0' := by
    refine List.eq_replicate_iff.mpr ⟨List.length_reverse, fun c hc ↦ ?_⟩
    have hall : zeros.all (· == '0') = true := List.all_takeWhile
    exact beq_iff_eq.mp (List.all_eq_true.mp hall c (List.mem_reverse.mp hc))
  rw [← hzeros, shownDigits, ← List.reverse_append, List.takeWhile_append_dropWhile,
    List.reverse_reverse]

/-- The digits that are shown denote the number when the point is put behind the same place. -/
theorem toRat_eq_shownDigits {d : Decimal} (h : d.significand ≠ 0) :
    Numeral.IsNumeral d.shownDigits ∧
      d.toRat = Numeral.value d.shownDigits *
        10 ^ (d.exponent + (Numeral.ofNat d.significand).length - d.shownDigits.length) := by
  obtain ⟨count, hdigits⟩ := d.exists_zeros_behind_shownDigits
  have hvalue : d.significand = Numeral.value d.shownDigits * 10 ^ count := by
    rw [← Numeral.value_ofNat d.significand, hdigits, Numeral.value_append, Numeral.value_zeros,
      List.length_replicate, Nat.add_zero]
  refine ⟨⟨?_, fun c hc ↦ ?_⟩, ?_⟩
  · intro hnil
    rw [hnil] at hvalue
    exact h (hvalue.trans (Nat.zero_mul _))
  · exact Numeral.isDigit_of_mem_ofNat (hdigits ▸ List.mem_append_left _ hc)
  · have hexponent : d.exponent + (Numeral.ofNat d.significand).length - d.shownDigits.length =
        count + d.exponent := by
      rw [hdigits, List.length_append, List.length_replicate]
      push_cast
      ring
    rw [hexponent, zpow_add₀ (by norm_num), toRat, hvalue, zpow_natCast]
    push_cast
    ring

/-! ### Layouts -/

theorem exists_spells_point {whole places : Text} (h : Numeral.IsNumeral (whole ++ places)) :
    ∃ d, Spells (whole ++ '.' :: places) d ∧
      d.toRat = Numeral.value (whole ++ places) * 10 ^ (-(places.length : Int)) := by
  have hspells := Spells.point h SpellsExponent.missing
  rw [List.append_nil, Int.zero_sub] at hspells
  exact ⟨_, hspells, rfl⟩

theorem exists_spells_positional {digits : Text} (h : Numeral.IsNumeral digits) (point : Int) :
    ∃ d, Spells (positional digits point) d ∧
      d.toRat = Numeral.value digits * 10 ^ (point - digits.length) := by
  unfold positional
  split
  · -- a zero in front of the point, and more behind it
    rename_i hpoint
    have hzeros : ['0'] ++ (List.replicate (-point).toNat '0' ++ digits) =
        List.replicate ((-point).toNat + 1) '0' ++ digits := rfl
    have hplaces : -((List.replicate (-point).toNat '0' ++ digits).length : Int) =
        point - digits.length := by
      rw [List.length_append, List.length_replicate]
      omega
    have hnumeral := h.zeros_append ((-point).toNat + 1)
    rw [← hzeros] at hnumeral
    obtain ⟨d, hspells, hvalue⟩ := exists_spells_point hnumeral
    rw [hzeros, Numeral.value_zeros_append, hplaces] at hvalue
    exact ⟨d, hspells, hvalue⟩
  · rename_i hpoint
    simp only
    split
    · -- all digits in front of the point, and zeros up to it
      rename_i hshort
      have hzeros : digits ++ List.replicate (point.toNat - digits.length) '0' ++ ['0'] =
          digits ++ List.replicate (point.toNat - digits.length + 1) '0' := by
        rw [List.append_assoc, ← List.replicate_succ']
      have hnumeral : Numeral.IsNumeral
          (digits ++ List.replicate (point.toNat - digits.length + 1) '0') :=
        ⟨List.append_ne_nil_of_left_ne_nil h.1 _,
          List.forall_mem_append.mpr ⟨h.2, Numeral.isDigit_of_mem_zeros⟩⟩
      have hexponent : ((point.toNat - digits.length + 1 : Nat) : Int) + -1 =
          point - digits.length := by
        omega
      rw [← hzeros] at hnumeral
      obtain ⟨d, hspells, hvalue⟩ := exists_spells_point hnumeral
      refine ⟨d, hspells, hvalue.trans ?_⟩
      rw [hzeros, Numeral.value_append, Numeral.value_zeros, List.length_replicate, Nat.add_zero,
        ← hexponent, zpow_add₀ (by norm_num), zpow_natCast]
      push_cast
      exact mul_assoc _ _ _
    · rename_i hlong
      have hdigits := List.take_append_drop point.toNat digits
      have hplaces : -((digits.drop point.toNat).length : Int) = point - digits.length := by
        rw [List.length_drop]
        omega
      have hnumeral := h
      rw [← hdigits] at hnumeral
      obtain ⟨d, hspells, hvalue⟩ := exists_spells_point hnumeral
      rw [hdigits, hplaces] at hvalue
      exact ⟨d, hspells, hvalue⟩

theorem spellsExponent_exponent (layout : Layout) (exponent : Int) :
    SpellsExponent ('e' :: layout.exponent exponent) exponent := by
  have hnumeral := (Numeral.isNumeral_ofNat exponent.natAbs).zeros_append
    (layout.exponentPlaces - (Numeral.ofNat exponent.natAbs).length)
  have hvalue := Numeral.value_zeros_append
    (layout.exponentPlaces - (Numeral.ofNat exponent.natAbs).length)
    (Numeral.ofNat exponent.natAbs)
  rw [Numeral.value_ofNat] at hvalue
  unfold Layout.exponent
  split
  · have hspells := SpellsExponent.written (Or.inl rfl) hnumeral (Signed.minus _)
    have hexponent : -((exponent.natAbs : Nat) : Int) = exponent := by omega
    rwa [hvalue, if_pos rfl, hexponent] at hspells
  · have hspells := SpellsExponent.written (Or.inl rfl) hnumeral (Signed.plus _)
    have hexponent : ((exponent.natAbs : Nat) : Int) = exponent := by omega
    rwa [hvalue, if_neg Bool.false_ne_true, hexponent] at hspells

theorem exists_spells_scientific {digits : Text} (h : Numeral.IsNumeral digits) (layout : Layout)
    (exponent : Int) :
    ∃ d, Spells (scientific layout digits exponent) d ∧
      d.toRat = Numeral.value digits * 10 ^ (exponent + 1 - digits.length) := by
  have hexponent := spellsExponent_exponent layout exponent
  match digits with
  | [] => exact absurd rfl h.1
  | [first] =>
    refine ⟨_, Spells.whole h hexponent, ?_⟩
    rw [toRat, List.length_singleton, Nat.cast_one, Int.add_sub_cancel]
  | first :: second :: rest =>
    have hplaces : exponent - ((second :: rest).length : Int) =
        exponent + 1 - ((first :: second :: rest).length : Int) := by
      rw [List.length_cons (a := first)]
      omega
    refine ⟨_, Spells.point (show Numeral.IsNumeral ([first] ++ (second :: rest)) from h) hexponent,
      ?_⟩
    rw [toRat, hplaces]
    rfl

/-- A decimal fraction is written in a text that spells the same number. -/
theorem exists_spells_write (layout : Layout) (d : Decimal) :
    ∃ other, Spells (d.write layout) other ∧ other.toRat = d.toRat := by
  unfold write
  split
  · rename_i hzero
    have hnumeral : Numeral.IsNumeral (['0'] ++ ['0']) := (Numeral.isNumeral_ofNat 0).zeros_append 1
    have hnone : Numeral.value (['0'] ++ ['0']) = 0 := Numeral.value_zeros 2
    obtain ⟨other, hspells, hvalue⟩ := exists_spells_point hnumeral
    refine ⟨other, hspells, ?_⟩
    rw [hvalue, toRat, hzero, hnone, Nat.cast_zero, zero_mul, zero_mul]
  · rename_i hsome
    obtain ⟨hnumeral, hvalue⟩ := toRat_eq_shownDigits hsome
    simp only
    rw [hvalue]
    split
    · exact exists_spells_positional hnumeral _
    · obtain ⟨other, hspells, hother⟩ := exists_spells_scientific hnumeral layout
        (d.exponent + (Numeral.ofNat d.significand).length - 1)
      rw [Int.sub_add_cancel] at hother
      exact ⟨other, hspells, hother⟩

/-- A point or an exponent is always written. -/
theorem exists_not_isDigit_write (layout : Layout) (d : Decimal) :
    ∃ c ∈ d.write layout, c.isDigit = false := by
  have hpoint : '.'.isDigit = false := by decide
  have hmark : 'e'.isDigit = false := by decide
  unfold write
  split
  · exact ⟨'.', by decide, hpoint⟩
  · simp only
    split
    · refine ⟨'.', ?_, hpoint⟩
      unfold positional
      split
      · simp
      · simp only
        split
        · simp
        · simp
    · exact ⟨'e', List.mem_append_right _ List.mem_cons_self, hmark⟩

end Decimal

/-! ### Shortest digits -/

namespace Magnitude

theorem toRat_exactDecimal (m : Magnitude) : m.exactDecimal.toRat = m.toRat := by
  have hten : (10 : ℚ) ^ fractionBits = 2 ^ fractionBits * 5 ^ fractionBits := by
    rw [← mul_pow]
    norm_num
  rw [exactDecimal, Decimal.toRat, toRat, zpow_neg, zpow_natCast, hten, unitsPerOne]
  push_cast
  field_simp

theorem readsBack_of_readBackWithout? {m : Magnitude} {exact dropped : Nat} {d : Decimal}
    (h : m.readBackWithout? exact dropped = some d) : m.ReadsBack d := by
  unfold readBackWithout? at h
  simp only at h
  split at h
  · rename_i hbelow habove
    obtain rfl := Option.some.inj h
    split
    · exact of_decide_eq_true hbelow
    · exact of_decide_eq_true habove
  · rename_i hbelow habove
    obtain rfl := Option.some.inj h
    exact of_decide_eq_true hbelow
  · rename_i hbelow habove
    obtain rfl := Option.some.inj h
    exact of_decide_eq_true habove
  · cases h

/-- The digits that are chosen read back. -/
theorem readsBack_shortestDecimal (m : Magnitude) : m.ReadsBack m.shortestDecimal := by
  have hexact : m.ReadsBack m.exactDecimal := ofDecimal?_of_toRat_eq m.toRat_exactDecimal
  unfold shortestDecimal
  simp only
  cases hfound : (List.range (Numeral.ofNat m.exactDecimal.significand).length).reverse.findSome?
      (m.readBackWithout? m.exactDecimal.significand) with
  | none => exact hexact
  | some d =>
    obtain ⟨dropped, -, hdropped⟩ := List.exists_of_findSome?_eq_some hfound
    exact readsBack_of_readBackWithout? hdropped

end Magnitude

namespace Binary64

theorem exists_spells_shortestMagnitude (negative : Bool) (m : Magnitude) :
    ∃ d, Decimal.Spells (shortestMagnitude (finite negative m)) d ∧
      Magnitude.ofDecimal? d = some m := by
  obtain ⟨d, hspells, hvalue⟩ := Decimal.exists_spells_write shortestLayout m.shortestDecimal
  exact ⟨d, hspells, (Magnitude.ofDecimal?_congr hvalue).trans m.readsBack_shortestDecimal⟩

end Binary64

end BraceFormat
