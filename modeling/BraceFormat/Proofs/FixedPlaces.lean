import BraceFormat.Proofs.Number.Binary64
import BraceFormat.Proofs.Rendering

/-!
# Numbers with a fixed count of places

A magnitude with a fixed count of places is shown as the number of units of the last place that is
nearest to it (`Magnitude.isNearest_roundPlaces`). Its digits have no exponent, a point only if
there are places behind it, and no zero in front that says nothing
(`exists_writePlaces_eq`, `Magnitude.exists_fixed_eq`). Behind 1074 places there is nothing left to
round, so zeros alone make the rest. Rendering puts a sign in front, which is that of the number and
not of the digits (`exists_render_float_eq`).
-/

set_option autoImplicit false
set_option relaxedAutoImplicit false

namespace BraceFormat

/-! ### Digits around a point -/

/-- Digits with a point between them, or none if nothing stands behind it. -/
def pointed (whole fraction : Text) : Text :=
  if fraction = [] then whole else whole ++ '.' :: fraction

/-- The digits in front of a point and behind it denote `count` units of `10 ^ -places`. -/
structure ShowsPlaces (count places : Nat) (whole fraction : Text) : Prop where
  length_fraction : fraction.length = places
  isNumeral : Numeral.IsNumeral whole
  isDigit : ∀ c ∈ fraction, c.isDigit = true
  eq_zero_of_head? : whole.head? = some '0' → whole = ['0']
  value_eq : Numeral.value whole * 10 ^ places + Numeral.value fraction = count

theorem pointed_append {fraction : Text} (h : fraction ≠ []) (whole more : Text) :
    pointed whole fraction ++ more = pointed whole (fraction ++ more) := by
  rw [pointed, pointed, if_neg h, if_neg (List.append_ne_nil_of_left_ne_nil h more),
    List.append_assoc, List.cons_append]

/-- Zeros behind the last place show the number in smaller units. -/
theorem ShowsPlaces.append_zeros {count places : Nat} {whole fraction : Text}
    (h : ShowsPlaces count places whole fraction) (more : Nat) :
    ShowsPlaces (count * 10 ^ more) (places + more) whole
      (fraction ++ List.replicate more '0') where
  length_fraction := by rw [List.length_append, List.length_replicate, h.length_fraction]
  isNumeral := h.isNumeral
  isDigit := List.forall_mem_append.mpr ⟨h.isDigit, Numeral.isDigit_of_mem_zeros⟩
  eq_zero_of_head? := h.eq_zero_of_head?
  value_eq := by
    rw [← h.value_eq, Numeral.value_append, Numeral.value_zeros, List.length_replicate, pow_add]
    ring

/-- A run of digits is cut in front of its last places. -/
theorem showsPlaces_take_drop {digits : Text} (hdigits : ∀ c ∈ digits, c.isDigit = true)
    {places : Nat} (hlength : places < digits.length)
    (hzero : digits.head? = some '0' → digits.length = places + 1) :
    ShowsPlaces (Numeral.value digits) places (digits.take (digits.length - places))
      (digits.drop (digits.length - places)) where
  length_fraction := by
    rw [List.length_drop]
    omega
  isNumeral := by
    refine ⟨fun hnil ↦ ?_, fun c hc ↦ hdigits c (List.mem_of_mem_take hc)⟩
    have hempty := congrArg List.length hnil
    rw [List.length_take, List.length_nil] at hempty
    omega
  isDigit := fun c hc ↦ hdigits c (List.mem_of_mem_drop hc)
  eq_zero_of_head? := by
    intro hhead
    rw [List.head?_take, if_neg (by omega)] at hhead
    obtain ⟨rest, rfl⟩ := List.head?_eq_some_iff.mp hhead
    rw [hzero hhead, Nat.add_sub_cancel_left]
    rfl
  value_eq := by
    have hfraction : (digits.drop (digits.length - places)).length = places := by
      rw [List.length_drop]
      omega
    have hsplit := Numeral.value_append (digits.take (digits.length - places))
      (digits.drop (digits.length - places))
    rw [List.take_append_drop, hfraction] at hsplit
    exact hsplit.symm

/-- A numeral that has more digits than it needs places has a zero in front only if it is the
zero. -/
theorem length_eq_of_head?_leftpad {count places : Nat}
    (h : ((Numeral.ofNat count).leftpad (places + 1) '0').head? = some '0') :
    ((Numeral.ofNat count).leftpad (places + 1) '0').length = places + 1 := by
  rw [List.length_leftpad]
  by_cases hshort : (Numeral.ofNat count).length ≤ places + 1
  · exact Nat.max_eq_left hshort
  · have hnone : places + 1 - (Numeral.ofNat count).length = 0 := by omega
    have hzero : count = 0 := by
      refine Nat.eq_zero_of_not_pos fun hpos ↦ Numeral.head?_ofNat_ne_zero hpos ?_
      rwa [List.leftpad, hnone] at h
    have hone : (Numeral.ofNat count).length = 1 := by
      rw [hzero]
      rfl
    omega

theorem exists_writePlaces_eq (count places : Nat) :
    ∃ whole fraction, writePlaces count places = pointed whole fraction ∧
      ShowsPlaces count places whole fraction := by
  let digits := (Numeral.ofNat count).leftpad (places + 1) '0'
  have hlength : places < digits.length := by
    rw [List.length_leftpad]
    exact Nat.lt_of_succ_le (Nat.le_max_left _ _)
  have hnumeral : Numeral.IsNumeral digits := (Numeral.isNumeral_ofNat count).zeros_append _
  have hvalue : Numeral.value digits = count :=
    (Numeral.value_zeros_append _ _).trans (Numeral.value_ofNat count)
  have hshows := showsPlaces_take_drop hnumeral.2 hlength length_eq_of_head?_leftpad
  rw [hvalue] at hshows
  refine ⟨_, _, ?_, hshows⟩
  have hwrite : writePlaces count places =
      if places = 0 then digits
      else digits.take (digits.length - places) ++ '.' :: digits.drop (digits.length - places) :=
    rfl
  have hempty : digits.drop (digits.length - places) = [] ↔ places = 0 := by
    rw [← List.length_eq_zero_iff, hshows.length_fraction]
  simp only [hwrite, pointed, hempty]
  split
  · rename_i hnone
    rw [hnone, Nat.sub_zero, List.take_length]
  · rfl

/-! ### Rounding to places -/

namespace Magnitude

theorem isNearest_roundPlaces (m : Magnitude) (places : Nat) :
    IsNearest (m.toRat * 10 ^ places) (m.roundPlaces places : Nat) := by
  have hvalue : m.toRat * 10 ^ places = (m.units * 10 ^ places : Nat) / (unitsPerOne : Nat) := by
    rw [toRat, div_mul_eq_mul_div]
    push_cast
    rfl
  rw [hvalue, roundPlaces]
  exact isNearest_roundHalfEven _ unitsPerOne_pos

/-- With as many places as there are bits behind the point nothing is rounded. -/
theorem roundPlaces_of_le (m : Magnitude) (more : Nat) :
    m.roundPlaces (fractionBits + more) = m.units * 5 ^ fractionBits * 10 ^ more := by
  have hten : 10 ^ (fractionBits + more) = 5 ^ fractionBits * 10 ^ more * unitsPerOne := by
    rw [unitsPerOne, pow_add, show 10 = 5 * 2 from rfl, mul_pow]
    ring
  rw [roundPlaces, hten, ← Nat.mul_assoc, ← Nat.mul_assoc, roundHalfEven_mul _ unitsPerOne_pos]

theorem exists_fixed_eq (m : Magnitude) (places : Nat) :
    ∃ whole fraction, m.fixed places = pointed whole fraction ∧
      ShowsPlaces (m.roundPlaces places) places whole fraction := by
  unfold fixed
  simp only
  by_cases hplaces : places ≤ fractionBits
  · rw [Nat.min_eq_left hplaces, Nat.sub_self, List.replicate_zero, List.append_nil]
    exact exists_writePlaces_eq _ _
  · obtain ⟨more, rfl⟩ := Nat.exists_eq_add_of_le (Nat.le_of_not_le hplaces)
    obtain ⟨whole, fraction, hwrite, hshows⟩ :=
      exists_writePlaces_eq (m.roundPlaces fractionBits) fractionBits
    have hsome : fraction ≠ [] := by
      rintro rfl
      exact absurd hshows.length_fraction (by decide)
    have hexact := m.roundPlaces_of_le 0
    rw [Nat.add_zero, pow_zero, Nat.mul_one] at hexact
    refine ⟨whole, fraction ++ List.replicate more '0', ?_, ?_⟩
    · rw [Nat.min_eq_right (Nat.le_add_right _ _), Nat.add_sub_cancel_left, hwrite,
        pointed_append hsome]
    · rw [m.roundPlaces_of_le more, ← hexact]
      exact hshows.append_zeros more

end Magnitude

/-! ### Rendering -/

/-- A number with a fixed count of places and no width is its sign and the digits of the nearest
number with so many places, an even one if there are two. The sign is that of the number, also
where all digits are zeros. -/
theorem exists_render_float_eq {raw : Text} {spec : Spec} (hspec : Spec.parse raw = .ok spec)
    (hbase : spec.base = .decimal) (halternate : spec.alternate = false)
    (hwidth : spec.width = none) {places : Nat} (hplaces : spec.precision = some (places : Int))
    (hsmall : places ≤ 2147483647) (negative : Bool) (m : Magnitude) :
    ∃ whole fraction count,
      render (.float (.finite negative m)) spec =
          .ok ((if negative then ['-'] else if spec.sign = some .plus then ['+'] else []) ++
            pointed whole fraction) ∧
        ShowsPlaces count places whole fraction ∧ IsNearest (m.toRat * 10 ^ places) count := by
  have hcanonical := Spec.canonical_of_parse hspec
  -- zeros to a width are asked for only together with the width
  have hpad : spec.zeroPad = false := Bool.eq_false_iff.mpr fun h ↦ hcanonical.zeroPad h hwidth
  obtain ⟨whole, fraction, hfixed, hshows⟩ := m.exists_fixed_eq places
  refine ⟨whole, fraction, _, ?_, hshows, m.isNearest_roundPlaces places⟩
  have htext : (floatText (.finite negative m) spec).text =
      signText negative spec ++ pointed whole fraction := by
    rw [NumberText.text, floatText, hplaces, Option.elim_some, Int.toNat_natCast, List.append_nil,
      ← hfixed, Binary64.isNegative, Binary64.fixedMagnitude]
  rw [render_float hcanonical hbase halternate, NumberText.layOut_eq_pad _ hpad, pad, hwidth, htext]
  · rfl
  · rw [hplaces]
    intro other hother
    obtain rfl := Option.some.inj hother
    omega

/-- An eighth is half way between two numbers with two places. -/
theorem exists_render_float_eq_tie :
    ∃ (spec : Spec) (m : Magnitude), Spec.parse ".2".toList = .ok spec ∧ spec.base = .decimal ∧
      spec.alternate = false ∧ spec.width = none ∧ spec.precision = some ((2 : Nat) : Int) ∧
      2 ≤ 2147483647 ∧ m.toRat = 1 / 8 ∧
      ∃ whole fraction count, "-0.12".toList = ['-'] ++ pointed whole fraction ∧
        ShowsPlaces count 2 whole fraction ∧ IsNearest (m.toRat * 10 ^ 2) count := by
  have hparse : Spec.parse ".2".toList =
      .ok ⟨[' '], none, none, false, false, .decimal, none, some 2⟩ := rfl
  let m : Magnitude := ⟨2 ^ 1071, by decide +kernel, by decide +kernel⟩
  have heighth : m.toRat = 1 / 8 := by
    have hone : unitsPerOne = m.units * 8 := by decide +kernel
    have hpos : 0 < m.units := by decide +kernel
    have hsome : (m.units : ℚ) ≠ 0 := Nat.cast_ne_zero.mpr hpos.ne'
    rw [Magnitude.toRat, hone, Nat.cast_mul, div_mul_eq_div_div, div_self hsome]
    rfl
  obtain ⟨whole, fraction, count, hrender, hshows, hnearest⟩ :=
    exists_render_float_eq hparse rfl rfl rfl rfl (by decide : 2 ≤ 2147483647) true m
  rw [show render _ _ = .ok "-0.12".toList by decide +kernel] at hrender
  exact ⟨_, m, hparse, rfl, rfl, rfl, rfl, by decide, heighth, whole, fraction, count,
    Except.ok.inj hrender, hshows, hnearest⟩

end BraceFormat
