import BraceFormat.Proofs.Spec.Grammar

/-!
# Specifiers that are their own reading

A specifier can be set by hand to what no text denotes: a fill of no or of several characters, a
width of zero or below, a zero padding without a width. `Canonical` says which specifiers are left.
They are those that are read from some text, and also those that are read back from their own text
(`roundTrips_iff_canonical`).
-/

set_option autoImplicit false
set_option relaxedAutoImplicit false

namespace BraceFormat.Spec

/-- The specifiers that a text can denote. -/
structure Canonical (spec : Spec) : Prop where
  fill : spec.align = none ∧ spec.fill = [' '] ∨ spec.align ≠ none ∧ spec.fill.length = 1
  width : ∀ width ∈ spec.width, 1 ≤ width ∧ width < 10 ^ Numeral.maxDigits
  precision : ∀ places ∈ spec.precision, 0 ≤ places ∧ places < 10 ^ Numeral.maxDigits
  zeroPad : spec.zeroPad = true → spec.width ≠ none

/-- The text of a specifier can be written and is read as that specifier. -/
def RoundTrips (spec : Spec) : Prop :=
  ∃ text, spec.print? = .ok text ∧ parse text = .ok spec

/-! ### What is read is canonical -/

theorem Parts.isDigit_of_mem_widthNumeral {parts : Parts} (h : parts.WellFormed) {c : Char}
    (hc : c ∈ parts.widthNumeral) : c.isDigit = true := by
  refine h.digits c ?_
  unfold widthNumeral at hc
  split at hc
  · simp_all
  · simp_all
  · exact hc

theorem Parts.canonical_fields {parts : Parts} (h : parts.WellFormed) (hshort : parts.Short)
    (hwidth : parts.width ≠ some 0) : parts.fields.Canonical where
  fill := by
    by_cases halign : parts.align = none
    · exact Or.inl ⟨halign, by simp [fields, h.fill halign]⟩
    · exact Or.inr ⟨halign, rfl⟩
  width := by
    intro width hmem
    obtain ⟨n, hn, rfl⟩ := Option.map_eq_some_iff.mp hmem
    have hpos : n ≠ 0 := fun hzero ↦ hwidth (hzero ▸ hn)
    unfold Parts.width at hn
    split at hn
    · cases hn
    · cases hn
      have hlt := Numeral.writable_value (fun c hc ↦ isDigit_of_mem_widthNumeral h hc) hshort.1
      refine ⟨?_, Numeral.natCast_lt_pow_iff.mpr hlt⟩
      simp only [Int.ofNat_eq_natCast]
      omega
  precision := by
    intro places hmem
    obtain ⟨digits, hdigits, rfl⟩ := Option.map_eq_some_iff.mp hmem
    have hlt := Numeral.writable_value (h.places digits hdigits).2 (hshort.2 digits hdigits)
    exact ⟨Int.natCast_nonneg _, Numeral.natCast_lt_pow_iff.mpr hlt⟩
  zeroPad := by
    intro hpad
    have hdigits : parts.digits ≠ [] := by
      rintro hnil
      simp [fields, hnil] at hpad
    simp [fields, width, hdigits]

theorem canonical_of_parse {text : Text} {spec : Spec} (h : parse text = .ok spec) :
    spec.Canonical := by
  obtain ⟨parts, hparts, hshort, hwidth, rfl⟩ := parse_eq_ok_iff.mp h
  exact Parts.canonical_fields hparts.1 hshort hwidth

/-! ### What is canonical is read back -/

/-- The parts of a canonical specifier's text. -/
def printedParts (spec : Spec) : Parts where
  fill := if spec.fill = [' '] then none else spec.fill.head?
  align := spec.align
  sign := spec.sign
  alternate := spec.alternate
  digits := (if spec.zeroPad then ['0'] else []) ++ spec.width.elim [] Numeral.ofInt
  places := spec.precision.map Numeral.ofInt
  base := spec.base

theorem Canonical.fill_eq {spec : Spec} (h : spec.Canonical) : ∃ c, spec.fill = [c] := by
  rcases h.fill with ⟨-, hblank⟩ | ⟨-, hlength⟩
  · exact ⟨' ', hblank⟩
  · exact List.length_eq_one_iff.mp hlength

/-- A canonical width is a positive number whose numeral is short enough. -/
theorem Canonical.width_eq {spec : Spec} (h : spec.Canonical) {width : Int}
    (hwidth : spec.width = some width) :
    ∃ n : Nat, width = n ∧ 0 < n ∧ (Numeral.ofNat n).length ≤ Numeral.maxDigits := by
  obtain ⟨hpos, hlt⟩ := h.width width hwidth
  obtain ⟨n, rfl⟩ := Int.eq_ofNat_of_zero_le (by omega : 0 ≤ width)
  exact ⟨n, rfl, by omega, Numeral.length_ofNat_le_iff.mpr (Numeral.natCast_lt_pow_iff.mp hlt)⟩

theorem Canonical.precision_eq {spec : Spec} (h : spec.Canonical) {places : Int}
    (hplaces : spec.precision = some places) :
    ∃ n : Nat, places = n ∧ (Numeral.ofNat n).length ≤ Numeral.maxDigits := by
  obtain ⟨hnonneg, hlt⟩ := h.precision places hplaces
  obtain ⟨n, rfl⟩ := Int.eq_ofNat_of_zero_le hnonneg
  exact ⟨n, rfl, Numeral.length_ofNat_le_iff.mpr (Numeral.natCast_lt_pow_iff.mp hlt)⟩

theorem Canonical.writable {spec : Spec} (h : spec.Canonical) : spec.Writable := by
  constructor
  · intro width hwidth
    obtain ⟨n, rfl, -, hlength⟩ := h.width_eq hwidth
    exact Numeral.length_ofNat_le_iff.mp hlength
  · intro places hplaces
    obtain ⟨n, rfl, hlength⟩ := h.precision_eq hplaces
    exact Numeral.length_ofNat_le_iff.mp hlength

theorem Canonical.wellFormed {spec : Spec} (h : spec.Canonical) :
    spec.printedParts.WellFormed where
  fill := by
    intro halign
    rcases h.fill with ⟨-, hfill⟩ | ⟨hsome, -⟩
    · simp [printedParts, hfill]
    · exact absurd halign hsome
  digits := by
    intro c hc
    rcases List.mem_append.mp hc with hpad | hwidth
    · cases hspec : spec.zeroPad <;> simp [hspec] at hpad
      simp [hpad]
    · cases hspec : spec.width with
      | none => simp [hspec] at hwidth
      | some width =>
        obtain ⟨n, rfl, -, -⟩ := h.width_eq hspec
        simp only [hspec, Option.elim_some, Numeral.ofInt_natCast] at hwidth
        exact Numeral.isDigit_of_mem_ofNat hwidth
  places := by
    intro digits hdigits
    obtain ⟨places, hplaces, rfl⟩ := Option.map_eq_some_iff.mp hdigits
    obtain ⟨n, rfl, -⟩ := h.precision_eq hplaces
    rw [Numeral.ofInt_natCast]
    exact ⟨Numeral.ofNat_ne_nil n, fun c hc ↦ Numeral.isDigit_of_mem_ofNat hc⟩

theorem Canonical.text_printedParts {spec : Spec} (h : spec.Canonical) :
    spec.printedParts.text = spec.print := by
  have halign : spec.printedParts.fill.toList ++ (spec.align.map Alignment.char).toList =
      spec.printAlign := by
    rcases h.fill with ⟨hnone, hfill⟩ | ⟨hsome, -⟩
    · simp [printedParts, printAlign, hnone, hfill]
    · obtain ⟨align, halign⟩ := Option.ne_none_iff_exists'.mp hsome
      obtain ⟨c, hc⟩ := h.fill_eq
      by_cases hblank : c = ' ' <;> simp [printedParts, printAlign, halign, hc, hblank]
  have hplaces : (spec.precision.map Numeral.ofInt).elim [] ('.' :: ·) =
      spec.precision.elim [] fun places ↦ '.' :: Numeral.ofInt places := by
    cases spec.precision <;> rfl
  rw [print, ← halign, ← hplaces, List.append_assoc _ (if spec.zeroPad then ['0'] else [])]
  rfl

/-- The numeral of a canonical width is what stands behind the zero for padding. -/
theorem Canonical.widthNumeral_printedParts {spec : Spec} (h : spec.Canonical) :
    spec.printedParts.widthNumeral = spec.width.elim [] Numeral.ofInt := by
  cases hwidth : spec.width with
  | none =>
    have hpad : spec.zeroPad = false := by
      cases hspec : spec.zeroPad with
      | false => rfl
      | true => exact absurd hwidth (h.zeroPad hspec)
    simp [Parts.widthNumeral, printedParts, hwidth, hpad]
  | some width =>
    obtain ⟨n, rfl, hpos, -⟩ := h.width_eq hwidth
    have hhead := Numeral.head?_ofNat_ne_zero hpos
    have hne := Numeral.ofNat_ne_nil n
    cases hpad : spec.zeroPad <;>
      simp only [Parts.widthNumeral, printedParts, hwidth, hpad, Option.elim_some,
        Numeral.ofInt_natCast] <;> split <;> simp_all

theorem Canonical.width_printedParts {spec : Spec} (h : spec.Canonical) :
    spec.printedParts.width.map Int.ofNat = spec.width ∧ spec.printedParts.width ≠ some 0 := by
  cases hwidth : spec.width with
  | none =>
    have hpad : spec.zeroPad = false := Bool.eq_false_iff.mpr fun hpad ↦ h.zeroPad hpad hwidth
    simp [Parts.width, printedParts, hwidth, hpad]
  | some width =>
    obtain ⟨n, rfl, hpos, -⟩ := h.width_eq hwidth
    have hdigits : spec.printedParts.digits ≠ [] := by
      simp [printedParts, hwidth, Numeral.ofInt_natCast, Numeral.ofNat_ne_nil]
    have hvalue : spec.printedParts.width = some n := by
      rw [Parts.width, if_neg hdigits, h.widthNumeral_printedParts, hwidth, Option.elim_some,
        Numeral.ofInt_natCast, Numeral.value_ofNat]
    rw [hvalue]
    refine ⟨rfl, ?_⟩
    simp only [ne_eq, Option.some.injEq]
    omega

theorem Canonical.short_printedParts {spec : Spec} (h : spec.Canonical) :
    spec.printedParts.Short := by
  constructor
  · rw [h.widthNumeral_printedParts]
    cases hwidth : spec.width with
    | none => simp
    | some width =>
      obtain ⟨n, rfl, -, hlength⟩ := h.width_eq hwidth
      rwa [Option.elim_some, Numeral.ofInt_natCast]
  · intro digits hdigits
    obtain ⟨places, hplaces, rfl⟩ := Option.map_eq_some_iff.mp hdigits
    obtain ⟨n, rfl, hlength⟩ := h.precision_eq hplaces
    rwa [Numeral.ofInt_natCast]

theorem Canonical.head?_digits {spec : Spec} (h : spec.Canonical) :
    decide (spec.printedParts.digits.head? = some '0') = spec.zeroPad := by
  cases hpad : spec.zeroPad with
  | true => simp [printedParts, hpad]
  | false =>
    cases hwidth : spec.width with
    | none => simp [printedParts, hpad, hwidth]
    | some width =>
      obtain ⟨n, rfl, hpos, -⟩ := h.width_eq hwidth
      simpa [printedParts, hpad, hwidth, Numeral.ofInt_natCast] using
        Numeral.head?_ofNat_ne_zero hpos

theorem Canonical.fields_printedParts {spec : Spec} (h : spec.Canonical) :
    spec.printedParts.fields = spec := by
  have hfill : [spec.printedParts.fill.getD ' '] = spec.fill := by
    obtain ⟨c, hc⟩ := h.fill_eq
    by_cases hblank : c = ' ' <;> simp [printedParts, hc, hblank]
  have hprecision : spec.printedParts.places.map
      (fun digits ↦ Int.ofNat (Numeral.value digits)) = spec.precision := by
    cases hplaces : spec.precision with
    | none => simp [printedParts, hplaces]
    | some places =>
      obtain ⟨n, rfl, -⟩ := h.precision_eq hplaces
      simp [printedParts, hplaces, Numeral.ofInt_natCast]
  rw [Parts.fields, hfill, h.head?_digits, h.width_printedParts.1, hprecision]
  rfl

/-- The text of a canonical specifier is read as that specifier. -/
theorem Canonical.parse_print {spec : Spec} (h : spec.Canonical) :
    parse spec.print = .ok spec :=
  parse_eq_ok_iff.mpr ⟨spec.printedParts, ⟨h.wellFormed, h.text_printedParts⟩,
    h.short_printedParts, h.width_printedParts.2, h.fields_printedParts.symm⟩

theorem Canonical.print?_eq {spec : Spec} (h : spec.Canonical) :
    spec.print? = .ok spec.print :=
  if_pos h.writable

/-! ### The characters of a specifier -/

/-- A fill that is read is blank or stands in the text. -/
theorem mem_of_mem_fill_of_parse {text : Text} {spec : Spec} (h : parse text = .ok spec) {c : Char}
    (hc : c ∈ spec.fill) : c = ' ' ∨ c ∈ text := by
  obtain ⟨parts, hparts, -, -, rfl⟩ := parse_eq_ok_iff.mp h
  cases hfill : parts.fill with
  | none => exact Or.inl (by simpa [Parts.fields, hfill] using hc)
  | some fill =>
    refine Or.inr ?_
    rw [← hparts.2, Parts.text_eq, hfill]
    simpa [Parts.fields, hfill] using Or.inl hc

/-- The text of a canonical specifier has no brace but one in the fill. -/
theorem Canonical.ne_of_mem_print {spec : Spec} (h : spec.Canonical) {brace : Char}
    (hbrace : brace ∈ ['{', '}']) (hfill : brace ∉ spec.fill) {c : Char} (hc : c ∈ spec.print) :
    c ≠ brace := by
  rw [← h.text_printedParts, Parts.text_eq, List.mem_append, List.mem_append] at hc
  rcases hc with (hfront | halign) | hbehind
  · rintro rfl
    refine hfill (List.mem_of_mem_head? ?_)
    by_cases hblank : spec.fill = [' '] <;> simp [printedParts, hblank] at hfront
    exact hfront
  · rintro rfl
    cases hspec : spec.align with
    | none => simp [printedParts, hspec] at halign
    | some align => cases align <;> simp_all [printedParts, Alignment.char]
  · refine Parts.ne_of_mem_unalignedText h.wellFormed hbehind ?_
    simp only [List.mem_cons, List.not_mem_nil, or_false] at hbrace ⊢
    rcases hbrace with rfl | rfl <;> simp

/-! ### Round trips -/

/-- A specifier is read back from its own text just if it is canonical, and also just then is it
read from any text at all. -/
theorem roundTrips_iff_canonical (spec : Spec) :
    (spec.RoundTrips ↔ spec.Canonical) ∧
      (spec.Canonical ↔ ∃ text, parse text = .ok spec) := by
  refine ⟨⟨?_, fun h ↦ ⟨spec.print, h.print?_eq, h.parse_print⟩⟩,
    ⟨fun h ↦ ⟨spec.print, h.parse_print⟩, ?_⟩⟩
  · rintro ⟨text, -, hparse⟩
    exact canonical_of_parse hparse
  · rintro ⟨text, hparse⟩
    exact canonical_of_parse hparse

end BraceFormat.Spec
