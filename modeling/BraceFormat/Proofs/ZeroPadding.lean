import BraceFormat.Proofs.FixedPlaces
import BraceFormat.Proofs.ReadBack

/-!
# Zeros and signs of numbers

What a number shows is settled apart from how it is laid out: its sign, the marker of its base and
its digits do not depend on fill, alignment, zero padding and width (`render_with_eq_ok_iff`). So
zero padding puts zeros into the text that the number has without it, behind the sign and the
marker, and as many as fill would take. Nor do the marker and the digits depend on the sign, so the
opposite number is the same text with the other sign. Both hold of any specifier, those that no text
gives included (`render_isZeroPadded_and_opposite`).
-/

set_option autoImplicit false
set_option relaxedAutoImplicit false

namespace BraceFormat

/-! ### Opposite numbers -/

def Binary64.opposite : Binary64 → Binary64
  | nan => nan
  | infinity negative => infinity !negative
  | finite negative m => finite (!negative) m

namespace Value

/-- The number with the other sign. -/
def opposite : Value → Value
  | integer n => integer (-n)
  | float x => float x.opposite
  | string text => string text

@[simp] theorem kind_opposite (value : Value) : value.opposite.kind = value.kind := by
  cases value with
  | integer n => rfl
  | float x => rfl
  | string text => rfl

/-- Numbers with a sign: all but the integer zero, which is its own opposite, and no number. -/
inductive HasSign : Value → Prop
  | integer {n : Int} (h : n ≠ 0) : HasSign (.integer n)
  | infinity (negative : Bool) : HasSign (.float (.infinity negative))
  | finite (negative : Bool) (m : Magnitude) : HasSign (.float (.finite negative m))

/-! ### What a number shows -/

/-- The parts of a number as a specifier has them written; a text has none. -/
def numberText (spec : Spec) : Value → NumberText
  | integer n => integerText n spec
  | float x => floatText x spec
  | string _ => ⟨[], [], []⟩

/-- Numbers whose parts can be written as a specifier asks, before they are laid out. -/
def Showable (spec : Spec) : Value → Prop
  | integer n => n.natAbs < integerLimit
  | float x => refused spec .float = [] ∧ ∃ digits, floatDigits x spec.precision = .ok digits
  | string _ => False

end Value

section Rendering

variable {value : Value} {spec : Spec} {text : Text}

/-- A number is rendered if its parts can be written and laid out. -/
theorem render_eq_ok_iff (hnumber : value.kind ≠ .string) :
    render value spec = .ok text ↔
      value.Showable spec ∧ (value.numberText spec).layOut spec = .ok text := by
  cases value with
  | string _ => exact absurd rfl hnumber
  | integer n =>
    show _ ↔ n.natAbs < Value.integerLimit ∧ (integerText n spec).layOut spec = .ok text
    have hrender : render (.integer n) spec = (renderValue (.integer n) spec).mapError .fault := rfl
    rw [hrender, mapError_eq_ok_iff]
    rcases Nat.lt_or_ge n.natAbs Value.integerLimit with hsmall | hlarge
    · rw [renderValue_integer hsmall]
      exact (and_iff_right hsmall).symm
    · rw [renderValue_integer_of_le hlarge]
      refine iff_of_false (fun hok ↦ by cases hok) ?_
      rintro ⟨hsmall, -⟩
      exact Nat.not_lt.mpr hlarge hsmall
  | float x =>
    show _ ↔ (refused spec .float = [] ∧ ∃ digits, floatDigits x spec.precision = .ok digits) ∧
      (floatText x spec).layOut spec = .ok text
    cases hrefused : refused spec .float with
    | cons directive rest =>
      have hrender : render (.float x) spec = .error (unsupported spec directive .float) := by
        rw [render, Value.kind, hrefused]
      rw [hrender]
      refine iff_of_false (fun hok ↦ by cases hok) ?_
      rintro ⟨⟨haccepted, -⟩, -⟩
      exact List.cons_ne_nil directive rest haccepted
    | nil =>
      have hrender : render (.float x) spec = (renderValue (.float x) spec).mapError .fault := by
        rw [render, Value.kind, hrefused]
      rw [hrender, mapError_eq_ok_iff]
      cases hdigits : floatDigits x spec.precision with
      | error fault =>
        rw [renderValue_float_of_error hdigits]
        refine iff_of_false (fun hok ↦ by cases hok) ?_
        rintro ⟨⟨-, digits, hshown⟩, -⟩
        cases hshown
      | ok digits =>
        rw [renderValue_float_of_digits hdigits]
        exact (and_iff_right ⟨rfl, digits, rfl⟩).symm

/-- A text is not rendered where something is asked for that only numbers have. -/
theorem kind_ne_string_of_render (h : render value spec = .ok text)
    (hdirectives : spec.numericDirectives ≠ []) : value.kind ≠ .string := by
  intro hkind
  obtain ⟨directive, rest, hcons⟩ := List.exists_cons_of_ne_nil hdirectives
  have hrefused : refused spec value.kind = directive :: rest := by rw [hkind, refused, hcons]
  rw [render, hrefused] at h
  cases h

/-- The parts of a number do not depend on how it is laid out. -/
theorem render_with_eq_ok_iff (hnumber : value.kind ≠ .string) (hshown : value.Showable spec)
    (fill : Text) (align : Option Alignment) (zeroPad : Bool) (width : Option Int) :
    render value { spec with fill, align, zeroPad, width } = .ok text ↔
      (value.numberText spec).layOut { spec with fill, align, zeroPad, width } = .ok text := by
  rw [render_eq_ok_iff hnumber]
  cases value with
  | string _ => exact absurd rfl hnumber
  | integer n => exact and_iff_right hshown
  | float x => exact and_iff_right hshown

end Rendering

/-! ### Columns of a number -/

theorem ShowsPlaces.isDigit_or_mem_marks {count places : Nat} {whole fraction : Text}
    (h : ShowsPlaces count places whole fraction) :
    ∀ c ∈ pointed whole fraction, c.isDigit = true ∨ c ∈ Decimal.marks := by
  have hwhole := Decimal.isDigit_or_mem_marks_of_digits h.isNumeral.2
  unfold pointed
  split
  · exact hwhole
  · exact List.forall_mem_append.mpr ⟨hwhole, List.forall_mem_cons.mpr
      ⟨Or.inr (by decide), Decimal.isDigit_or_mem_marks_of_digits h.isDigit⟩⟩

section Digits

variable {x : Binary64} {c : Char}

theorem isPrintableAscii_of_mem_shortestMagnitude (h : c ∈ x.shortestMagnitude) :
    IsPrintableAscii c := by
  cases x with
  | nan => exact (by decide : ∀ c ∈ ['n', 'a', 'n'], IsPrintableAscii c) c h
  | infinity negative => exact (by decide : ∀ c ∈ ['i', 'n', 'f'], IsPrintableAscii c) c h
  | finite negative m =>
    obtain ⟨d, hspells, -⟩ := Binary64.exists_spells_shortestMagnitude negative m
    exact (plain_of_isDigit_or_mem_marks (hspells.isDigit_or_mem_marks c h)).1

theorem isPrintableAscii_of_mem_fixedMagnitude {places : Nat} (h : c ∈ x.fixedMagnitude places) :
    IsPrintableAscii c := by
  cases x with
  | nan => exact (by decide : ∀ c ∈ ['n', 'a', 'n'], IsPrintableAscii c) c h
  | infinity negative => exact (by decide : ∀ c ∈ ['i', 'n', 'f'], IsPrintableAscii c) c h
  | finite negative m =>
    obtain ⟨whole, fraction, hfixed, hshows⟩ := m.exists_fixed_eq places
    rw [Binary64.fixedMagnitude, hfixed] at h
    exact (plain_of_isDigit_or_mem_marks (hshows.isDigit_or_mem_marks c h)).1

theorem isPrintableAscii_of_mem_floatText {spec : Spec} (h : c ∈ (floatText x spec).digits) :
    IsPrintableAscii c := by
  simp only [floatText] at h
  cases hprecision : spec.precision with
  | none =>
    rw [hprecision, Option.elim_none] at h
    exact isPrintableAscii_of_mem_shortestMagnitude h
  | some places =>
    rw [hprecision, Option.elim_some] at h
    exact isPrintableAscii_of_mem_fixedMagnitude h

end Digits

/-- A number takes a column a character. -/
theorem displayWidth_text_numberText (value : Value) (spec : Spec) :
    displayWidth (value.numberText spec).text = (value.numberText spec).text.length := by
  cases value with
  | integer n => exact displayWidth_text_integerText n spec
  | string text => rfl
  | float x =>
    refine displayWidth_eq_length fun c hc ↦ ?_
    have hparts : (Value.numberText spec (.float x)).text =
        signText x.isNegative spec ++ (floatText x spec).digits := by
      rw [Value.numberText, NumberText.text, floatText, List.append_nil]
    rw [hparts, List.mem_append] at hc
    rcases hc with hsign | hdigits
    · exact isPrintableAscii_of_mem_signText hsign
    · exact isPrintableAscii_of_mem_floatText hdigits

/-! ### Zeros -/

/-- The sign and the marker are those of a value under a specifier. -/
structure NumberText.Introduces (number : NumberText) (value : Value) (spec : Spec) : Prop where
  sign : ∃ negative, value.isNegative = .ok negative ∧
    number.sign = if negative then ['-'] else if spec.sign = some .plus then ['+'] else []
  marker : number.marker = if spec.alternate then spec.base.marker else []

/-- A text is that of a value under zero padding to a width. -/
structure IsZeroPadded (value : Value) (spec : Spec) (width : Int) (text : Text) : Prop where
  /-- Without padding the number is the same but for the zeros behind its sign and marker. -/
  zeros : ∃ number : NumberText, number.Introduces value spec ∧
    render value { spec with fill := [' '], align := none, zeroPad := false, width := none } =
      .ok number.text ∧
    text = number.sign ++ number.marker ++
      List.replicate (width - number.text.length).toNat '0' ++ number.digits
  fill_align : ∀ fill align, render value { spec with fill, align } = .ok text
  /-- Blanks in place of the zeros make a text of the same length. -/
  length_eq : ∃ padded, render value { spec with fill := [' '], zeroPad := false } = .ok padded ∧
    padded.length = text.length

theorem introduces_numberText {value : Value} {spec : Spec} (h : value.Showable spec) :
    (value.numberText spec).Introduces value spec := by
  cases value with
  | string _ => exact h.elim
  | integer n =>
    have hsmall : n.natAbs < Value.integerLimit := h
    refine ⟨⟨decide (n < 0), ?_, rfl⟩, rfl⟩
    rw [Value.isNegative, if_pos hsmall]
  | float x =>
    refine ⟨⟨x.isNegative, rfl, rfl⟩, ?_⟩
    have halternate : spec.alternate = false := by
      by_contra halternate
      have hrefused := h.1
      simp [refused, halternate] at hrefused
    rw [halternate]
    rfl

namespace NumberText

/-- Zero padding that succeeds puts as many zeros into a number as it is short of the width. -/
theorem eq_of_layOut_zeroPad {number : NumberText} {spec : Spec} {width : Int} {text : Text}
    (h : number.layOut spec = .ok text) (hpad : spec.zeroPad = true)
    (hwidth : spec.width = some width) :
    text = number.sign ++ number.marker ++
        List.replicate (width - number.text.length).toNat '0' ++ number.digits ∧
      width - number.sign.length - number.marker.length ≤ maxCount := by
  unfold layOut at h
  rw [hpad, hwidth] at h
  simp only [map_eq_ok_iff, zeroFill] at h
  obtain ⟨digits, hdigits, rfl⟩ := h
  split at hdigits
  · cases hdigits
  · rename_i hfits
    have hzeros : (width - number.sign.length - number.marker.length).toNat -
        number.digits.length = (width - number.text.length).toNat := by
      rw [length_text]
      omega
    rw [← Except.ok.inj hdigits, List.leftpad, hzeros]
    exact ⟨by simp only [List.append_assoc], by omega⟩

/-- Zero padding leaves nothing for fill to do. -/
theorem layOut_with_fill_align (number : NumberText) {spec : Spec} {width : Int}
    (hpad : spec.zeroPad = true) (hwidth : spec.width = some width) (fill : Text)
    (align : Option Alignment) :
    number.layOut { spec with fill, align } = number.layOut spec := by
  unfold layOut
  rw [hpad, hwidth]

/-- Fill is as long as zeros would be. -/
theorem exists_layOut_fill (number : NumberText) {spec : Spec} {c : Char} {width : Int}
    (hfill : spec.fill = [c]) (hpad : spec.zeroPad = false) (hwidth : spec.width = some width)
    (hfits : width - number.sign.length - number.marker.length ≤ maxCount)
    (hcolumns : displayWidth number.text = number.text.length) :
    ∃ padded, number.layOut spec = .ok padded ∧
      padded.length = number.text.length + (width - number.text.length).toNat := by
  have hfills := (spec.align.getD .right).fills_split (width - number.text.length).toNat
  have htotal := hfills.total
  have hcounts : fillCounts number.text spec .right =
      (spec.align.getD .right).split (width - number.text.length).toNat := by
    rw [fillCounts, hwidth, Option.elim_some, hcolumns]
  have hshort : ¬ BraceFormat.Overfills number.text spec .right := by
    have hlength := number.length_text
    rw [BraceFormat.Overfills, hcounts]
    omega
  refine ⟨_, by rw [number.layOut_eq_pad hpad, pad_of_fill hfill, if_neg hshort], ?_⟩
  rw [hcounts]
  simp only [List.length_append, List.length_replicate]
  omega

end NumberText

theorem isZeroPadded_of_render {value : Value} {spec : Spec} {width : Int} {text : Text}
    (h : render value spec = .ok text) (hpad : spec.zeroPad = true)
    (hwidth : spec.width = some width) : IsZeroPadded value spec width text := by
  have hnumber : value.kind ≠ .string :=
    kind_ne_string_of_render h (by simp [Spec.numericDirectives, hpad])
  obtain ⟨hshown, hlayOut⟩ := (render_eq_ok_iff hnumber).mp h
  obtain ⟨htext, hfits⟩ := NumberText.eq_of_layOut_zeroPad hlayOut hpad hwidth
  refine ⟨⟨_, introduces_numberText hshown, ?_, htext⟩, fun fill align ↦ ?_, ?_⟩
  · exact (render_with_eq_ok_iff hnumber hshown [' '] none false none).mpr rfl
  · refine (render_with_eq_ok_iff hnumber hshown fill align spec.zeroPad spec.width).mpr ?_
    exact (NumberText.layOut_with_fill_align _ hpad hwidth fill align).trans hlayOut
  · let blank : Spec := { spec with fill := [' '], zeroPad := false }
    have hfill : blank.fill = [' '] := rfl
    obtain ⟨padded, hpadded, hlength⟩ := (value.numberText spec).exists_layOut_fill hfill rfl hwidth
      hfits (displayWidth_text_numberText value spec)
    refine ⟨padded, (render_with_eq_ok_iff hnumber hshown [' '] spec.align false spec.width).mpr
      hpadded, ?_⟩
    rw [hlength, htext, NumberText.length_text]
    simp only [List.length_append, List.length_replicate]
    omega

/-! ### Signs -/

/-- Texts that differ in one place, where one has a plus and the other a minus. -/
def DifferInSign (first second : Text) : Prop :=
  ∃ front back, (first = front ++ '+' :: back ∧ second = front ++ '-' :: back) ∨
    (first = front ++ '-' :: back ∧ second = front ++ '+' :: back)

theorem DifferInSign.length_eq {first second : Text} (h : DifferInSign first second) :
    first.length = second.length := by
  obtain ⟨front, back, ⟨rfl, rfl⟩ | ⟨rfl, rfl⟩⟩ := h
  · rw [List.length_append, List.length_append]
    rfl
  · rw [List.length_append, List.length_append]
    rfl

/-- What padding puts in front of a text of so many columns and behind it. -/
def padding (spec : Spec) (default : Alignment) (columns : Nat) : Except Fault (Text × Text) :=
  match spec.width with
  | none => .ok ([], [])
  | some width =>
    let missing := (width - columns).toNat
    if missing = 0 then .ok ([], [])
    else
      match spec.align.getD default with
      | .left => (repeatFill spec.fill missing).map ([], ·)
      | .right => (repeatFill spec.fill missing).map (·, [])
      | .center =>
        match repeatFill spec.fill (missing / 2) with
        | .error fault => .error fault
        | .ok before => (repeatFill spec.fill (missing - missing / 2)).map (before, ·)

/-- Padding depends on a text by its width alone. -/
theorem pad_eq_map (text : Text) (spec : Spec) (default : Alignment) :
    pad text spec default =
      (padding spec default (displayWidth text)).map fun sides ↦ sides.1 ++ text ++ sides.2 := by
  have hnone : Except.ok text =
      (Except.ok ([], []) : Except Fault (Text × Text)).map
        fun sides ↦ sides.1 ++ text ++ sides.2 :=
    congrArg Except.ok (List.append_nil text).symm
  unfold pad padding
  cases spec.width with
  | none => exact hnone
  | some width =>
    simp only
    split
    · exact hnone
    · cases spec.align.getD default with
      | left =>
        cases repeatFill spec.fill (width - displayWidth text).toNat with
        | error fault => rfl
        | ok fill => rfl
      | right =>
        cases repeatFill spec.fill (width - displayWidth text).toNat with
        | error fault => rfl
        | ok fill => exact congrArg Except.ok (List.append_nil (fill ++ text)).symm
      | center =>
        cases repeatFill spec.fill ((width - displayWidth text).toNat / 2) with
        | error fault => rfl
        | ok before =>
          simp only
          cases repeatFill spec.fill
              ((width - displayWidth text).toNat - (width - displayWidth text).toNat / 2) with
          | error fault => rfl
          | ok behind => rfl

/-- A number is laid out like one with another sign that takes as much room. -/
theorem NumberText.exists_layOut_eq_around {number : NumberText} {spec : Spec} {text : Text}
    (h : number.layOut spec = .ok text) :
    ∃ front back, text = front ++ number.sign ++ back ∧
      ∀ other : NumberText, other.marker = number.marker → other.digits = number.digits →
        other.sign.length = number.sign.length →
        displayWidth other.text = displayWidth number.text →
          other.layOut spec = .ok (front ++ other.sign ++ back) := by
  by_cases hzeros : spec.zeroPad = true ∧ ∃ width, spec.width = some width
  · obtain ⟨hpad, width, hwidth⟩ := hzeros
    have hlayOut : ∀ other : NumberText, other.layOut spec =
        (zeroFill other.digits (width - other.sign.length - other.marker.length)).map
          (other.sign ++ other.marker ++ ·) := by
      intro other
      rw [layOut, hpad, hwidth]
    rw [hlayOut, map_eq_ok_iff] at h
    obtain ⟨digits, hdigits, rfl⟩ := h
    refine ⟨[], number.marker ++ digits, List.append_assoc _ _ _,
      fun other hmarker hsame hlength _ ↦ ?_⟩
    rw [hlayOut, hmarker, hsame, hlength, hdigits]
    exact congrArg Except.ok (List.append_assoc _ _ _)
  · have hlayOut : ∀ other : NumberText, other.layOut spec = pad other.text spec .right := by
      intro other
      unfold layOut
      split
      · exact absurd ⟨‹_›, _, ‹_›⟩ hzeros
      · rfl
    rw [hlayOut, pad_eq_map, map_eq_ok_iff] at h
    obtain ⟨⟨before, behind⟩, hsides, rfl⟩ := h
    refine ⟨before, number.marker ++ number.digits ++ behind, by simp [NumberText.text],
      fun other hmarker hsame _ hcolumns ↦ ?_⟩
    rw [hlayOut, pad_eq_map, hcolumns, hsides]
    simp [Except.map, NumberText.text, hmarker, hsame]

theorem showable_opposite_iff (value : Value) (spec : Spec) :
    value.opposite.Showable spec ↔ value.Showable spec := by
  cases value with
  | string text => exact Iff.rfl
  | integer n =>
    show (-n).natAbs < Value.integerLimit ↔ n.natAbs < Value.integerLimit
    rw [Int.natAbs_neg]
  | float x =>
    cases x with
    | nan => exact Iff.rfl
    | infinity negative => exact Iff.rfl
    | finite negative m => exact Iff.rfl

/-- The opposite number has the same marker and digits. -/
theorem exists_numberText_opposite {value : Value} (h : value.HasSign) (spec : Spec) :
    ∃ negative marker digits,
      value.numberText spec = ⟨signText negative spec, marker, digits⟩ ∧
        value.opposite.numberText spec = ⟨signText (!negative) spec, marker, digits⟩ := by
  cases h with
  | infinity negative => exact ⟨negative, _, _, rfl, rfl⟩
  | finite negative m => exact ⟨negative, _, _, rfl, rfl⟩
  | @integer n hn =>
    refine ⟨decide (n < 0), _, _, rfl, ?_⟩
    have hsign : decide (-n < 0) = !decide (n < 0) := by
      rw [← decide_not, decide_eq_decide]
      omega
    show integerText (-n) spec = _
    rw [integerText, hsign, Int.natAbs_neg]

theorem signText_of_plus {spec : Spec} (h : spec.sign = some .plus) (negative : Bool) :
    signText negative spec = [if negative then '-' else '+'] := by
  rw [signText, if_pos h]
  cases negative with
  | true => rfl
  | false => rfl

theorem exists_render_opposite {value : Value} {spec : Spec} {text : Text}
    (h : render value spec = .ok text) (hplus : spec.sign = some .plus) (hvalue : value.HasSign) :
    ∃ other, render value.opposite spec = .ok other ∧ DifferInSign text other := by
  have hnumber : value.kind ≠ .string :=
    kind_ne_string_of_render h (by simp [Spec.numericDirectives, hplus])
  have hopposite : value.opposite.kind ≠ .string := by
    rwa [Value.kind_opposite]
  obtain ⟨hshown, hlayOut⟩ := (render_eq_ok_iff hnumber).mp h
  obtain ⟨negative, marker, digits, hfirst, hsecond⟩ := exists_numberText_opposite hvalue spec
  have hcolumns := displayWidth_text_numberText value spec
  have hcolumns' := displayWidth_text_numberText value.opposite spec
  rw [hfirst] at hlayOut hcolumns
  rw [hsecond] at hcolumns'
  obtain ⟨front, back, rfl, haround⟩ := NumberText.exists_layOut_eq_around hlayOut
  have hlength : (signText (!negative) spec).length = (signText negative spec).length := by
    rw [signText_of_plus hplus, signText_of_plus hplus]
    rfl
  have hother := haround ⟨signText (!negative) spec, marker, digits⟩ rfl rfl hlength (by
    rw [hcolumns, hcolumns', NumberText.length_text, NumberText.length_text, hlength])
  have hrender : render value.opposite spec = .ok (front ++ signText (!negative) spec ++ back) := by
    rw [render_eq_ok_iff hopposite, hsecond]
    exact ⟨(showable_opposite_iff value spec).mpr hshown, hother⟩
  refine ⟨_, hrender, front, back, ?_⟩
  rw [signText_of_plus hplus, signText_of_plus hplus]
  cases negative with
  | true => exact Or.inr ⟨List.append_assoc _ _ _, List.append_assoc _ _ _⟩
  | false => exact Or.inl ⟨List.append_assoc _ _ _, List.append_assoc _ _ _⟩

/-- What is rendered under zero padding is the plain text of the number with the missing zeros
behind its sign and marker, whatever fill and alignment are asked for. Where every sign is written,
the opposite number makes a text of the same length that differs in the sign alone. -/
theorem render_isZeroPadded_and_opposite {value : Value} {spec : Spec} {text : Text}
    (h : render value spec = .ok text) :
    (spec.zeroPad = true → ∀ width ∈ spec.width, IsZeroPadded value spec width text) ∧
      (spec.sign = some .plus → value.HasSign →
        ∃ other, render value.opposite spec = .ok other ∧ other.length = text.length ∧
          DifferInSign text other) := by
  refine ⟨fun hpad width hwidth ↦ isZeroPadded_of_render h hpad hwidth, fun hplus hvalue ↦ ?_⟩
  obtain ⟨other, hother, hdiffer⟩ := exists_render_opposite h hplus hvalue
  exact ⟨other, hother, hdiffer.length_eq.symm, hdiffer⟩

/-- Between the marker and the digits stand as many zeros as blanks would stand in front, and the
fill that is asked for is not needed. -/
theorem render_isZeroPadded_and_opposite_hex :
    ∃ spec, Spec.parse "*^+#08x".toList = .ok spec ∧
      render (.integer (-255)) spec = .ok "-0x000ff".toList ∧
      IsZeroPadded (.integer (-255)) spec 8 "-0x000ff".toList ∧
      render (.integer 255) spec = .ok "+0x000ff".toList ∧
      DifferInSign "-0x000ff".toList "+0x000ff".toList := by
  have hparse : Spec.parse "*^+#08x".toList =
      .ok ⟨['*'], some .center, some .plus, true, true, .hex, some 8, none⟩ := rfl
  have hrender : render (.integer (-255))
      ⟨['*'], some .center, some .plus, true, true, .hex, some 8, none⟩ =
        .ok "-0x000ff".toList := by decide +kernel
  have hopposite : render (.integer 255)
      ⟨['*'], some .center, some .plus, true, true, .hex, some 8, none⟩ =
        .ok "+0x000ff".toList := by decide +kernel
  obtain ⟨hzeros, hsigns⟩ := render_isZeroPadded_and_opposite hrender
  obtain ⟨other, hother, -, hdiffer⟩ := hsigns rfl (.integer (by decide))
  obtain rfl := Except.ok.inj (hopposite.symm.trans hother)
  exact ⟨_, hparse, hrender, hzeros rfl 8 rfl, hopposite, hdiffer⟩

end BraceFormat
