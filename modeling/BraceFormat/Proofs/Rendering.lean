import BraceFormat.Proofs.Spec.RoundTrip
import BraceFormat.Rendering

/-!
# Layouts and their limits

What rendering does under a canonical specifier, which is any that a text denotes. A padded text has
runs of the fill on its sides (`pad_of_fill`), and a number under zero padding has zeros between the
marker and the digits (`NumberText.layOut_of_zeroPad`). Rendering a value that the specifier allows
fails exactly when it asks for more than the numbers and texts can hold: a run of fill or zeros of
`2 ^ 63` characters, `2 ^ 31` decimal places, or the sign of an integer that is no finite binary64
number (`exists_render_eq_fault_iff`).
-/

set_option autoImplicit false
set_option relaxedAutoImplicit false

namespace BraceFormat

/-! ### Fill -/

/-- How often a fill for so many columns is repeated in front of a text and behind it. -/
def Alignment.split (missing : Nat) : Alignment → Nat × Nat
  | left => (0, missing)
  | right => (missing, 0)
  | center => (missing / 2, missing - missing / 2)

@[simp] theorem Alignment.split_zero (align : Alignment) : align.split 0 = (0, 0) := by
  cases align with
  | left => rfl
  | right => rfl
  | center => rfl

/-- How often the fill is repeated in front of a text and behind it. -/
def fillCounts (text : Text) (spec : Spec) (default : Alignment) : Nat × Nat :=
  (spec.align.getD default).split
    (spec.width.elim 0 fun width ↦ (width - displayWidth text).toNat)

/-- A run of fill that is longer than any text. -/
def Overfills (text : Text) (spec : Spec) (default : Alignment) : Prop :=
  maxCount < max (fillCounts text spec default).1 (fillCounts text spec default).2

instance (text : Text) (spec : Spec) (default : Alignment) :
    Decidable (Overfills text spec default) :=
  inferInstanceAs (Decidable (_ < _))

theorem repeatFill_singleton (c : Char) (count : Nat) :
    repeatFill [c] count =
      if maxCount < count then .error .fillTooLong else .ok (List.replicate count c) := by
  unfold repeatFill
  by_cases hlong : maxCount < count
  · rw [if_pos hlong, if_pos hlong]
  · rw [if_neg hlong, if_neg hlong, if_neg (by simpa using hlong), if_neg (List.cons_ne_nil c []),
      List.flatten_replicate_singleton]

/-- Padding with one character puts runs of it around the text. -/
theorem pad_of_fill {spec : Spec} {c : Char} (h : spec.fill = [c]) (text : Text)
    (default : Alignment) :
    pad text spec default =
      if Overfills text spec default then .error .fillTooLong
      else
        .ok (List.replicate (fillCounts text spec default).1 c ++ text ++
          List.replicate (fillCounts text spec default).2 c) := by
  cases hwidth : spec.width with
  | none => simp [pad, Overfills, fillCounts, hwidth]
  | some width =>
    simp only [pad, Overfills, fillCounts, hwidth, Option.elim_some, h, repeatFill_singleton]
    generalize (width - displayWidth text).toNat = missing
    by_cases hnone : missing = 0
    · simp [hnone]
    rw [if_neg hnone]
    cases spec.align.getD default with
    | left =>
      by_cases hlong : maxCount < missing
      · simp [Alignment.split, hlong, Except.map]
      · simp [Alignment.split, hlong, Except.map]
    | right =>
      by_cases hlong : maxCount < missing
      · simp [Alignment.split, hlong, Except.map]
      · simp [Alignment.split, hlong, Except.map]
    | center =>
      -- the run on the right is the longer one, so it alone decides
      have hlonger : max (missing / 2) (missing - missing / 2) = missing - missing / 2 :=
        Nat.max_eq_right (by omega)
      simp only [Alignment.split, hlonger]
      by_cases hlong : maxCount < missing - missing / 2
      · by_cases hfront : maxCount < missing / 2
        · simp [hlong, hfront]
        · simp [hlong, hfront, Except.map]
      · have hfront : ¬ maxCount < missing / 2 := by omega
        simp [hlong, hfront, Except.map]

/-! ### Numbers -/

namespace NumberText

/-- A run of fill or zeros that is longer than any text. -/
def Overfills (number : NumberText) (spec : Spec) : Prop :=
  if spec.zeroPad then
    ∃ width ∈ spec.width, (maxCount : Int) < width - number.sign.length - number.marker.length
  else BraceFormat.Overfills number.text spec .right

/-- Without zero padding a number is laid out as text is. -/
theorem layOut_eq_pad (number : NumberText) {spec : Spec} (h : spec.zeroPad = false) :
    number.layOut spec = pad number.text spec .right := by
  unfold layOut
  rw [h]

/-- Zero padding to a width puts zeros between the marker and the digits. -/
theorem layOut_of_zeroPad (number : NumberText) {spec : Spec} {width : Int}
    (hpad : spec.zeroPad = true) (hwidth : spec.width = some width) (hpos : 1 ≤ width)
    (hshort : number.sign.length + number.marker.length ≤ maxCount) :
    number.layOut spec =
      if (maxCount : Int) < width - number.sign.length - number.marker.length then
        .error .zerosTooLong
      else
        .ok (number.sign ++ number.marker ++
          number.digits.leftpad (width - number.sign.length - number.marker.length).toNat '0') := by
  have hlow : ¬ width - number.sign.length - number.marker.length < -(maxCount : Int) - 1 := by
    omega
  unfold layOut
  rw [hpad, hwidth]
  simp only [zeroFill, hlow, or_false]
  split
  · rfl
  · rfl

/-- Laying out a number fails when it asks for too long a run, and only then. -/
theorem exists_layOut_eq_error_iff {number : NumberText} {spec : Spec} (hspec : spec.Canonical)
    (hshort : number.sign.length + number.marker.length ≤ maxCount) :
    (∃ fault, number.layOut spec = .error fault) ↔ number.Overfills spec := by
  unfold Overfills
  cases hpad : spec.zeroPad with
  | true =>
    obtain ⟨width, hwidth⟩ := Option.ne_none_iff_exists'.mp (hspec.zeroPad hpad)
    rw [number.layOut_of_zeroPad hpad hwidth (hspec.width width hwidth).1 hshort, hwidth]
    by_cases hlong : (maxCount : Int) < width - number.sign.length - number.marker.length
    · simp [hlong]
    · simp [hlong]
  | false =>
    obtain ⟨c, hfill⟩ := hspec.fill_eq
    rw [number.layOut_eq_pad hpad, pad_of_fill hfill]
    by_cases hlong : BraceFormat.Overfills number.text spec .right
    · simp [hlong]
    · simp [hlong]

end NumberText

theorem length_signText_le (negative : Bool) (spec : Spec) :
    (signText negative spec).length ≤ 1 := by
  unfold signText
  split
  · exact Nat.le_refl 1
  · split
    · exact Nat.le_refl 1
    · exact Nat.zero_le 1

theorem Base.length_marker_le (base : Base) : base.marker.length ≤ 2 := by
  cases base with
  | decimal => exact Nat.zero_le 2
  | hex => exact Nat.le_refl 2
  | upperHex => exact Nat.le_refl 2
  | octal => exact Nat.le_refl 2
  | binary => exact Nat.le_refl 2

/-- The parts of a binary64 number as a specifier has them written. -/
def floatText (x : Binary64) (spec : Spec) : NumberText where
  sign := signText x.isNegative spec
  marker := []
  digits := spec.precision.elim x.shortestMagnitude fun places ↦ x.fixedMagnitude places.toNat

/-- The parts of an integer as a specifier has them written. -/
def integerText (n : Int) (spec : Spec) : NumberText where
  sign := signText (n < 0) spec
  marker := if spec.alternate then spec.base.marker else []
  digits := spec.base.digits n.natAbs

theorem length_sign_marker_integerText_le (n : Int) (spec : Spec) :
    (integerText n spec).sign.length + (integerText n spec).marker.length ≤ maxCount := by
  have hmarker : (integerText n spec).marker.length ≤ 2 := by
    show (if spec.alternate then spec.base.marker else []).length ≤ 2
    split
    · exact spec.base.length_marker_le
    · exact Nat.zero_le 2
  have hsign : (integerText n spec).sign.length ≤ 1 := length_signText_le _ spec
  have hcount : 3 ≤ maxCount := by decide
  omega

/-! ### Values -/

/-- A value for which a specifier asks more than the numbers and texts can hold. -/
def Value.Exceeds (spec : Spec) : Value → Prop
  | string text => Overfills text spec .left
  | float x =>
    (∃ places ∈ spec.precision, 2 ^ 31 - 1 < places) ∨ (floatText x spec).Overfills spec
  | integer n => integerLimit ≤ n.natAbs ∨ (integerText n spec).Overfills spec

theorem floatDigits_of_le {spec : Spec} (hspec : spec.Canonical)
    (h : ∀ places ∈ spec.precision, places ≤ 2 ^ 31 - 1) (x : Binary64) :
    floatDigits x spec.precision = .ok (floatText x spec).digits := by
  unfold floatDigits floatText
  cases hprecision : spec.precision with
  | none => rfl
  | some places =>
    have hle := h places hprecision
    have hnonneg := (hspec.precision places hprecision).1
    have hwritable := hspec.writable.2 places hprecision
    have hcount : ¬ (maxCount : Int) < places := by
      unfold maxCount
      omega
    show (if ¬ Numeral.Writable places then _ else _) = _
    rw [if_neg (not_not_intro hwritable), if_neg (by omega), if_neg hcount, if_neg (by omega),
      Option.elim_some]

theorem exists_floatDigits_eq_error {spec : Spec} {places : Int}
    (hplaces : spec.precision = some places) (h : 2 ^ 31 - 1 < places) (x : Binary64) :
    ∃ fault, floatDigits x spec.precision = .error fault := by
  unfold floatDigits
  rw [hplaces]
  simp only [if_pos h]
  split
  · exact ⟨_, rfl⟩
  · split
    · exact ⟨_, rfl⟩
    · split
      · exact ⟨_, rfl⟩
      · exact ⟨_, rfl⟩

theorem renderValue_string {spec : Spec} {c : Char} (h : spec.fill = [c]) (text : Text) :
    renderValue (.string text) spec =
      if Overfills text spec .left then .error .fillTooLong
      else
        .ok (List.replicate (fillCounts text spec .left).1 c ++ text ++
          List.replicate (fillCounts text spec .left).2 c) :=
  pad_of_fill h text .left

/-- Digits that can be written are those of the parts, whatever the specifier. -/
theorem eq_of_floatDigits {x : Binary64} {spec : Spec} {digits : Text}
    (h : floatDigits x spec.precision = .ok digits) : digits = (floatText x spec).digits := by
  unfold floatDigits at h
  unfold floatText
  cases hprecision : spec.precision with
  | none =>
    rw [hprecision] at h
    exact (Except.ok.inj h).symm
  | some places =>
    rw [hprecision] at h
    simp only at h
    split at h
    · cases h
    · split at h
      · cases h
      · split at h
        · cases h
        · split at h
          · cases h
          · exact (Except.ok.inj h).symm

theorem renderValue_float_of_digits {x : Binary64} {spec : Spec} {digits : Text}
    (h : floatDigits x spec.precision = .ok digits) :
    renderValue (.float x) spec = (floatText x spec).layOut spec := by
  have hdigits := eq_of_floatDigits h
  unfold renderValue
  simp only [h, hdigits]
  rfl

theorem renderValue_float_of_error {x : Binary64} {spec : Spec} {fault : Fault}
    (h : floatDigits x spec.precision = .error fault) :
    renderValue (.float x) spec = .error fault := by
  unfold renderValue
  simp only [h]

theorem renderValue_float {spec : Spec} (hspec : spec.Canonical)
    (h : ∀ places ∈ spec.precision, places ≤ 2 ^ 31 - 1) (x : Binary64) :
    renderValue (.float x) spec = (floatText x spec).layOut spec :=
  renderValue_float_of_digits (floatDigits_of_le hspec h x)

/-- A binary64 number is laid out if no base, alternate form or long precision is asked for. -/
theorem render_float {spec : Spec} (hspec : spec.Canonical) (hbase : spec.base = .decimal)
    (halternate : spec.alternate = false) (h : ∀ places ∈ spec.precision, places ≤ 2 ^ 31 - 1)
    (x : Binary64) :
    render (.float x) spec = ((floatText x spec).layOut spec).mapError .fault := by
  have hrefused : refused spec (Value.float x).kind = [] := by
    simp [refused, Value.kind, hbase, halternate]
  rw [← renderValue_float hspec h, render, hrefused]

theorem renderValue_integer {n : Int} (h : n.natAbs < Value.integerLimit) (spec : Spec) :
    renderValue (.integer n) spec = (integerText n spec).layOut spec := by
  have hnegative : (Value.integer n).isNegative = .ok (n < 0) := by
    unfold Value.isNegative
    simp only [if_pos h]
  unfold renderValue
  simp only [hnegative]
  rfl

theorem renderValue_integer_of_le {n : Int} (h : Value.integerLimit ≤ n.natAbs) (spec : Spec) :
    renderValue (.integer n) spec = .error .magnitudeTooLarge := by
  have hnegative : (Value.integer n).isNegative = .error .magnitudeTooLarge := by
    unfold Value.isNegative
    simp only [if_neg (Nat.not_lt.mpr h)]
  unfold renderValue
  simp only [hnegative]

theorem exists_renderValue_string_iff {text : Text} {spec : Spec} (hspec : spec.Canonical) :
    (∃ fault, renderValue (.string text) spec = .error fault) ↔ Overfills text spec .left := by
  obtain ⟨c, hfill⟩ := hspec.fill_eq
  rw [renderValue_string hfill]
  by_cases hlong : Overfills text spec .left
  · simp [hlong]
  · simp [hlong]

theorem exists_renderValue_float_iff {x : Binary64} {spec : Spec} (hspec : spec.Canonical) :
    (∃ fault, renderValue (.float x) spec = .error fault) ↔
      (∃ places ∈ spec.precision, 2 ^ 31 - 1 < places) ∨ (floatText x spec).Overfills spec := by
  by_cases hplaces : ∃ places ∈ spec.precision, 2 ^ 31 - 1 < places
  · obtain ⟨places, hprecision, hlarge⟩ := hplaces
    obtain ⟨fault, hfault⟩ := exists_floatDigits_eq_error hprecision hlarge x
    exact ⟨fun _ ↦ Or.inl ⟨places, hprecision, hlarge⟩,
      fun _ ↦ ⟨fault, renderValue_float_of_error hfault⟩⟩
  · have hle : ∀ places ∈ spec.precision, places ≤ 2 ^ 31 - 1 := fun places hmem ↦
      Int.not_lt.mp fun hlarge ↦ hplaces ⟨places, hmem, hlarge⟩
    have hshort : (floatText x spec).sign.length + (floatText x spec).marker.length ≤ maxCount :=
      Nat.le_trans (length_signText_le x.isNegative spec) (by decide)
    rw [renderValue_float hspec hle, NumberText.exists_layOut_eq_error_iff hspec hshort,
      or_iff_right hplaces]

theorem exists_renderValue_integer_iff {n : Int} {spec : Spec} (hspec : spec.Canonical) :
    (∃ fault, renderValue (.integer n) spec = .error fault) ↔
      Value.integerLimit ≤ n.natAbs ∨ (integerText n spec).Overfills spec := by
  by_cases hlarge : Value.integerLimit ≤ n.natAbs
  · exact ⟨fun _ ↦ Or.inl hlarge, fun _ ↦ ⟨_, renderValue_integer_of_le hlarge spec⟩⟩
  · rw [renderValue_integer (Nat.not_le.mp hlarge),
      NumberText.exists_layOut_eq_error_iff hspec (length_sign_marker_integerText_le n spec),
      or_iff_right hlarge]

/-- Rendering a value without regard to what its kind allows fails when the specifier asks too much
for it, and only then. -/
theorem exists_renderValue_eq_error_iff {value : Value} {spec : Spec} (hspec : spec.Canonical) :
    (∃ fault, renderValue value spec = .error fault) ↔ value.Exceeds spec := by
  cases value with
  | string text => exact exists_renderValue_string_iff hspec
  | float x => exact exists_renderValue_float_iff hspec
  | integer n => exact exists_renderValue_integer_iff hspec

/-- Rendering fails for a limit of the numbers and texts exactly when the kind of the value allows
what the specifier asks for, and the value exceeds a limit. -/
theorem exists_render_eq_fault_iff {value : Value} {spec : Spec} (hspec : spec.Canonical) :
    (∃ fault, render value spec = .error (.fault fault)) ↔
      refused spec value.kind = [] ∧ value.Exceeds spec := by
  rw [← exists_renderValue_eq_error_iff hspec]
  unfold render
  cases hrefused : refused spec value.kind with
  | nil =>
    cases renderValue value spec with
    | error fault =>
      show (∃ other, .error (.fault fault) = Except.error (Failure.fault other)) ↔ _
      simp
    | ok text => exact ⟨nofun, nofun⟩
  | cons directive rest =>
    simp [unsupported, Spec.print?, hspec.writable]

end BraceFormat
