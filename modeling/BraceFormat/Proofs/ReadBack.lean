import BraceFormat.Proofs.Number.Shortest
import BraceFormat.Proofs.Argument.Kind
import BraceFormat.Proofs.Integer

/-!
# Numbers that are rendered and read back

A number that is rendered in decimal digits, with zeros or blanks to fill the width, is read back
as the same value of the same kind (`exists_render_and_parse`). The zeros stand where they change
no number, and the point or the exponent of a binary64 number keeps it from being read as an
integer. Only an integer with too many zeros in front of it would be read as text.
-/

set_option autoImplicit false
set_option relaxedAutoImplicit false

namespace BraceFormat

/-- Specifiers that ask for a number in decimal digits, all that it has, filled with blanks or with
no more zeros than a numeral may have. -/
structure Spec.Plain (spec : Spec) : Prop where
  base : spec.base = .decimal
  alternate : spec.alternate = false
  precision : spec.precision = none
  fill : spec.fill = [' ']
  width : ∀ width ∈ spec.width, width < 2 ^ 63
  zeroPad : spec.zeroPad = true → ∀ width ∈ spec.width, width ≤ Numeral.maxDigits

/-- Integers whose sign can be written, and finite binary64 numbers. -/
inductive Value.IsFinite : Value → Prop
  | integer {n : Int} (h : n.natAbs < 2 ^ 1024 - 2 ^ 970) : IsFinite (.integer n)
  | float (negative : Bool) (m : Magnitude) : IsFinite (.float (.finite negative m))

/-! ### The characters of a number -/

/-- A character of a number takes a column, is no blank and does not end a name. -/
theorem plain_of_isDigit_or_mem_marks {c : Char} (h : c.isDigit = true ∨ c ∈ Decimal.marks) :
    IsPrintableAscii c ∧ isBlank c = false ∧ c ≠ '=' := by
  have hall : ∀ d ∈ "0123456789".toList ++ Decimal.marks,
      IsPrintableAscii d ∧ isBlank d = false ∧ d ≠ '=' := by decide
  refine hall c (List.mem_append.mpr (h.imp_left fun hdigit ↦ ?_))
  have hdigits : ∀ code < 58, 48 ≤ code → Char.ofNat code ∈ "0123456789".toList := by decide
  simp only [Char.isDigit, Bool.and_eq_true, decide_eq_true_eq, UInt32.le_iff_toNat_le] at hdigit
  have hcode := hdigits c.toNat (Nat.lt_succ_of_le hdigit.2) hdigit.1
  rwa [Char.ofNat_toNat] at hcode

theorem signed_signText (negative : Bool) (spec : Spec) (unsigned : Text) :
    Signed negative unsigned (signText negative spec ++ unsigned) := by
  unfold signText
  cases negative with
  | true => exact Signed.minus unsigned
  | false =>
    rw [if_neg Bool.false_ne_true]
    split
    · exact Signed.plus unsigned
    · exact Signed.bare unsigned

theorem mem_marks_of_mem_signText {negative : Bool} {spec : Spec} {c : Char}
    (h : c ∈ signText negative spec) : c ∈ Decimal.marks := by
  unfold signText at h
  split at h
  · rw [List.mem_singleton.mp h]
    decide
  · split at h
    · rw [List.mem_singleton.mp h]
      decide
    · cases h

/-! ### Layouts -/

theorem strips_of_forall {core : Text} (h : ∀ c ∈ core, isBlank c = false) (before after : Nat) :
    Strips (List.replicate before ' ' ++ core ++ List.replicate after ' ') core where
  blanks := by
    have hblank : ∀ count, ∀ c ∈ List.replicate count ' ', isBlank c = true := by
      intro count c hc
      rw [List.eq_of_mem_replicate hc]
      decide
    exact ⟨_, _, rfl, List.forall_mem_append.mpr ⟨hblank before, hblank after⟩⟩
  head := fun c hc ↦ h c (List.mem_of_head? hc)
  last := fun c hc ↦ h c (List.mem_of_getLast? hc)

/-- A number between blanks is read as an argument without a name. -/
theorem Argument.parse_blanks {core : Text} {value : Value}
    (hcore : ∀ c ∈ core, isBlank c = false ∧ c ≠ '=') (hread : Value.read core = .ok value)
    (before after : Nat) (position : Int) :
    parse (List.replicate before ' ' ++ core ++ List.replicate after ' ') position =
      .ok ⟨position, none, value, core⟩ := by
  have hmark : '=' ∉ List.replicate before ' ' ++ core ++ List.replicate after ' ' := by
    intro hmem
    rw [List.mem_append, List.mem_append] at hmem
    rcases hmem with (hmem | hmem) | hmem
    · exact absurd (List.eq_of_mem_replicate hmem) (by decide)
    · exact (hcore '=' hmem).2 rfl
    · exact absurd (List.eq_of_mem_replicate hmem) (by decide)
  have hstrips := strips_of_forall (fun c hc ↦ (hcore c hc).1) before after
  rw [parse, (SplitsName.unnamed hmark hstrips).splitName_eq]
  simp only [hread]
  rfl

/-- Zeros make a number no longer than the width that asks for them. -/
theorem NumberField.LaidOut.zeros_add_length_le {field : NumberField} {spec : Spec}
    (h : field.LaidOut spec)
    (hwidth : spec.zeroPad = true → ∀ width ∈ spec.width, width ≤ Numeral.maxDigits) :
    field.zeros + field.digits.length ≤ max Numeral.maxDigits field.digits.length := by
  cases hpad : spec.zeroPad with
  | false =>
    rw [(h.fill hpad).1, Nat.zero_add]
    exact Nat.le_max_right _ _
  | true =>
    -- the digits alone may be longer than the width, and then there are no zeros
    have hshort : (spec.width.getD 0).toNat ≤ Numeral.maxDigits := by
      cases hspec : spec.width with
      | none => exact Nat.zero_le _
      | some width =>
        have hle := hwidth hpad width hspec
        rw [Option.getD_some]
        omega
    have htotal := h.total
    rw [NumberField.missing] at htotal
    omega

/-- A number is read back from its layout if it is read with zeros between its sign and its digits,
as long as they are no more than a numeral may have. -/
theorem exists_layOut_and_parse {spec : Spec} (hspec : spec.Canonical) (hplain : spec.Plain)
    {negative : Bool} {digits : Text} {value : Value}
    (hdigits : ∀ c ∈ digits, c.isDigit = true ∨ c ∈ Decimal.marks)
    (hread : ∀ zeros, zeros + digits.length ≤ max Numeral.maxDigits digits.length →
      Value.read (signText negative spec ++ (List.replicate zeros '0' ++ digits)) = .ok value)
    (position : Int) :
    ∃ text core, NumberText.layOut ⟨signText negative spec, [], digits⟩ spec = .ok text ∧
      Argument.parse text position = .ok ⟨position, none, value, core⟩ := by
  have hsign : ∀ c ∈ signText negative spec, c.isDigit = true ∨ c ∈ Decimal.marks :=
    fun c hc ↦ Or.inr (mem_marks_of_mem_signText hc)
  have hcolumns : displayWidth (signText negative spec ++ [] ++ digits) =
      (signText negative spec ++ [] ++ digits).length := by
    refine displayWidth_eq_length fun c hc ↦ ?_
    rw [List.append_nil] at hc
    exact (plain_of_isDigit_or_mem_marks (List.forall_mem_append.mpr ⟨hsign, hdigits⟩ c hc)).1
  have hshort : (signText negative spec).length + 0 ≤ maxCount :=
    Nat.le_trans (length_signText_le negative spec) (by decide)
  obtain ⟨⟨number, before, zeros, after⟩, rfl, hlayOut, hlaidOut⟩ :=
    NumberText.exists_layOut_eq ⟨signText negative spec, [], digits⟩ hspec hplain.width hshort
      hcolumns
  have hcore : ∀ c ∈ signText negative spec ++ (List.replicate zeros '0' ++ digits),
      isBlank c = false ∧ c ≠ '=' := by
    have hzeros : ∀ c ∈ List.replicate zeros '0', c.isDigit = true ∨ c ∈ Decimal.marks :=
      fun c hc ↦ Or.inl (Numeral.isDigit_of_mem_zeros c hc)
    have hall := List.forall_mem_append.mpr
      ⟨hsign, List.forall_mem_append.mpr ⟨hzeros, hdigits⟩⟩
    exact fun c hc ↦ (plain_of_isDigit_or_mem_marks (hall c hc)).2
  refine ⟨_, signText negative spec ++ (List.replicate zeros '0' ++ digits), hlayOut, ?_⟩
  simp only [NumberField.textWith, hplain.fill, List.flatten_replicate_singleton, List.append_nil]
  rw [List.append_assoc (List.replicate before ' ' ++ signText negative spec),
    List.append_assoc (List.replicate before ' ')]
  exact Argument.parse_blanks hcore (hread _ (hlaidOut.zeros_add_length_le hplain.zeroPad)) _ _ _

/-! ### Numbers -/

theorem eq_signed_natAbs (n : Int) : n = if n < 0 then -(n.natAbs : Int) else n.natAbs := by
  split
  · omega
  · omega

theorem length_ofNat_natAbs_le {n : Int} (h : n.natAbs < Value.integerLimit) :
    (Numeral.ofNat n.natAbs).length ≤ Numeral.maxDigits := by
  have hlimit : Value.integerLimit ≤ 10 ^ Numeral.maxDigits := by decide +kernel
  exact Numeral.length_ofNat_le_iff.mpr (Nat.lt_of_lt_of_le h hlimit)

theorem integerText_of_plain {spec : Spec} (hplain : spec.Plain) (n : Int) :
    integerText n spec = ⟨signText (n < 0) spec, [], Numeral.ofNat n.natAbs⟩ := by
  rw [integerText, hplain.base, hplain.alternate]
  rfl

theorem floatText_of_plain {spec : Spec} (hplain : spec.Plain) (negative : Bool) (m : Magnitude) :
    floatText (.finite negative m) spec =
      ⟨signText negative spec, [], (Binary64.finite negative m).shortestMagnitude⟩ := by
  rw [floatText, hplain.precision, Option.elim_none, Binary64.isNegative]

theorem exists_layOut_integer_and_parse {spec : Spec} (hspec : spec.Canonical)
    (hplain : spec.Plain) {n : Int} (hn : n.natAbs < Value.integerLimit) (position : Int) :
    ∃ text core, (integerText n spec).layOut spec = .ok text ∧
      Argument.parse text position = .ok ⟨position, none, .integer n, core⟩ := by
  rw [integerText_of_plain hplain]
  refine exists_layOut_and_parse hspec hplain ?_ (fun zeros hzeros ↦ ?_) position
  · exact fun c hc ↦ Or.inl (Numeral.isDigit_of_mem_ofNat hc)
  · rw [Nat.max_eq_left (length_ofNat_natAbs_le hn)] at hzeros
    refine Value.read_eq_integer_iff.mpr ⟨_, _, signed_signText _ spec _,
      (Numeral.isNumeral_ofNat _).zeros_append zeros, ?_, ?_⟩
    · rwa [List.length_append, List.length_replicate]
    · rw [Numeral.value_zeros_append, Numeral.value_ofNat]
      simp only [decide_eq_true_eq]
      exact eq_signed_natAbs n

/-- A decimal fraction with a point or an exponent is not taken for an integer. -/
theorem not_isIntegerText_of_spells {negative : Bool} {unsigned text : Text} {d : Decimal}
    (hsigned : Signed negative unsigned text) (hspells : Decimal.Spells unsigned d)
    (hmark : ∃ c ∈ unsigned, c.isDigit = false) : ¬ Value.isIntegerText text = true := by
  intro hinteger
  obtain ⟨other, digits, hsplit, hdigits⟩ := Value.isIntegerText_iff.mp hinteger
  have hunsigned : splitSign text = (negative, unsigned) :=
    hsigned.splitSign_eq (hspells.head?_ne (by decide) (by decide))
      (hspells.head?_ne (by decide) (by decide))
  rw [hsplit.splitSign_of_isNumeral hdigits] at hunsigned
  obtain ⟨rfl, rfl⟩ := Prod.ext_iff.mp hunsigned
  obtain ⟨c, hc, hnot⟩ := hmark
  rw [hdigits.2 c hc] at hnot
  cases hnot

theorem exists_layOut_float_and_parse {spec : Spec} (hspec : spec.Canonical) (hplain : spec.Plain)
    (negative : Bool) (m : Magnitude) (position : Int) :
    ∃ text core, (floatText (.finite negative m) spec).layOut spec = .ok text ∧
      Argument.parse text position = .ok ⟨position, none, .float (.finite negative m), core⟩ := by
  obtain ⟨d, hspells, hvalue⟩ := Binary64.exists_spells_shortestMagnitude negative m
  rw [floatText_of_plain hplain]
  refine exists_layOut_and_parse hspec hplain hspells.isDigit_or_mem_marks (fun zeros _ ↦ ?_)
    position
  have hzeros := hspells.zeros_append zeros
  have hsigned := signed_signText negative spec
    (List.replicate zeros '0' ++ (Binary64.finite negative m).shortestMagnitude)
  have hfloat := Value.SpellsFloat.decimal hsigned hzeros
  simp only [Binary64.ofDecimal, hvalue] at hfloat
  obtain ⟨c, hc, hmark⟩ :=
    Decimal.exists_not_isDigit_write Binary64.shortestLayout m.shortestDecimal
  exact Value.read_of_spellsFloat (not_isIntegerText_of_spells hsigned hzeros
    ⟨c, List.mem_append_right _ hc, hmark⟩) hfloat

/-- A number that is rendered in decimal digits and filled with blanks or with zeros is read as the
same value of the same kind, without a name. -/
theorem exists_render_and_parse {raw : Text} {spec : Spec} (hspec : Spec.parse raw = .ok spec)
    (hplain : spec.Plain) {value : Value} (hvalue : value.IsFinite) (position : Int) :
    ∃ text core, render value spec = .ok text ∧
      Argument.parse text position = .ok ⟨position, none, value, core⟩ := by
  have hcanonical := Spec.canonical_of_parse hspec
  cases hvalue with
  | integer hn =>
    rw [← Value.integerLimit_eq] at hn
    obtain ⟨text, core, hlayOut, hparse⟩ :=
      exists_layOut_integer_and_parse hcanonical hplain hn position
    refine ⟨text, core, ?_, hparse⟩
    rw [render_integer hn, hlayOut]
    rfl
  | float negative m =>
    obtain ⟨text, core, hlayOut, hparse⟩ :=
      exists_layOut_float_and_parse hcanonical hplain negative m position
    refine ⟨text, core, ?_, hparse⟩
    rw [render_float hcanonical hplain.base hplain.alternate, hlayOut]
    · rfl
    · rw [hplain.precision]
      exact nofun

/-- Zeros between the sign and the digits do not change that one number is an integer and the other
is not, nor the sign of the zero. -/
theorem exists_render_and_parse_zeros :
    ∃ spec, Spec.parse "+06".toList = .ok spec ∧ spec.Plain ∧
      (Value.integer (-7)).IsFinite ∧ (Value.float (.finite true .zero)).IsFinite ∧
      (∃ core, Argument.parse "-00007".toList 1 = .ok ⟨1, none, .integer (-7), core⟩) ∧
      ∃ core, Argument.parse "-000.0".toList 1 =
        .ok ⟨1, none, .float (.finite true .zero), core⟩ := by
  have hparse : Spec.parse "+06".toList =
      .ok ⟨[' '], none, some .plus, false, true, .decimal, some 6, none⟩ := rfl
  have hplain : Spec.Plain ⟨[' '], none, some .plus, false, true, .decimal, some 6, none⟩ :=
    ⟨rfl, rfl, rfl, rfl, by decide, by decide⟩
  have hinteger : (Value.integer (-7)).IsFinite := .integer (by decide +kernel)
  have hzero : (Value.float (.finite true .zero)).IsFinite := .float true .zero
  obtain ⟨text, core, hseven, hread⟩ := exists_render_and_parse hparse hplain hinteger 1
  obtain ⟨other, rest, hnone, hback⟩ := exists_render_and_parse hparse hplain hzero 1
  rw [show render _ _ = .ok "-00007".toList by decide +kernel] at hseven
  rw [show render _ _ = .ok "-000.0".toList by decide +kernel] at hnone
  obtain rfl := Except.ok.inj hseven
  obtain rfl := Except.ok.inj hnone
  exact ⟨_, hparse, hplain, hinteger, hzero, ⟨core, hread⟩, ⟨rest, hback⟩⟩

end BraceFormat
