import BraceFormat.Proofs.Padding

/-!
# Integers as they are rendered

The digits of an integer are its numeral in the base of the specifier (`Base.writes_digits`), and in
front of them stand its sign and the marker of the base. What is missing from the width is zeros in
front of the digits or fill around the whole (`exists_render_integer_eq`). Zeros are counted by
characters and fill by columns, which comes to the same, since all of a rendered integer is
printable ASCII (`displayWidth_text_integerText`).
-/

set_option autoImplicit false
set_option relaxedAutoImplicit false

namespace BraceFormat

/-! ### Numerals in a base -/

namespace Base

/-- The digits of a base in the order of their values. -/
def alphabet : Base → Text
  | decimal => "0123456789".toList
  | hex => "0123456789abcdef".toList
  | upperHex => "0123456789ABCDEF".toList
  | octal => "01234567".toList
  | binary => "01".toList

/-- The number that a run of digits denotes. -/
def valueOf (base : Base) (digits : Text) : Nat :=
  digits.foldl (fun n c ↦ base.alphabet.length * n + base.alphabet.idxOf c) 0

/-- A text is the numeral of a number. -/
structure Writes (base : Base) (n : Nat) (numeral : Text) : Prop where
  ne_nil : numeral ≠ []
  mem_alphabet : ∀ c ∈ numeral, c ∈ base.alphabet
  valueOf_eq : base.valueOf numeral = n
  eq_zero_of_head? : numeral.head? = some '0' → numeral = ['0']

theorem length_alphabet (base : Base) : base.alphabet.length = base.radix := by
  cases base with
  | decimal => rfl
  | hex => rfl
  | upperHex => rfl
  | octal => rfl
  | binary => rfl

theorem two_le_radix (base : Base) : 2 ≤ base.radix := by
  cases base with
  | decimal => decide
  | hex => decide
  | upperHex => decide
  | octal => decide
  | binary => decide

theorem valueOf_append_singleton (base : Base) (front : Text) (c : Char) :
    base.valueOf (front ++ [c]) = base.radix * base.valueOf front + base.alphabet.idxOf c := by
  rw [valueOf, valueOf, List.foldl_append, length_alphabet]
  rfl

theorem valueOf_zero (base : Base) : base.valueOf ['0'] = 0 := by
  cases base with
  | decimal => rfl
  | hex => rfl
  | upperHex => rfl
  | octal => rfl
  | binary => rfl

/-- The digits of a number below the radix are the one with its value. -/
theorem exists_digits_of_lt (base : Base) {n : Nat} (h : n < base.radix) :
    ∃ c ∈ base.alphabet, base.digits n = [c] ∧ base.alphabet.idxOf c = n ∧ (c = '0' → n = 0) := by
  have hall : ∀ k < base.radix, base.alphabet.getD k '0' ∈ base.alphabet ∧
      base.digits k = [base.alphabet.getD k '0'] ∧
      base.alphabet.idxOf (base.alphabet.getD k '0') = k ∧
      (base.alphabet.getD k '0' = '0' → k = 0) := by
    cases base with
    | decimal => decide
    | hex => decide
    | upperHex => decide
    | octal => decide
    | binary => decide
  exact ⟨_, hall n h⟩

/-- The last of several digits is that of the remainder. -/
theorem digits_of_le (base : Base) {n : Nat} (h : base.radix ≤ n) :
    base.digits n = base.digits (n / base.radix) ++ base.digits (n % base.radix) := by
  have hdigits : Nat.toDigits base.radix n =
      Nat.toDigits base.radix (n / base.radix) ++ Nat.toDigits base.radix (n % base.radix) := by
    have hlt := Nat.mod_lt n (Nat.lt_of_lt_of_le Nat.two_pos base.two_le_radix)
    rw [Nat.toDigits_of_base_le base.two_le_radix h, Nat.toDigits_of_lt_base hlt]
  cases base with
  | upperHex => exact (congrArg (List.map Char.toUpper) hdigits).trans List.map_append
  | decimal => exact hdigits
  | hex => exact hdigits
  | octal => exact hdigits
  | binary => exact hdigits

theorem writes_digits (base : Base) (n : Nat) : base.Writes n (base.digits n) := by
  induction n using Nat.strongRecOn with
  | ind n ih =>
    rcases Nat.lt_or_ge n base.radix with hsmall | hlarge
    · obtain ⟨c, hc, hdigits, hvalue, hzero⟩ := base.exists_digits_of_lt hsmall
      rw [hdigits]
      exact {
        ne_nil := List.cons_ne_nil c []
        mem_alphabet := List.forall_mem_singleton.mpr hc
        valueOf_eq := by
          rw [← List.nil_append [c], valueOf_append_singleton, hvalue]
          exact Nat.zero_add n
        eq_zero_of_head? := fun hhead ↦ congrArg (· :: []) (Option.some.inj hhead) }
    · have htwo := base.two_le_radix
      have hpos : 0 < n / base.radix := Nat.div_pos hlarge (by omega)
      have hfront := ih (n / base.radix) (Nat.div_lt_self (by omega) htwo)
      obtain ⟨c, hc, hlast, hvalue, -⟩ :=
        base.exists_digits_of_lt (Nat.mod_lt n (by omega : 0 < base.radix))
      rw [base.digits_of_le hlarge, hlast]
      exact {
        ne_nil := List.append_ne_nil_of_right_ne_nil _ (List.cons_ne_nil c [])
        mem_alphabet := List.forall_mem_append.mpr
          ⟨hfront.mem_alphabet, List.forall_mem_singleton.mpr hc⟩
        valueOf_eq := by
          rw [valueOf_append_singleton, hfront.valueOf_eq, hvalue]
          exact Nat.div_add_mod n base.radix
        eq_zero_of_head? := by
          -- the digits in front would be that zero alone, and they denote a positive number
          intro hhead
          obtain ⟨first, rest, hcons⟩ := List.exists_cons_of_ne_nil hfront.ne_nil
          have hfirst : (base.digits (n / base.radix)).head? = some '0' := by
            rw [hcons] at hhead ⊢
            exact hhead
          have hzero := hfront.valueOf_eq
          rw [hfront.eq_zero_of_head? hfirst, valueOf_zero] at hzero
          exact absurd hzero (Nat.ne_of_lt hpos) }

/-- The letters of a base, those of its marker included, are printable. -/
theorem isPrintableAscii_of_mem (base : Base) :
    ∀ c ∈ base.marker ++ base.alphabet, IsPrintableAscii c := by
  have hall : (base.marker ++ base.alphabet).all (fun c ↦ IsPrintableAscii c) = true := by
    cases base with
    | decimal => rfl
    | hex => rfl
    | upperHex => rfl
    | octal => rfl
    | binary => rfl
  exact fun c hc ↦ of_decide_eq_true (List.all_eq_true.mp hall c hc)

end Base

/-! ### Fields with a number -/

/-- A number in a field, with zeros in front of its digits and fill around it. -/
structure NumberField extends NumberText where
  before : Nat
  zeros : Nat
  after : Nat

namespace NumberField

def textWith (field : NumberField) (fill : Text) : Text :=
  (List.replicate field.before fill).flatten ++ field.sign ++ field.marker ++
    List.replicate field.zeros '0' ++ field.digits ++ (List.replicate field.after fill).flatten

/-- How many characters the number is short of a width. -/
def missing (field : NumberField) (width : Option Int) : Nat :=
  (width.getD 0).toNat - (field.sign.length + field.marker.length + field.digits.length)

/-- The field is filled as a specifier asks. -/
structure LaidOut (field : NumberField) (spec : Spec) : Prop where
  total : field.before + field.zeros + field.after = field.missing spec.width
  zeroPad : spec.zeroPad = true → field.before = 0 ∧ field.after = 0
  fill : spec.zeroPad = false → field.zeros = 0 ∧
    (spec.align.getD .right).Fills (field.missing spec.width) field.before field.after

end NumberField

namespace NumberText

theorem length_text (number : NumberText) :
    number.text.length = number.sign.length + number.marker.length + number.digits.length := by
  rw [text, List.length_append, List.length_append]

/-- A number that takes a column a character is laid out in any width that a text can have. -/
theorem exists_layOut_eq (number : NumberText) {spec : Spec} (hspec : spec.Canonical)
    (hwidth : ∀ width ∈ spec.width, width < 2 ^ 63)
    (hshort : number.sign.length + number.marker.length ≤ maxCount)
    (hcolumns : displayWidth number.text = number.text.length) :
    ∃ field : NumberField, field.toNumberText = number ∧
      number.layOut spec = .ok (field.textWith spec.fill) ∧ field.LaidOut spec := by
  cases hpad : spec.zeroPad with
  | true =>
    obtain ⟨width, hsome⟩ := Option.ne_none_iff_exists'.mp (hspec.zeroPad hpad)
    have hfits : ¬ (maxCount : Int) < width - number.sign.length - number.marker.length := by
      have hlt := hwidth width hsome
      rw [maxCount]
      omega
    let zeros := (width - number.sign.length - number.marker.length).toNat - number.digits.length
    refine ⟨{ number with before := 0, zeros, after := 0 }, rfl, ?_, ?_, fun _ ↦ ⟨rfl, rfl⟩, ?_⟩
    · rw [number.layOut_of_zeroPad hpad hsome (hspec.width width hsome).1 hshort, if_neg hfits]
      simp [NumberField.textWith, List.leftpad, zeros]
    · simp only [NumberField.missing, hsome, Option.getD_some, zeros]
      omega
    · exact fun hplain ↦ absurd hplain (by simp [hpad])
  | false =>
    obtain ⟨c, hc⟩ := hspec.fill_eq
    obtain ⟨before, after, htext, hfills⟩ := exists_pad_eq hc hwidth number.text .right
    rw [hcolumns, length_text] at hfills
    refine ⟨{ number with before, zeros := 0, after }, rfl, ?_, hfills.total, ?_,
      fun _ ↦ ⟨rfl, hfills⟩⟩
    · rw [number.layOut_eq_pad hpad, htext, hc]
      simp [NumberField.textWith, NumberText.text]
    · exact fun hzeros ↦ absurd hzeros (by simp [hpad])

end NumberText

/-! ### Integers -/

/-- The parts of a number are those of an integer as a specifier asks for them. -/
structure NumberText.ShowsInteger (number : NumberText) (n : Int) (spec : Spec) : Prop where
  digits : spec.base.Writes n.natAbs number.digits
  sign : number.sign = if n < 0 then ['-'] else if spec.sign = some .plus then ['+'] else []
  marker : number.marker = if spec.alternate then spec.base.marker else []

theorem showsInteger_integerText (n : Int) (spec : Spec) :
    (integerText n spec).ShowsInteger n spec where
  digits := spec.base.writes_digits n.natAbs
  sign := by simp only [integerText, signText, decide_eq_true_eq]
  marker := rfl

theorem isPrintableAscii_of_mem_signText {negative : Bool} {spec : Spec} {c : Char}
    (h : c ∈ signText negative spec) : IsPrintableAscii c := by
  unfold signText at h
  split at h
  · rw [List.mem_singleton.mp h]
    decide
  · split at h
    · rw [List.mem_singleton.mp h]
      decide
    · exact absurd h List.not_mem_nil

/-- All of a rendered integer is printable ASCII. -/
theorem displayWidth_text_integerText (n : Int) (spec : Spec) :
    displayWidth (integerText n spec).text = (integerText n spec).text.length := by
  refine displayWidth_eq_length fun c hc ↦ ?_
  rw [NumberText.text, List.mem_append, List.mem_append] at hc
  rcases hc with (hsign | hmarker) | hdigits
  · exact isPrintableAscii_of_mem_signText hsign
  · simp only [integerText] at hmarker
    split at hmarker
    · exact spec.base.isPrintableAscii_of_mem c (List.mem_append_left _ hmarker)
    · exact absurd hmarker List.not_mem_nil
  · exact spec.base.isPrintableAscii_of_mem c
      (List.mem_append_right _ ((spec.base.writes_digits n.natAbs).mem_alphabet c hdigits))

theorem Value.integerLimit_eq : integerLimit = 2 ^ 1024 - 2 ^ 970 := by
  have hwhole : wholeBits = 1024 := rfl
  have hfraction : wholeBits - 54 = 970 := rfl
  rw [integerLimit, hfraction, hwhole]

theorem render_integer {n : Int} (h : n.natAbs < Value.integerLimit) (spec : Spec) :
    render (.integer n) spec = ((integerText n spec).layOut spec).mapError .fault := by
  rw [← renderValue_integer h]
  rfl

/-- An integer that has a sign is rendered under any specifier whose width a text can have: fill,
sign, marker, zeros, digits and fill, the precision making no difference. -/
theorem exists_render_integer_eq {raw : Text} {spec : Spec} (hspec : Spec.parse raw = .ok spec)
    (hwidth : ∀ width ∈ spec.width, width < 2 ^ 63) {n : Int}
    (hn : n.natAbs < 2 ^ 1024 - 2 ^ 970) :
    ∃ field : NumberField, render (.integer n) spec = .ok (field.textWith spec.fill) ∧
      field.ShowsInteger n spec ∧ field.LaidOut spec ∧
      ∀ precision, render (.integer n) { spec with precision } = render (.integer n) spec := by
  rw [← Value.integerLimit_eq] at hn
  obtain ⟨field, hnumber, hlayOut, hlaidOut⟩ :=
    (integerText n spec).exists_layOut_eq (Spec.canonical_of_parse hspec) hwidth
      (length_sign_marker_integerText_le n spec) (displayWidth_text_integerText n spec)
  refine ⟨field, ?_, ?_, hlaidOut, fun precision ↦ ?_⟩
  · rw [render_integer hn, hlayOut]
    rfl
  · rw [hnumber]
    exact showsInteger_integerText n spec
  · rw [render_integer hn, render_integer hn]
    rfl

/-- Of five missing columns three go behind the number, and its letters are capitals while that of
the marker is not. -/
theorem exists_render_integer_eq_upperHex :
    ∃ spec, Spec.parse "*^#10.2X".toList = .ok spec ∧ (∀ width ∈ spec.width, width < 2 ^ 63) ∧
      Int.natAbs (-255) < 2 ^ 1024 - 2 ^ 970 ∧
      ∃ field : NumberField, "**-0xFF***".toList = field.textWith spec.fill ∧
        field.ShowsInteger (-255) spec ∧ field.LaidOut spec := by
  have hparse : Spec.parse "*^#10.2X".toList =
      .ok ⟨['*'], some .center, none, true, false, .upperHex, some 10, some 2⟩ := rfl
  have hwidth : ∀ width ∈ some (10 : Int), width < 2 ^ 63 := by decide
  have hsmall : Int.natAbs (-255) < 2 ^ 1024 - 2 ^ 970 := by decide +kernel
  have hlimit := hsmall
  rw [← Value.integerLimit_eq] at hlimit
  obtain ⟨field, hrender, hshows, hlaidOut, -⟩ := exists_render_integer_eq hparse hwidth hsmall
  rw [render_integer hlimit] at hrender
  exact ⟨_, hparse, hwidth, hsmall, field, Except.ok.inj hrender, hshows, hlaidOut⟩

end BraceFormat
