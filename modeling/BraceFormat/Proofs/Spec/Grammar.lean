import BraceFormat.Proofs.Numeral
import BraceFormat.Proofs.Spec.Slots

/-!
# The grammar of specifiers

A text decomposes into parts if it is a fill and an alignment, a sign, `#`, digits, a point with
digits, and a letter for the base, in this order, each of which may be missing. The reader takes
the longest front of a text that decomposes (`isLongestFront_takeParts`), so a text has at most one
decomposition, and a text with none is refused at the column behind that front.
`parse_iff_decomposes` puts this together with the numbers that the parts denote: what is accepted,
with which fields, and for which reason anything else is refused.
-/

set_option autoImplicit false
set_option relaxedAutoImplicit false

namespace BraceFormat.Spec

namespace Parts

/-- What parts have to be like: a fill stands only in front of an alignment, digits are digits, and
there is at least one behind a point. -/
structure WellFormed (parts : Parts) : Prop where
  fill : parts.align = none → parts.fill = none
  digits : ∀ c ∈ parts.digits, c.isDigit = true
  places : ∀ digits ∈ parts.places, digits ≠ [] ∧ ∀ c ∈ digits, c.isDigit = true

/-- A text is made of parts. -/
def Decomposes (parts : Parts) (text : Text) : Prop :=
  parts.WellFormed ∧ parts.text = text

/-- The text of the parts behind the sign and the `#`. -/
def numberText (parts : Parts) : Text :=
  parts.digits ++ (parts.places.elim [] ('.' :: ·) ++ parts.base.letter)

/-- The text of the parts behind the fill and the alignment. -/
def unalignedText (parts : Parts) : Text :=
  (parts.sign.map Sign.char).toList ++
    ((if parts.alternate then ['#'] else []) ++ parts.numberText)

theorem text_eq (parts : Parts) :
    parts.text =
      parts.fill.toList ++ (parts.align.map Alignment.char).toList ++ parts.unalignedText := by
  simp [text, unalignedText, numberText]

/-! ### The characters of each part -/

theorem ne_of_isDigit {c d : Char} (hc : c.isDigit = true) (hd : d.isDigit = false) : c ≠ d := by
  rintro rfl
  rw [hc] at hd
  cases hd

theorem mem_letters {base : Base} {c : Char} (hc : c ∈ base.letter) :
    c ∈ ['x', 'X', 'o', 'b'] := by
  cases base with
  | decimal => cases hc
  | hex => simp [List.mem_singleton.mp hc]
  | upperHex => simp [List.mem_singleton.mp hc]
  | octal => simp [List.mem_singleton.mp hc]
  | binary => simp [List.mem_singleton.mp hc]

theorem isDigit_of_mem_letter {base : Base} {c : Char} (hc : c ∈ base.letter) :
    c ≠ '.' ∧ c.isDigit = false := by
  have hall : ['x', 'X', 'o', 'b'].all (fun d ↦ d ≠ '.' && !d.isDigit) = true := by decide
  simpa using List.all_eq_true.mp hall c (mem_letters hc)

theorem mem_numberText {parts : Parts} (h : parts.WellFormed) {c : Char}
    (hc : c ∈ parts.numberText) : c.isDigit = true ∨ c ∈ ['.', 'x', 'X', 'o', 'b'] := by
  simp only [numberText, List.mem_append] at hc
  rcases hc with hdigits | hplaces | hbase
  · exact Or.inl (h.digits c hdigits)
  · cases hparts : parts.places with
    | none => simp [hparts] at hplaces
    | some digits =>
      simp only [hparts, Option.elim_some, List.mem_cons] at hplaces
      rcases hplaces with rfl | hplaces
      · simp
      · exact Or.inl ((h.places digits hparts).2 c hplaces)
  · exact Or.inr (List.mem_cons_of_mem '.' (mem_letters hbase))

theorem ne_of_mem_numberText {parts : Parts} (h : parts.WellFormed) {c d : Char}
    (hc : c ∈ parts.numberText) (hd : d.isDigit = false) (hd' : d ∉ ['.', 'x', 'X', 'o', 'b']) :
    c ≠ d := by
  rcases mem_numberText h hc with hdigit | hother
  · exact ne_of_isDigit hdigit hd
  · rintro rfl
    exact hd' hother

theorem mem_unalignedText {parts : Parts} {c : Char} (hc : c ∈ parts.unalignedText) :
    c ∈ parts.numberText ∨ c ∈ ['+', '-', '#'] := by
  simp only [unalignedText, List.mem_append] at hc
  rcases hc with hsign | halternate | hnumber
  · right
    cases hparts : parts.sign with
    | none => simp [hparts] at hsign
    | some sign => cases sign <;> simp [hparts, Sign.char] at hsign <;> simp [hsign]
  · right
    cases hparts : parts.alternate <;> simp [hparts] at halternate
    simp [halternate]
  · exact Or.inl hnumber

/-- Behind the alignment there is no alignment, no line feed and no brace. -/
theorem ne_of_mem_unalignedText {parts : Parts} (h : parts.WellFormed) {c d : Char}
    (hc : c ∈ parts.unalignedText) (hd : d ∈ ['<', '>', '^', '\n', '{', '}']) : c ≠ d := by
  have hdigit : ['<', '>', '^', '\n', '{', '}'].all (!Char.isDigit ·) = true := by decide
  have hother : ['<', '>', '^', '\n', '{', '}'].all
      (· ∉ ['.', 'x', 'X', 'o', 'b', '+', '-', '#']) = true := by decide
  have hd' : d ∉ ['.', 'x', 'X', 'o', 'b', '+', '-', '#'] :=
    of_decide_eq_true (List.all_eq_true.mp hother d hd)
  rcases mem_unalignedText hc with hnumber | hsign
  · refine ne_of_mem_numberText h hnumber ?_ fun hmem ↦ hd' ?_
    · simpa using List.all_eq_true.mp hdigit d hd
    · exact List.mem_append_left ['+', '-', '#'] hmem
  · rintro rfl
    exact hd' (List.mem_append_right ['.', 'x', 'X', 'o', 'b'] hsign)

theorem alignment_ofChar?_of_mem_unalignedText {parts : Parts} (h : parts.WellFormed) {c : Char}
    (hc : c ∈ parts.unalignedText) : Alignment.ofChar? c = none := by
  have hleft : c ≠ '<' := ne_of_mem_unalignedText h hc (by decide)
  have hright : c ≠ '>' := ne_of_mem_unalignedText h hc (by decide)
  have hcenter : c ≠ '^' := ne_of_mem_unalignedText h hc (by decide)
  simp [Alignment.ofChar?, hleft, hright, hcenter]

theorem sign_ofChar?_of_mem_numberText {parts : Parts} (h : parts.WellFormed) {c : Char}
    (hc : c ∈ parts.numberText) : Sign.ofChar? c = none := by
  have hplus : c ≠ '+' := ne_of_mem_numberText h hc (by decide) (by decide)
  have hminus : c ≠ '-' := ne_of_mem_numberText h hc (by decide) (by decide)
  simp [Sign.ofChar?, hplus, hminus]

end Parts

/-! ### Reading decomposes -/

theorem takeParts_decomposes (text : Text) :
    (takeParts text).1.WellFormed ∧ (takeParts text).1.text ++ (takeParts text).2 = text := by
  rcases halign : takeAlign text with ⟨⟨fill, align⟩, unaligned⟩
  rcases hsign : takeSign unaligned with ⟨sign, unsigned⟩
  rcases halternate : takeAlternate unsigned with ⟨alternate, number⟩
  rcases hdigits : runOf Char.isDigit number with ⟨digits, behindDigits⟩
  rcases hplaces : takePlaces behindDigits with ⟨places, behindPlaces⟩
  rcases hbase : takeBase behindPlaces with ⟨base, left⟩
  have hparts : takeParts text =
      (⟨fill, align, sign, alternate, digits, places, base⟩, left) := by
    simp only [takeParts, halign, hsign, halternate, hdigits, hplaces, hbase]
  have halign' := takeAlign_eq text
  have hsign' := takeSign_eq unaligned
  have halternate' := takeAlternate_eq unsigned
  have hdigits' := runOf_append Char.isDigit number
  have hplaces' := takePlaces_eq behindDigits
  have hbase' := takeBase_eq behindPlaces
  rw [halign] at halign'
  rw [hsign] at hsign'
  rw [halternate] at halternate'
  rw [hdigits] at hdigits'
  rw [hplaces] at hplaces'
  rw [hbase] at hbase'
  rw [hparts]
  refine ⟨⟨halign'.1, fun c hc ↦ ?_, hplaces'.1⟩, ?_⟩
  · have hclass := @inClass_of_mem_runOf Char.isDigit number c
    rw [hdigits] at hclass
    exact hclass hc
  · simp only [Parts.text_eq, Parts.unalignedText, Parts.numberText, List.append_assoc]
    rw [hbase', hplaces'.2, hdigits', halternate', hsign', ← List.append_assoc]
    exact halign'.2

theorem takeParts_text {parts : Parts} (h : parts.WellFormed) :
    takeParts parts.text = (parts, []) := by
  have halign : takeAlign parts.text = ((parts.fill, parts.align), parts.unalignedText) := by
    rw [Parts.text_eq]
    exact takeAlign_append h.fill fun c hc ↦
      Parts.alignment_ofChar?_of_mem_unalignedText h hc
  have hsign : takeSign parts.unalignedText =
      (parts.sign, (if parts.alternate then ['#'] else []) ++ parts.numberText) := by
    refine takeSign_append fun c hc ↦ ?_
    rcases List.mem_append.mp hc with halternate | hnumber
    · cases hparts : parts.alternate <;> simp [hparts] at halternate
      simp [halternate, Sign.ofChar?]
    · exact Parts.sign_ofChar?_of_mem_numberText h hnumber
  have halternate : takeAlternate ((if parts.alternate then ['#'] else []) ++ parts.numberText) =
      (parts.alternate, parts.numberText) :=
    takeAlternate_append fun hhash ↦
      Parts.ne_of_mem_numberText h hhash (by decide) (by decide) rfl
  have hplaces : takePlaces (parts.places.elim [] ('.' :: ·) ++ parts.base.letter) =
      (parts.places, parts.base.letter) :=
    takePlaces_append h.places fun c hc ↦ Parts.isDigit_of_mem_letter hc
  have hdigits : runOf Char.isDigit parts.numberText =
      (parts.digits, parts.places.elim [] ('.' :: ·) ++ parts.base.letter) := by
    refine runOf_eq h.digits fun c hc ↦ ?_
    cases hparts : parts.places with
    | none =>
      simp only [hparts, Option.elim_none, List.nil_append] at hc
      exact (Parts.isDigit_of_mem_letter (List.mem_of_head? hc)).2
    | some digits =>
      simp only [hparts, Option.elim_some, List.cons_append, List.head?_cons,
        Option.some.injEq] at hc
      subst hc
      decide
  simp only [takeParts, halign, hsign, halternate, hdigits, hplaces, takeBase_letter]

/-- A text has at most one decomposition. -/
theorem Parts.Decomposes.unique {parts other : Parts} {text : Text} (h : parts.Decomposes text)
    (hother : other.Decomposes text) : parts = other := by
  have hparts := takeParts_text h.1
  rw [h.2, ← hother.2, takeParts_text hother.1] at hparts
  exact (congrArg Prod.fst hparts).symm

/-- The readers of the parts, one after the other. -/
def takeSlots : Text → ((Option Char × Option Alignment) × Option Sign × Bool × Text ×
    Option Text × Base) × Text :=
  andThen takeAlign (andThen takeSign (andThen takeAlternate
    (andThen (runOf Char.isDigit) (andThen takePlaces takeBase))))

theorem greedy_takeSlots : Greedy takeSlots :=
  greedy_takeAlign.andThen (greedy_takeSign.andThen (greedy_takeAlternate.andThen
    ((greedy_runOf Char.isDigit).andThen (greedy_takePlaces.andThen greedy_takeBase))))

theorem snd_takeParts (text : Text) : (takeParts text).2 = (takeSlots text).2 :=
  rfl

/-- Whatever stands behind parts, reading takes at least these. -/
theorem length_takeParts_append_le {parts : Parts} (h : parts.WellFormed) (more : Text) :
    (takeParts (parts.text ++ more)).2.length ≤ more.length := by
  have hnone : (takeSlots parts.text).2 = [] := by
    rw [← snd_takeParts, takeParts_text h]
  rw [snd_takeParts]
  rcases greedy_takeSlots.append parts.text more with hkeep | hpast
  · rw [hkeep, hnone]
    exact Nat.le_refl _
  · exact hpast

/-- The longest front of a text that decomposes. -/
structure IsLongestFront (front text : Text) : Prop where
  decomposes : ∃ parts : Parts, parts.Decomposes front
  front_prefix : front <+: text
  longest : ∀ other, other <+: text → (∃ parts : Parts, parts.Decomposes other) →
    other.length ≤ front.length

theorem isLongestFront_takeParts (text : Text) :
    IsLongestFront (takeParts text).1.text text where
  decomposes := ⟨_, (takeParts_decomposes text).1, rfl⟩
  front_prefix := ⟨_, (takeParts_decomposes text).2⟩
  longest := by
    rintro _ ⟨more, rfl⟩ ⟨parts, hformed, rfl⟩
    have hleft := length_takeParts_append_le hformed more
    have hlength := congrArg List.length (takeParts_decomposes (parts.text ++ more)).2
    simp only [List.length_append] at hlength
    omega

/-! ### Columns -/

/-- The column behind a text: one more than the characters of its last line. -/
def columnBehind (text : Text) : Nat :=
  (text.reverse.takeWhile (· ≠ '\n')).length + 1

theorem columnBehind_append {body : Text} (h : '\n' ∉ body) (front : Text) :
    columnBehind (front ++ body) = body.length + columnBehind front := by
  have hbody : ∀ c ∈ body.reverse, decide (c ≠ '\n') = true := by
    intro c hc
    simp only [ne_eq, decide_not, Bool.not_eq_true', decide_eq_false_iff_not]
    rintro rfl
    exact h (List.mem_reverse.mp hc)
  rw [columnBehind, List.reverse_append, List.takeWhile_append_of_pos hbody, List.length_append,
    List.length_reverse, columnBehind, Nat.add_assoc]

theorem columnAt_eq_columnBehind {parts : Parts} (h : parts.WellFormed) :
    columnAt parts parts.text.length = columnBehind parts.text := by
  have hbody : '\n' ∉ (parts.align.map Alignment.char).toList ++ parts.unalignedText := by
    intro hmem
    rcases List.mem_append.mp hmem with halign | hbehind
    · cases hparts : parts.align with
      | none => simp [hparts] at halign
      | some align => cases align <;> simp [hparts, Alignment.char] at halign
    · exact Parts.ne_of_mem_unalignedText h hbehind (by decide) rfl
  rw [Parts.text_eq, List.append_assoc, columnBehind_append hbody, List.length_append, columnAt]
  cases hparts : parts.fill with
  | none => simp [columnBehind]
  | some c =>
    by_cases hc : c = '\n'
    · simp [columnBehind, hc, Nat.add_comm]
    · simp [columnBehind, hc]
      omega

/-! ### Fields -/

namespace Parts

/-- The numeral of the width: the digits without the one zero in front that asks for padding, which
is the numeral itself if nothing else is there. -/
def widthNumeral (parts : Parts) : Text :=
  match parts.digits with
  | ['0'] => ['0']
  | '0' :: rest => rest
  | digits => digits

def width (parts : Parts) : Option Nat :=
  if parts.digits = [] then none else some (Numeral.value parts.widthNumeral)

/-- No numeral of the parts is too long to be read. -/
def Short (parts : Parts) : Prop :=
  parts.widthNumeral.length ≤ Numeral.maxDigits ∧
    ∀ digits ∈ parts.places, digits.length ≤ Numeral.maxDigits

/-- The specifier that parts stand for. -/
def fields (parts : Parts) : Spec where
  fill := [parts.fill.getD ' ']
  align := parts.align
  sign := parts.sign
  alternate := parts.alternate
  zeroPad := parts.digits.head? = some '0'
  base := parts.base
  width := parts.width.map Int.ofNat
  precision := parts.places.map fun digits ↦ Int.ofNat (Numeral.value digits)

theorem widthDigits_eq (parts : Parts) :
    parts.widthDigits = if parts.digits = [] then none else some parts.widthNumeral := by
  unfold widthDigits widthNumeral
  split <;> simp_all

theorem widthNumeral_of_digits_eq_nil {parts : Parts} (h : parts.digits = []) :
    parts.widthNumeral = [] := by
  simp [widthNumeral, h]

theorem readNumber?_eq (numeral : Option Text) :
    readNumber? numeral =
      if ∀ digits ∈ numeral, digits.length ≤ Numeral.maxDigits then
        some (numeral.map Numeral.value)
      else none := by
  cases numeral with
  | none => simp [readNumber?]
  | some digits =>
    by_cases h : digits.length ≤ Numeral.maxDigits <;> simp [readNumber?, Numeral.read?, h]

theorem readNumber?_widthDigits (parts : Parts) :
    readNumber? parts.widthDigits =
      if parts.widthNumeral.length ≤ Numeral.maxDigits then some parts.width else none := by
  rw [readNumber?_eq, widthDigits_eq, width]
  by_cases hdigits : parts.digits = []
  · simp [hdigits, widthNumeral_of_digits_eq_nil hdigits]
  · simp [hdigits]

theorem toSpec_of_not_short {parts : Parts} (h : ¬ parts.Short) :
    parts.toSpec = .error .numberTooLarge := by
  unfold toSpec
  rw [readNumber?_widthDigits, readNumber?_eq]
  unfold Short at h
  by_cases hwidth : parts.widthNumeral.length ≤ Numeral.maxDigits
  · rw [if_pos hwidth, if_neg fun hplaces ↦ h ⟨hwidth, hplaces⟩]
  · rw [if_neg hwidth]

theorem toSpec_of_short {parts : Parts} (h : parts.Short) :
    parts.toSpec = if parts.width = some 0 then .error .zeroWidth else .ok parts.fields := by
  unfold toSpec
  rw [readNumber?_widthDigits, readNumber?_eq, if_pos h.1, if_pos h.2]
  simp only [fields, zeroPad, Option.map_map]
  rfl

end Parts

/-! ### Acceptance and refusal -/

/-- Parsing refuses a text for a reason, and the error names the text. -/
def Refuses (text : Text) (reason : String) : Prop :=
  ∃ defect : SpecDefect,
    parse text = .error (.invalidSpec text (some defect)) ∧ defect.reason = reason

theorem read_of_decomposes {parts : Parts} {text : Text} (h : parts.Decomposes text) :
    read text = parts.toSpec := by
  rw [read, ← h.2, takeParts_text h.1]

theorem read_of_not_decomposes {text : Text} (h : ¬ ∃ parts : Parts, parts.Decomposes text) :
    read text = .error (.unexpectedInput (columnBehind (takeParts text).1.text)) := by
  obtain ⟨hformed, happend⟩ := takeParts_decomposes text
  rcases hparts : takeParts text with ⟨parts, left⟩
  rw [hparts] at hformed happend
  cases left with
  | nil => exact absurd ⟨parts, hformed, by simpa using happend⟩ h
  | cons c left =>
    have hoffset : text.length - (c :: left).length = parts.text.length := by
      rw [← happend, List.length_append, Nat.add_sub_cancel]
    rw [read, hparts]
    simp only [hoffset, columnAt_eq_columnBehind hformed]

theorem refuses_of_read {text : Text} {defect : SpecDefect} (h : read text = .error defect) :
    Refuses text defect.reason :=
  ⟨defect, by rw [parse, h]; rfl, rfl⟩

theorem parse_eq_ok_iff_read {text : Text} {spec : Spec} :
    parse text = .ok spec ↔ read text = .ok spec := by
  rw [parse]
  cases read text with
  | error defect => exact ⟨nofun, nofun⟩
  | ok other =>
    show Except.ok other = Except.ok spec ↔ _
    simp

theorem parse_eq_ok_iff {text : Text} {spec : Spec} :
    parse text = .ok spec ↔ ∃ parts : Parts, parts.Decomposes text ∧ parts.Short ∧
      parts.width ≠ some 0 ∧ spec = parts.fields := by
  rw [parse_eq_ok_iff_read]
  constructor
  · intro hread
    by_cases hdecomposes : ∃ parts : Parts, parts.Decomposes text
    · obtain ⟨parts, hparts⟩ := hdecomposes
      rw [read_of_decomposes hparts] at hread
      by_cases hshort : parts.Short
      · rw [Parts.toSpec_of_short hshort] at hread
        split at hread
        · cases hread
        · rename_i hwidth
          exact ⟨parts, hparts, hshort, hwidth, (Except.ok.inj hread).symm⟩
      · rw [Parts.toSpec_of_not_short hshort] at hread
        cases hread
    · rw [read_of_not_decomposes hdecomposes] at hread
      cases hread
  · rintro ⟨parts, hparts, hshort, hwidth, rfl⟩
    rw [read_of_decomposes hparts, Parts.toSpec_of_short hshort, if_neg hwidth]

/-- Only a line feed taken as the fill makes a column differ from the count of characters. -/
theorem columnBehind_of_decomposes {parts : Parts} {text : Text} (h : parts.Decomposes text)
    (hhead : text.head? ≠ some '\n') : columnBehind text = text.length + 1 := by
  have hfill : parts.fill ≠ some '\n' := by
    intro hfill
    rw [← h.2, Parts.text_eq, hfill] at hhead
    exact hhead rfl
  rw [← h.2, ← columnAt_eq_columnBehind h.1, columnAt, if_neg hfill]

/-- Parsing accepts just the texts that have a decomposition, which is then the only one, with
numerals that are short enough and a width that is not zero, and returns the fields of that
decomposition. It refuses a text that has none at the column behind the longest front that has one,
which is what counts as unexpected first; then a numeral that is too long, and then a width of
zero. -/
theorem parse_iff_decomposes (text : Text) :
    (∀ parts other : Parts, parts.Decomposes text → other.Decomposes text → parts = other) ∧
      (∀ spec, parse text = .ok spec ↔ ∃ parts : Parts, parts.Decomposes text ∧ parts.Short ∧
        parts.width ≠ some 0 ∧ spec = parts.fields) ∧
      ((¬ ∃ parts : Parts, parts.Decomposes text) → ∃ front, IsLongestFront front text ∧
        (front.head? ≠ some '\n' → columnBehind front = front.length + 1) ∧
        Refuses text s!"unexpected input at column {columnBehind front}") ∧
      (∀ parts : Parts, parts.Decomposes text → ¬ parts.Short →
        Refuses text "number too large") ∧
      ∀ parts : Parts, parts.Decomposes text → parts.Short → parts.width = some 0 →
        Refuses text "zero width" := by
  refine ⟨fun _ _ h hother ↦ h.unique hother, fun _ ↦ parse_eq_ok_iff, ?_, ?_, ?_⟩
  · intro hnone
    have hfront := isLongestFront_takeParts text
    obtain ⟨parts, hparts⟩ := hfront.decomposes
    exact ⟨_, hfront, columnBehind_of_decomposes hparts,
      refuses_of_read (read_of_not_decomposes hnone)⟩
  · intro parts hparts hlong
    exact refuses_of_read ((read_of_decomposes hparts).trans (Parts.toSpec_of_not_short hlong))
  · intro parts hparts hshort hzero
    have hread : read text = .error .zeroWidth := by
      rw [read_of_decomposes hparts, Parts.toSpec_of_short hshort, if_pos hzero]
    exact refuses_of_read hread

/-- A line feed as the fill, a sign that comes too late, a width of zero, and a width that is
one digit too long. -/
theorem parse_iff_decomposes_edges :
    parse ['\n', '^', '0', '7', '.', '2', 'x'] =
        .ok ⟨['\n'], some .center, none, false, true, .hex, some 7, some 2⟩ ∧
      (∃ front, IsLongestFront front ['#', '+'] ∧
        Refuses ['#', '+'] s!"unexpected input at column {columnBehind front}") ∧
      Refuses ['<', '0'] "zero width" ∧
      Refuses ('1' :: List.replicate Numeral.maxDigits '0') "number too large" := by
  refine ⟨?_, ?_, ?_, ?_⟩
  · have hparts : Parts.Decomposes ⟨some '\n', some .center, none, false, ['0', '7'], some ['2'],
        .hex⟩ ['\n', '^', '0', '7', '.', '2', 'x'] :=
      ⟨⟨nofun, by simp, by simp⟩, rfl⟩
    exact ((parse_iff_decomposes _).2.1 _).mpr ⟨_, hparts, ⟨by decide, by simp [Numeral.maxDigits]⟩,
      by decide, rfl⟩
  · have hnone : ¬ ∃ parts : Parts, parts.Decomposes ['#', '+'] := by
      rintro ⟨parts, hparts⟩
      have hleft : (takeParts ['#', '+']).2 = [] := by
        rw [← hparts.2, takeParts_text hparts.1]
      exact absurd hleft (by decide)
    obtain ⟨front, hfront, -, hrefuses⟩ := (parse_iff_decomposes _).2.2.1 hnone
    exact ⟨front, hfront, hrefuses⟩
  · have hparts : Parts.Decomposes ⟨none, some .left, none, false, ['0'], none, .decimal⟩
        ['<', '0'] :=
      ⟨⟨nofun, by simp, nofun⟩, rfl⟩
    exact (parse_iff_decomposes _).2.2.2.2 _ hparts ⟨by decide, nofun⟩ rfl
  · have hparts : ∀ digits : Text, (∀ c ∈ digits, c.isDigit = true) →
        Parts.Decomposes ⟨none, none, none, false, digits, none, .decimal⟩ digits :=
      fun digits hdigits ↦ ⟨⟨fun _ ↦ rfl, hdigits, nofun⟩, by simp [Parts.text, Base.letter]⟩
    refine (parse_iff_decomposes _).2.2.2.1 _ (hparts _ ?_) ?_
    · intro c hc
      rcases List.mem_cons.mp hc with rfl | hzero
      · decide
      · rw [List.eq_of_mem_replicate hzero]
        decide
    · intro hshort
      have hlength : (List.replicate Numeral.maxDigits '0').length + 1 ≤ Numeral.maxDigits :=
        hshort.1
      rw [List.length_replicate] at hlength
      omega

end BraceFormat.Spec
