import BraceFormat.Proofs.Width

/-!
# Bounds on the width of a text

Terminals count columns in signed numbers and give a control character, and a line that reaches one,
the width −1. Measuring a line never comes to a negative number in another way
(`signedLineWidth_eq`), so the sign tells whether a text has to be measured character by character,
and no width is negative. A character takes two columns at most, and a selector, which takes none
itself, adds one, so a text is no wider than two columns a character. The widths of texts without
joiners and selectors add up (`displayWidth_bounded_and_additive`).
-/

set_option autoImplicit false
set_option relaxedAutoImplicit false

namespace BraceFormat

/-! ### Widths as signed numbers -/

/-- The columns of a character, −1 for a control character. -/
def signedWidth (c : Char) : Int :=
  (charWidth? c).elim (-1) fun width ↦ width

/-- The columns of a line behind `total` columns, −1 if a control character is reached; `last` is
the latest character with a width that no selector has followed yet. -/
def signedLineWidth (total : Int) (last : Option Char) : Text → Int
  | [] => total
  | c :: rest =>
    if c = joiner then
      match rest with
      | [] => total
      | _ :: afterJoined => signedLineWidth total last afterJoined
    else
      match (if c = emojiSelector then last else none) with
      | some widened => signedLineWidth (total + selectorGain widened) none rest
      | none =>
        if signedWidth c < 0 then -1
        else
          signedLineWidth (total + signedWidth c) (if 0 < signedWidth c then some c else last) rest

/-- The columns of a text, each character counted for itself if the line has none. -/
def signedDisplayWidth (text : Text) : Int :=
  if signedLineWidth 0 none text < 0 then (text.map fun c ↦ max (signedWidth c) 0).sum
  else signedLineWidth 0 none text

theorem signedWidth_of_isControl {c : Char} (h : IsControl c) : signedWidth c = -1 := by
  rw [signedWidth, h, Option.elim_none]

theorem signedWidth_eq {c : Char} {width : Nat} (h : charWidth? c = some width) :
    signedWidth c = width := by
  rw [signedWidth, h, Option.elim_some]

theorem max_signedWidth (c : Char) : max (signedWidth c) 0 = charWidth c := by
  cases hwidth : charWidth? c with
  | none =>
    rw [signedWidth_of_isControl hwidth, charWidth_of_isControl hwidth]
    rfl
  | some width =>
    rw [signedWidth_eq hwidth, charWidth_eq_of_charWidth? hwidth]
    exact Int.max_eq_left (Int.natCast_nonneg width)

theorem sum_max_signedWidth (text : Text) :
    (text.map fun c ↦ max (signedWidth c) 0).sum = sumWidth text := by
  induction text with
  | nil => rfl
  | cons c rest ih =>
    rw [List.map_cons, List.sum_cons, ih, max_signedWidth, sumWidth_cons, Int.natCast_add]

/-- Nothing but a control character makes the width of a line negative. -/
theorem signedLineWidth_eq (total : Int) (last : Option Char) (text : Text) :
    signedLineWidth total last text =
      (lineWidth? last text).elim (-1) fun width ↦ total + width := by
  fun_induction lineWidth? last text generalizing total with
  | case1 last => exact (Int.add_zero total).symm
  | case2 last => exact (Int.add_zero total).symm
  | case3 last joined rest ih => exact ih total
  | case4 last c rest hc widened hwidened ih =>
    have hstep : signedLineWidth total last (c :: rest) =
        signedLineWidth (total + selectorGain widened) none rest := by
      rw [signedLineWidth.eq_def]
      simp only [if_neg hc, hwidened]
    rw [hstep, ih]
    cases lineWidth? none rest with
    | none => rfl
    | some behind =>
      simp only [Option.map_some, Option.elim_some]
      omega
  | case5 last c rest hc hlast hwidth =>
    rw [signedLineWidth.eq_def]
    simp only [if_neg hc, hlast, signedWidth_of_isControl hwidth]
    rfl
  | case6 last c rest hc hlast width hwidth ih =>
    have hstep : signedLineWidth total last (c :: rest) =
        signedLineWidth (total + width) (if 0 < width then some c else last) rest := by
      rw [signedLineWidth.eq_def]
      simp only [if_neg hc, hlast, signedWidth_eq hwidth, Int.natCast_pos,
        if_neg (Int.not_lt.mpr (Int.natCast_nonneg width))]
    rw [hstep, ih]
    cases lineWidth? (if 0 < width then some c else last) rest with
    | none => rfl
    | some behind =>
      simp only [Option.map_some, Option.elim_some]
      omega

/-- A text is measured character by character just if its line has no width. -/
theorem signedDisplayWidth_eq (text : Text) : signedDisplayWidth text = displayWidth text := by
  rw [signedDisplayWidth, signedLineWidth_eq, sum_max_signedWidth, displayWidth]
  cases lineWidth? none text with
  | none => rfl
  | some width =>
    rw [Option.elim_some, Int.zero_add, if_neg (Int.not_lt.mpr (Int.natCast_nonneg width)),
      Option.getD_some]

/-! ### The widest texts -/

theorem charWidth_le_two (c : Char) : charWidth c ≤ 2 := by
  simp only [charWidth, charWidth?]
  split
  · exact Nat.le_succ 1
  · split
    · exact Nat.zero_le 2
    · split
      · exact Nat.zero_le 2
      · split
        · exact Nat.le_refl 2
        · exact Nat.le_succ 1

theorem sumWidth_le (text : Text) : sumWidth text ≤ 2 * text.length := by
  induction text with
  | nil => exact Nat.le_refl 0
  | cons c rest ih =>
    have hc := charWidth_le_two c
    rw [sumWidth_cons, List.length_cons]
    omega

/-- What a selector adds makes up for the columns that it does not take itself. -/
theorem sumWidth_add_widening_le (last : Option Char) (text : Text) :
    sumWidth text + widening last text ≤ 2 * text.length := by
  fun_induction widening last text with
  | case1 last => exact Nat.le_refl 0
  | case2 last c rest widened hwidened ih =>
    have hselector : c = emojiSelector := by
      split at hwidened
      · assumption
      · cases hwidened
    have hnone : charWidth c = 0 := by
      rw [hselector, charWidth_eq_of_charWidth? charWidth?_emojiSelector]
    have hgain := selectorGain_le widened
    rw [sumWidth_cons, List.length_cons]
    omega
  | case3 last c rest hnone ih =>
    have hc := charWidth_le_two c
    rw [sumWidth_cons, List.length_cons]
    omega

theorem length_measured_le (text : Text) : (measured text).length ≤ text.length := by
  fun_induction measured text with
  | case1 => exact Nat.le_refl 0
  | case2 => exact Nat.zero_le 1
  | case3 joined rest ih =>
    simp only [List.length_cons]
    omega
  | case4 c rest hc ih => exact Nat.succ_le_succ ih

theorem displayWidth_le (text : Text) : displayWidth text ≤ 2 * text.length := by
  rw [displayWidth_eq]
  split
  · exact sumWidth_le text
  · calc lineColumns text ≤ 2 * (measured text).length := sumWidth_add_widening_le none _
      _ ≤ 2 * text.length := Nat.mul_le_mul_left 2 (length_measured_le text)

/-! ### Texts side by side -/

/-- The width of a text is never negative and at most two columns a character. Without joiners and
selectors, whether or not there are control characters, it is that of its characters together, so
the widths of two such texts add up to that of both. -/
theorem displayWidth_bounded_and_additive (text : Text) :
    displayWidth text = signedDisplayWidth text ∧ 0 ≤ signedDisplayWidth text ∧
      displayWidth text ≤ 2 * text.length ∧
      (joiner ∉ text → emojiSelector ∉ text →
        (displayWidth text = (text.map fun c ↦ max (signedWidth c) 0).sum) ∧
        ∀ more, joiner ∉ more → emojiSelector ∉ more →
          displayWidth (text ++ more) = displayWidth text + displayWidth more) := by
  have hsigned := signedDisplayWidth_eq text
  refine ⟨hsigned.symm, ?_, displayWidth_le text, fun hjoiner hselector ↦ ⟨?_, ?_⟩⟩
  · rw [hsigned]
    exact Int.natCast_nonneg _
  · rw [sum_max_signedWidth, displayWidth_eq_sumWidth hjoiner hselector]
  · intro more hmoreJoiner hmoreSelector
    have hboth : ∀ c, c ∉ text → c ∉ more → c ∉ text ++ more := fun c htext hmore hmem ↦
      (List.mem_append.mp hmem).elim htext hmore
    rw [displayWidth_eq_sumWidth (hboth _ hjoiner hmoreJoiner) (hboth _ hselector hmoreSelector),
      displayWidth_eq_sumWidth hjoiner hselector,
      displayWidth_eq_sumWidth hmoreJoiner hmoreSelector, sumWidth_append]

/-- A tab and an accent take no column, whichever way the text they stand in is measured. -/
theorem displayWidth_bounded_and_additive_tab :
    joiner ∉ ['读', '\t'] ∧ emojiSelector ∉ ['读', '\t'] ∧
      joiner ∉ ['e', '\u0301'] ∧ emojiSelector ∉ ['e', '\u0301'] ∧
      displayWidth ['读', '\t', 'e', '\u0301'] = 3 := by
  have hfirst : joiner ∉ ['读', '\t'] ∧ emojiSelector ∉ ['读', '\t'] := by decide
  have hsecond : joiner ∉ ['e', '\u0301'] ∧ emojiSelector ∉ ['e', '\u0301'] := by decide
  obtain ⟨-, -, -, hplain⟩ := displayWidth_bounded_and_additive ['读', '\t']
  have hsum := (hplain hfirst.1 hfirst.2).2 ['e', '\u0301'] hsecond.1 hsecond.2
  refine ⟨hfirst.1, hfirst.2, hsecond.1, hsecond.2, hsum.trans ?_⟩
  decide +kernel

end BraceFormat
