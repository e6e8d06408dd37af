import BraceFormat.Width

/-!
# What a text is measured by

A joiner takes the character behind it along whatever that is, so a text in a line comes to the
characters that are left without joiners and without those (`measured`): their own columns and what
selectors add to them (`widening`). If a control character is left, the text is measured character
by character instead (`displayWidth_eq`). The two ways agree if selectors add as much as joiners
take away (`sumWidth_eq_lineColumns_iff`), and so if there are neither (`displayWidth_eq_sumWidth`).

Each of the two ways takes control characters for nothing, but a control character decides which
way is taken and can be what a joiner takes along. So a text is as wide as it is without its control
characters just if that makes no difference (`displayWidth_withoutControls_iff`), and a tab behind
two joined characters makes them as wide as they are apart
(`not_forall_displayWidth_withoutControls`).
-/

set_option autoImplicit false
set_option relaxedAutoImplicit false

namespace BraceFormat

/-! ### Characters that are measured -/

/-- The characters left of a text without joiners and without the character behind each. -/
def measured : Text → Text
  | [] => []
  | c :: rest =>
    if c = joiner then
      match rest with
      | [] => []
      | _ :: afterJoined => measured afterJoined
    else c :: measured rest

/-- The characters behind joiners, which are not measured. -/
def takenAlong : Text → Text
  | [] => []
  | c :: rest =>
    if c = joiner then
      match rest with
      | [] => []
      | joined :: afterJoined => joined :: takenAlong afterJoined
    else takenAlong rest

/-- What emoji selectors add to the characters before them; `last` is in front of the text. -/
def widening (last : Option Char) : Text → Nat
  | [] => 0
  | c :: rest =>
    match (if c = emojiSelector then last else none) with
    | some widened => selectorGain widened + widening none rest
    | none => widening (if 0 < charWidth c then some c else last) rest

/-- The columns of a text in a line, where joiners and selectors have their effect. -/
def lineColumns (text : Text) : Nat :=
  sumWidth (measured text) + widening none (measured text)

/-- A character without a width. -/
def IsControl (c : Char) : Prop :=
  charWidth? c = none

instance (c : Char) : Decidable (IsControl c) :=
  inferInstanceAs (Decidable (charWidth? c = none))

/-- A control character is among those that are measured. -/
def MeetsControl (text : Text) : Prop :=
  ∃ c ∈ measured text, IsControl c

instance (text : Text) : Decidable (MeetsControl text) :=
  List.decidableBEx IsControl (measured text)

theorem measured_joiner (joined : Char) (rest : Text) :
    measured (joiner :: joined :: rest) = measured rest :=
  if_pos rfl

theorem measured_cons {c : Char} (h : c ≠ joiner) (rest : Text) :
    measured (c :: rest) = c :: measured rest := by
  rw [measured.eq_def]
  exact if_neg h

theorem mem_of_mem_measured {text : Text} {c : Char} (h : c ∈ measured text) : c ∈ text := by
  fun_induction measured text with
  | case1 => exact h
  | case2 => exact absurd h List.not_mem_nil
  | case3 joined rest ih => exact List.mem_cons_of_mem _ (List.mem_cons_of_mem _ (ih h))
  | case4 first rest hfirst ih =>
    rcases List.mem_cons.mp h with rfl | hrest
    · exact List.mem_cons_self
    · exact List.mem_cons_of_mem _ (ih hrest)

theorem measured_eq_self {text : Text} (h : joiner ∉ text) : measured text = text := by
  induction text with
  | nil => rfl
  | cons c rest ih =>
    rw [List.mem_cons, not_or] at h
    rw [measured_cons (Ne.symm h.1), ih h.2]

theorem takenAlong_joiner (joined : Char) (rest : Text) :
    takenAlong (joiner :: joined :: rest) = joined :: takenAlong rest :=
  if_pos rfl

theorem takenAlong_cons {c : Char} (h : c ≠ joiner) (rest : Text) :
    takenAlong (c :: rest) = takenAlong rest := by
  rw [takenAlong.eq_def]
  exact if_neg h

theorem meetsControl_joiner (joined : Char) (rest : Text) :
    MeetsControl (joiner :: joined :: rest) ↔ MeetsControl rest := by
  unfold MeetsControl
  rw [measured_joiner]

theorem meetsControl_cons {c : Char} (h : c ≠ joiner) (rest : Text) :
    MeetsControl (c :: rest) ↔ IsControl c ∨ MeetsControl rest := by
  unfold MeetsControl
  simp only [measured_cons h, List.mem_cons, exists_eq_or_imp]

/-! ### Selectors -/

theorem selectorGain_le (c : Char) : selectorGain c ≤ 1 := by
  unfold selectorGain
  split
  · exact Nat.le_refl 1
  · exact Nat.zero_le 1

theorem widening_selector (widened : Char) (rest : Text) :
    widening (some widened) (emojiSelector :: rest) =
      selectorGain widened + widening none rest := by
  rw [widening, if_pos rfl]

/-- A character that widens none is the next that can be widened, if it has a width. -/
theorem widening_cons {last : Option Char} {c : Char} (h : c = emojiSelector → last = none)
    (rest : Text) :
    widening last (c :: rest) = widening (if 0 < charWidth c then some c else last) rest := by
  have hnone : (if c = emojiSelector then last else none) = none := by
    split
    · exact h ‹_›
    · rfl
  rw [widening, hnone]

theorem widening_eq_zero {text : Text} (h : emojiSelector ∉ text) (last : Option Char) :
    widening last text = 0 := by
  induction text generalizing last with
  | nil => rfl
  | cons c rest ih =>
    rw [List.mem_cons, not_or] at h
    rw [widening_cons fun hc ↦ absurd hc.symm h.1, ih h.2]

/-! ### The two ways of measuring -/

theorem charWidth_eq_of_charWidth? {c : Char} {width : Nat} (h : charWidth? c = some width) :
    charWidth c = width := by
  rw [charWidth, h]
  rfl

theorem charWidth_of_isControl {c : Char} (h : IsControl c) : charWidth c = 0 := by
  rw [charWidth, h]
  rfl

theorem sumWidth_cons (c : Char) (rest : Text) :
    sumWidth (c :: rest) = charWidth c + sumWidth rest :=
  sumWidth_append [c] rest

theorem charWidth_joiner : charWidth joiner = 0 := by
  decide

/-- The characters of a text are those that are measured, those that joiners take along, and the
joiners, which have no width. -/
theorem sumWidth_measured_add (text : Text) :
    sumWidth (measured text) + sumWidth (takenAlong text) = sumWidth text := by
  fun_induction measured text with
  | case1 => rfl
  | case2 => exact charWidth_joiner.symm
  | case3 joined rest ih =>
    rw [takenAlong_joiner, sumWidth_cons, sumWidth_cons, sumWidth_cons, charWidth_joiner, ← ih]
    omega
  | case4 c rest hc ih =>
    rw [takenAlong_cons hc, sumWidth_cons, sumWidth_cons, ← ih, Nat.add_assoc]

theorem charWidth?_emojiSelector : charWidth? emojiSelector = some 0 := by
  decide

/-- A line is measured by the characters that its joiners leave, unless there is a control character
among them. -/
theorem lineWidth?_eq (last : Option Char) (text : Text) :
    lineWidth? last text =
      if MeetsControl text then none
      else some (sumWidth (measured text) + widening last (measured text)) := by
  fun_induction lineWidth? last text with
  | case1 last => rfl
  | case2 last => rfl
  | case3 last joined rest ih =>
    simp only [meetsControl_joiner, measured_joiner]
    exact ih
  | case4 last c rest hc widened hwidened ih =>
    obtain ⟨rfl, rfl⟩ : c = emojiSelector ∧ last = some widened := by
      split at hwidened
      · exact ⟨‹_›, hwidened⟩
      · cases hwidened
    have hplain : ¬ IsControl emojiSelector := by
      rw [IsControl, charWidth?_emojiSelector]
      exact nofun
    simp only [meetsControl_cons hc, measured_cons hc, hplain, false_or, widening_selector,
      sumWidth_cons, charWidth_eq_of_charWidth? charWidth?_emojiSelector, ih]
    split
    · rfl
    · simp only [Option.map_some, Option.some.injEq]
      omega
  | case5 last c rest hc hlast hwidth =>
    exact (if_pos ((meetsControl_cons hc rest).mpr (Or.inl hwidth))).symm
  | case6 last c rest hc hlast width hwidth ih =>
    have hplain : ¬ IsControl c := by
      rw [IsControl, hwidth]
      exact nofun
    have hcons : widening last (c :: measured rest) =
        widening (if 0 < width then some c else last) (measured rest) := by
      rw [widening_cons fun hselector ↦ by rwa [if_pos hselector] at hlast,
        charWidth_eq_of_charWidth? hwidth]
    simp only [meetsControl_cons hc, measured_cons hc, hplain, false_or, hcons, sumWidth_cons,
      charWidth_eq_of_charWidth? hwidth, ih]
    split
    · rfl
    · simp only [Option.map_some, Option.some.injEq]
      omega

/-- A text is measured as a line, unless it meets a control character there. -/
theorem displayWidth_eq (text : Text) :
    displayWidth text = if MeetsControl text then sumWidth text else lineColumns text := by
  rw [displayWidth, lineWidth?_eq]
  split
  · rfl
  · rfl

theorem displayWidth_of_meetsControl {text : Text} (h : MeetsControl text) :
    displayWidth text = sumWidth text := by
  rw [displayWidth_eq, if_pos h]

theorem displayWidth_of_not_meetsControl {text : Text} (h : ¬ MeetsControl text) :
    displayWidth text = lineColumns text := by
  rw [displayWidth_eq, if_neg h]

/-- The two ways of measuring agree if selectors add as much as joiners take away. -/
theorem sumWidth_eq_lineColumns_iff (text : Text) :
    sumWidth text = lineColumns text ↔
      sumWidth (takenAlong text) = widening none (measured text) := by
  rw [lineColumns, ← sumWidth_measured_add text]
  omega

theorem lineColumns_of_notMem_joiner {text : Text} (h : joiner ∉ text) :
    lineColumns text = sumWidth text + widening none text := by
  rw [lineColumns, measured_eq_self h]

/-- Without joiners and selectors, a text is as wide as its characters together. -/
theorem displayWidth_eq_sumWidth {text : Text} (hjoiner : joiner ∉ text)
    (hselector : emojiSelector ∉ text) : displayWidth text = sumWidth text := by
  rw [displayWidth_eq, lineColumns_of_notMem_joiner hjoiner, widening_eq_zero hselector,
    Nat.add_zero, ite_self]

theorem sumWidth_eq_length {text : Text} (h : ∀ c ∈ text, charWidth c = 1) :
    sumWidth text = text.length := by
  rw [sumWidth, List.map_eq_replicate_iff.mpr h, List.sum_replicate_nat, Nat.mul_one]

/-- A printable character of ASCII. -/
def IsPrintableAscii (c : Char) : Prop :=
  0x20 ≤ c.toNat ∧ c.toNat ≤ 0x7E

instance (c : Char) : Decidable (IsPrintableAscii c) :=
  inferInstanceAs (Decidable (0x20 ≤ c.toNat ∧ c.toNat ≤ 0x7E))

/-- Printable ASCII characters take a column each. -/
theorem displayWidth_eq_length {text : Text} (h : ∀ c ∈ text, IsPrintableAscii c) :
    displayWidth text = text.length := by
  have hnotMem : ∀ c : Char, 0x7E < c.toNat → c ∉ text := fun c hc hmem ↦
    Nat.not_le.mpr hc (h c hmem).2
  rw [displayWidth_eq_sumWidth (hnotMem _ (by decide)) (hnotMem _ (by decide))]
  exact sumWidth_eq_length fun c hc ↦ charWidth_eq_of_charWidth? (if_pos (h c hc))

/-! ### Control characters -/

/-- A text with its control characters removed. -/
def withoutControls (text : Text) : Text :=
  text.filter fun c ↦ ¬ IsControl c

theorem sumWidth_withoutControls (text : Text) :
    sumWidth (withoutControls text) = sumWidth text := by
  induction text with
  | nil => rfl
  | cons c rest ih =>
    by_cases hc : IsControl c
    · rw [withoutControls, List.filter_cons_of_neg (by simpa using hc), sumWidth_cons,
        charWidth_of_isControl hc, Nat.zero_add]
      exact ih
    · rw [withoutControls, List.filter_cons_of_pos (by simpa using hc), sumWidth_cons,
        sumWidth_cons]
      exact congrArg (charWidth c + ·) ih

theorem not_meetsControl_withoutControls (text : Text) : ¬ MeetsControl (withoutControls text) := by
  rintro ⟨c, hc, hcontrol⟩
  have hkept := (List.mem_filter.mp (mem_of_mem_measured hc)).2
  exact of_decide_eq_true hkept hcontrol

theorem displayWidth_withoutControls (text : Text) :
    displayWidth (withoutControls text) = lineColumns (withoutControls text) :=
  displayWidth_of_not_meetsControl (not_meetsControl_withoutControls text)

theorem withoutControls_eq_self {text : Text} (h : ∀ c ∈ text, ¬ IsControl c) :
    withoutControls text = text :=
  List.filter_eq_self.mpr fun c hc ↦ decide_eq_true (h c hc)

theorem notMem_withoutControls {text : Text} {c : Char} (h : c ∉ text) :
    c ∉ withoutControls text :=
  fun hmem ↦ h (List.mem_filter.mp hmem).1

/-- Without joiners, control characters make no difference if there are none, or if no selector has
an effect on what is left without them. -/
theorem displayWidth_withoutControls_iff_of_notMem_joiner {text : Text} (h : joiner ∉ text) :
    displayWidth text = displayWidth (withoutControls text) ↔
      (∀ c ∈ text, ¬ IsControl c) ∨ widening none (withoutControls text) = 0 := by
  rw [displayWidth_withoutControls, lineColumns_of_notMem_joiner (notMem_withoutControls h),
    sumWidth_withoutControls]
  by_cases hmeets : MeetsControl text
  · have hcontrol : ¬ ∀ c ∈ text, ¬ IsControl c := by
      obtain ⟨c, hc, hcontrol⟩ := hmeets
      exact fun hplain ↦ hplain c (mem_of_mem_measured hc) hcontrol
    rw [displayWidth_of_meetsControl hmeets, or_iff_right hcontrol]
    omega
  · have hplain : ∀ c ∈ text, ¬ IsControl c := by
      intro c hc hcontrol
      rw [← measured_eq_self h] at hc
      exact hmeets ⟨c, hc, hcontrol⟩
    rw [displayWidth_of_not_meetsControl hmeets, lineColumns_of_notMem_joiner h,
      withoutControls_eq_self hplain]
    exact iff_of_true rfl (Or.inl hplain)

/-- Removing the control characters from a text makes no difference to its width just if selectors
then add as much as joiners take away, where a control character was met, and if the rest comes to
as many columns as the whole, where none was. Without joiners this means that there was none or that
no selector has an effect, and without selectors too it always holds. -/
theorem displayWidth_withoutControls_iff (text : Text) :
    (displayWidth text = displayWidth (withoutControls text) ↔
      if MeetsControl text then
        sumWidth (takenAlong (withoutControls text)) =
          widening none (measured (withoutControls text))
      else lineColumns text = lineColumns (withoutControls text)) ∧
      (joiner ∉ text →
        (displayWidth text = displayWidth (withoutControls text) ↔
          (∀ c ∈ text, ¬ IsControl c) ∨ widening none (withoutControls text) = 0)) ∧
      (joiner ∉ text → emojiSelector ∉ text →
        displayWidth text = displayWidth (withoutControls text)) := by
  refine ⟨?_, displayWidth_withoutControls_iff_of_notMem_joiner, fun hjoiner hselector ↦ ?_⟩
  · rw [displayWidth_withoutControls, displayWidth_eq, ← sumWidth_withoutControls,
      ← sumWidth_eq_lineColumns_iff]
    split
    · exact Iff.rfl
    · exact Iff.rfl
  · exact (displayWidth_withoutControls_iff_of_notMem_joiner hjoiner).mpr
      (Or.inr (widening_eq_zero (notMem_withoutControls hselector) none))

/-- A tab takes nothing between other characters, but behind a selector it undoes what that adds. -/
theorem displayWidth_withoutControls_tab :
    joiner ∉ ['a', '\t', '读'] ∧ emojiSelector ∉ ['a', '\t', '读'] ∧
      withoutControls ['a', '\t', '读'] = ['a', '读'] ∧
      displayWidth ['a', '\t', '读'] = displayWidth ['a', '读'] ∧
      joiner ∉ ['#', emojiSelector, '\t'] ∧
      displayWidth ['#', emojiSelector, '\t'] ≠ displayWidth ['#', emojiSelector] := by
  have hplain : joiner ∉ ['a', '\t', '读'] ∧ emojiSelector ∉ ['a', '\t', '读'] := by decide
  have hleft : withoutControls ['a', '\t', '读'] = ['a', '读'] := by decide +kernel
  have hselector : joiner ∉ ['#', emojiSelector, '\t'] := by decide
  have hleft' : withoutControls ['#', emojiSelector, '\t'] = ['#', emojiSelector] := by
    decide +kernel
  obtain ⟨-, -, hsame⟩ := displayWidth_withoutControls_iff ['a', '\t', '读']
  obtain ⟨-, hiff, -⟩ := displayWidth_withoutControls_iff ['#', emojiSelector, '\t']
  rw [hleft] at hsame
  rw [hleft'] at hiff
  refine ⟨hplain.1, hplain.2, hleft, hsame hplain.1 hplain.2, hselector, fun hequal ↦ ?_⟩
  rcases (hiff hselector).mp hequal with hcontrols | hnone
  · exact hcontrols '\t' (by decide) (by decide)
  · exact absurd hnone (by decide +kernel)

/-- A tab behind two joined characters makes them as wide as they are apart. -/
theorem not_forall_displayWidth_withoutControls :
    ¬ ∀ text : Text, displayWidth text = displayWidth (withoutControls text) := by
  intro hall
  have htab : displayWidth ['👨', joiner, '👩', '\t'] = 4 := by decide +kernel
  have hjoined : displayWidth (withoutControls ['👨', joiner, '👩', '\t']) = 2 := by
    decide +kernel
  have hsame := hall ['👨', joiner, '👩', '\t']
  rw [htab, hjoined] at hsame
  exact absurd hsame (by decide)

end BraceFormat
