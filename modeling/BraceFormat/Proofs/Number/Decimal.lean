import Mathlib.Data.List.Basic
import BraceFormat.Number.Decimal
import BraceFormat.Proofs.Numeral

/-!
# The grammar of decimal fractions

A decimal fraction is spelled as digits with an optional point, at least one digit among them, and
an optional exponent of at least one digit. This is just what is read (`Decimal.read?_eq_some_iff`),
so a text spells at most one decimal fraction.
-/

set_option autoImplicit false
set_option relaxedAutoImplicit false

namespace BraceFormat

/-! ### Signs -/

/-- A text is another one with an optional sign in front, and whether that is a minus. -/
inductive Signed : Bool → Text → Text → Prop
  | bare (unsigned : Text) : Signed false unsigned unsigned
  | plus (unsigned : Text) : Signed false unsigned ('+' :: unsigned)
  | minus (unsigned : Text) : Signed true unsigned ('-' :: unsigned)

theorem signed_splitSign (text : Text) : Signed (splitSign text).1 (splitSign text).2 text := by
  unfold splitSign
  split
  · exact Signed.minus _
  · exact Signed.plus _
  · exact Signed.bare _

theorem Signed.splitSign_eq {negative : Bool} {unsigned text : Text}
    (h : Signed negative unsigned text) (hplus : unsigned.head? ≠ some '+')
    (hminus : unsigned.head? ≠ some '-') : splitSign text = (negative, unsigned) := by
  cases h with
  | plus => rfl
  | minus => rfl
  | bare =>
    unfold splitSign
    split
    · exact absurd rfl hminus
    · exact absurd rfl hplus
    · rfl

theorem Numeral.IsNumeral.head?_ne {digits : Text} (h : Numeral.IsNumeral digits) {c : Char}
    (hc : c.isDigit = false) : digits.head? ≠ some c := by
  intro hhead
  have hdigit := h.2 c (List.mem_of_head? hhead)
  rw [hc] at hdigit
  cases hdigit

theorem Signed.splitSign_of_isNumeral {negative : Bool} {digits text : Text}
    (h : Signed negative digits text) (hdigits : Numeral.IsNumeral digits) :
    splitSign text = (negative, digits) :=
  h.splitSign_eq (hdigits.head?_ne (by decide)) (hdigits.head?_ne (by decide))

namespace Decimal

/-! ### Exponents -/

/-- Texts of an exponent: nothing at all, or a mark, an optional sign, and digits. -/
inductive SpellsExponent : Text → Int → Prop
  | missing : SpellsExponent [] 0
  | written {mark : Char} {negative : Bool} {digits behind : Text}
      (hmark : mark = 'e' ∨ mark = 'E') (hdigits : Numeral.IsNumeral digits)
      (hsigned : Signed negative digits behind) :
      SpellsExponent (mark :: behind)
        (if negative then -(Numeral.value digits : Int) else Numeral.value digits)

theorem SpellsExponent.head?_ne {text : Text} {exponent : Int} (h : SpellsExponent text exponent)
    {c : Char} (hc : c ≠ 'e' ∧ c ≠ 'E') : text.head? ≠ some c := by
  cases h with
  | missing => exact nofun
  | written hmark _ _ =>
    rintro hhead
    obtain rfl := Option.some.inj hhead
    rcases hmark with hmark | hmark
    · exact hc.1 hmark
    · exact hc.2 hmark

theorem readExponent?_eq_some_iff {text : Text} {exponent : Int} :
    readExponent? text = some exponent ↔ SpellsExponent text exponent := by
  constructor
  · intro h
    unfold readExponent? at h
    split at h
    · obtain rfl := Option.some.inj h
      exact SpellsExponent.missing
    · rename_i mark behind
      split at h
      · rename_i hmark
        simp only at h
        split at h
        · rename_i hdigits
          obtain rfl := Option.some.inj h
          exact SpellsExponent.written hmark ⟨hdigits.1, List.all_eq_true.mp hdigits.2⟩
            (signed_splitSign behind)
        · cases h
      · cases h
  · intro h
    cases h with
    | missing => rfl
    | written hmark hdigits hsigned =>
      have hread := And.intro hdigits.1 (List.all_eq_true.mpr hdigits.2)
      simp only [readExponent?, if_pos hmark, hsigned.splitSign_of_isNumeral hdigits]
      rw [if_pos hread]

/-! ### Decimal fractions -/

/-- Texts of a decimal fraction: digits, an optional point with digits behind it that may be
missing, at least one digit in all, and an optional exponent. -/
inductive Spells : Text → Decimal → Prop
  | whole {whole behind : Text} {exponent : Int} (hwhole : Numeral.IsNumeral whole)
      (hexponent : SpellsExponent behind exponent) :
      Spells (whole ++ behind) ⟨Numeral.value whole, exponent⟩
  | point {whole places behind : Text} {exponent : Int}
      (hdigits : Numeral.IsNumeral (whole ++ places)) (hexponent : SpellsExponent behind exponent) :
      Spells (whole ++ '.' :: places ++ behind)
        ⟨Numeral.value (whole ++ places), exponent - places.length⟩

/-- Reading where no point stands behind the digits in front. -/
theorem read?_of_whole {text whole behind : Text}
    (hwhole : runOf Char.isDigit text = (whole, behind)) (hpoint : behind.head? ≠ some '.') :
    read? text =
      if whole = [] then none
      else (readExponent? behind).map fun exponent ↦ ⟨Numeral.value whole, exponent⟩ := by
  cases behind with
  | nil => simp [read?, hwhole]
  | cons c rest =>
    have hc : c ≠ '.' := by simpa using hpoint
    simp [read?, hwhole, hc]

/-- Reading where a point stands behind the digits in front. -/
theorem read?_of_point {text whole rest places behind : Text}
    (hwhole : runOf Char.isDigit text = (whole, '.' :: rest))
    (hplaces : runOf Char.isDigit rest = (places, behind)) :
    read? text =
      if whole ++ places = [] then none
      else (readExponent? behind).map fun exponent ↦
        ⟨Numeral.value (whole ++ places), exponent - places.length⟩ := by
  simp only [read?, hwhole, hplaces]

theorem isDigit_of_mem_run {text run behind : Text} (h : runOf Char.isDigit text = (run, behind)) :
    ∀ c ∈ run, c.isDigit = true := by
  intro c hc
  exact inClass_of_mem_runOf (by rwa [h])

theorem append_of_runOf {text run behind : Text} (h : runOf Char.isDigit text = (run, behind)) :
    text = run ++ behind := by
  rw [← runOf_append Char.isDigit text, h]

theorem spells_of_read? {text : Text} {d : Decimal} (h : read? text = some d) : Spells text d := by
  rcases hwhole : runOf Char.isDigit text with ⟨whole, behind⟩
  have hdigits : ∀ c ∈ whole, c.isDigit = true := isDigit_of_mem_run hwhole
  rw [append_of_runOf hwhole]
  by_cases hpoint : behind.head? = some '.'
  · obtain ⟨rest, rfl⟩ := List.head?_eq_some_iff.mp hpoint
    rcases hplaces : runOf Char.isDigit rest with ⟨places, behind⟩
    rw [read?_of_point hwhole hplaces] at h
    split at h
    · cases h
    · rename_i hsome
      obtain ⟨exponent, hexponent, rfl⟩ := Option.map_eq_some_iff.mp h
      rw [append_of_runOf hplaces, ← List.cons_append, ← List.append_assoc]
      refine Spells.point ⟨hsome, ?_⟩ (readExponent?_eq_some_iff.mp hexponent)
      exact List.forall_mem_append.mpr ⟨hdigits, isDigit_of_mem_run hplaces⟩
  · rw [read?_of_whole hwhole hpoint] at h
    split at h
    · cases h
    · rename_i hsome
      obtain ⟨exponent, hexponent, rfl⟩ := Option.map_eq_some_iff.mp h
      exact Spells.whole ⟨hsome, hdigits⟩ (readExponent?_eq_some_iff.mp hexponent)

theorem SpellsExponent.runOf_append {digits behind : Text} {exponent : Int}
    (h : SpellsExponent behind exponent) (hdigits : ∀ c ∈ digits, c.isDigit = true) :
    runOf Char.isDigit (digits ++ behind) = (digits, behind) := by
  refine runOf_eq hdigits fun c hc ↦ Bool.eq_false_iff.mpr fun hdigit ↦ ?_
  refine h.head?_ne ?_ hc
  constructor
  · rintro rfl
    exact absurd hdigit (by decide)
  · rintro rfl
    exact absurd hdigit (by decide)

theorem Spells.read?_eq {text : Text} {d : Decimal} (h : Spells text d) : read? text = some d := by
  cases h with
  | whole hwhole hexponent =>
    rw [read?_of_whole (hexponent.runOf_append hwhole.2) (hexponent.head?_ne (by decide)),
      if_neg hwhole.1, readExponent?_eq_some_iff.mpr hexponent]
    rfl
  | @point whole places behind exponent hdigits hexponent =>
    obtain ⟨hwhole, hplaces⟩ := List.forall_mem_append.mp hdigits.2
    have hrun : runOf Char.isDigit (whole ++ '.' :: places ++ behind) =
        (whole, '.' :: (places ++ behind)) := by
      rw [List.append_assoc]
      refine runOf_eq hwhole fun c hc ↦ ?_
      obtain rfl := Option.some.inj hc
      decide
    rw [read?_of_point hrun (hexponent.runOf_append hplaces), if_neg hdigits.1,
      readExponent?_eq_some_iff.mpr hexponent]
    rfl

/-- Reading accepts just the texts that spell a decimal fraction. -/
theorem read?_eq_some_iff {text : Text} {d : Decimal} : read? text = some d ↔ Spells text d :=
  ⟨spells_of_read?, Spells.read?_eq⟩

/-! ### The characters of a decimal fraction -/

/-- The characters in the text of a decimal fraction that are no digits. -/
def marks : Text :=
  ['.', 'e', 'E', '+', '-']

theorem isDigit_or_mem_marks_of_digits {digits : Text} (h : ∀ c ∈ digits, c.isDigit = true) :
    ∀ c ∈ digits, c.isDigit = true ∨ c ∈ marks :=
  fun c hc ↦ Or.inl (h c hc)

theorem SpellsExponent.isDigit_or_mem_marks {text : Text} {exponent : Int}
    (h : SpellsExponent text exponent) : ∀ c ∈ text, c.isDigit = true ∨ c ∈ marks := by
  cases h with
  | missing => exact nofun
  | written hmark hdigits hsigned =>
    have hdigit := isDigit_or_mem_marks_of_digits hdigits.2
    refine List.forall_mem_cons.mpr ⟨Or.inr ?_, ?_⟩
    · rcases hmark with rfl | rfl
      · decide
      · decide
    · cases hsigned with
      | bare => exact hdigit
      | plus => exact List.forall_mem_cons.mpr ⟨Or.inr (by decide), hdigit⟩
      | minus => exact List.forall_mem_cons.mpr ⟨Or.inr (by decide), hdigit⟩

theorem Spells.isDigit_or_mem_marks {text : Text} {d : Decimal} (h : Spells text d) :
    ∀ c ∈ text, c.isDigit = true ∨ c ∈ marks := by
  cases h with
  | whole hwhole hexponent =>
    exact List.forall_mem_append.mpr
      ⟨isDigit_or_mem_marks_of_digits hwhole.2, hexponent.isDigit_or_mem_marks⟩
  | point hdigits hexponent =>
    obtain ⟨hwhole, hplaces⟩ := List.forall_mem_append.mp hdigits.2
    refine List.forall_mem_append.mpr ⟨List.forall_mem_append.mpr ⟨?_, ?_⟩, ?_⟩
    · exact isDigit_or_mem_marks_of_digits hwhole
    · exact List.forall_mem_cons.mpr
        ⟨Or.inr (by decide), isDigit_or_mem_marks_of_digits hplaces⟩
    · exact hexponent.isDigit_or_mem_marks

/-- The text of a decimal fraction begins with a digit or a point. -/
theorem Spells.head?_ne {text : Text} {d : Decimal} (h : Spells text d) {c : Char}
    (hdigit : c.isDigit = false) (hpoint : c ≠ '.') : text.head? ≠ some c := by
  cases h with
  | whole hwhole _ =>
    rw [List.head?_append_of_ne_nil _ hwhole.1]
    exact hwhole.head?_ne hdigit
  | @point whole places behind exponent hdigits _ =>
    cases whole with
    | nil =>
      intro hhead
      exact hpoint (Option.some.inj hhead).symm
    | cons first rest =>
      intro hhead
      have hfirst := hdigits.2 first (List.mem_append_left _ List.mem_cons_self)
      rw [Option.some.inj hhead, hdigit] at hfirst
      cases hfirst

end Decimal

end BraceFormat
