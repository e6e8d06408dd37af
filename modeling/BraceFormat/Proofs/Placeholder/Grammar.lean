import BraceFormat.Proofs.Composition
import BraceFormat.Proofs.Placeholder

/-!
# The grammar of placeholders

What stands between the braces is a reference and, behind the first colon, a specifier. A reference
is nothing, digits, or a name (`Reference.read_eq_ok_iff`), and all but digits that are too many is
refused for the same reason (`Reference.exists_read_eq_error`). A mistake in the reference is told
whatever the specifier is. What is accepted is written in a text that is read as the same
placeholder again (`Placeholder.exists_outcome_parse`).
-/

set_option autoImplicit false
set_option relaxedAutoImplicit false

namespace BraceFormat

/-! ### References -/

namespace Reference

/-- Texts of a reference: nothing, digits that are not too many, or a letter or underscore with
letters, digits and underscores behind it, all of them in ASCII. -/
inductive Denotes : Text → Reference → Prop
  | implicit : Denotes [] implicit
  | index {digits : Text} (hdigits : Numeral.IsNumeral digits)
      (hshort : digits.length ≤ Numeral.maxDigits) : Denotes digits (index (Numeral.value digits))
  | name {first : Char} {rest : Text} (hfirst : first.isAlpha = true ∨ first = '_')
      (hrest : ∀ c ∈ rest, c.isAlphanum = true ∨ c = '_') :
      Denotes (first :: rest) (name (first :: rest))

theorem isName_cons_iff {first : Char} {rest : Text} :
    isName (first :: rest) = true ↔
      (first.isAlpha = true ∨ first = '_') ∧ ∀ c ∈ rest, c.isAlphanum = true ∨ c = '_' := by
  simp [isName, isNameStart, isNameRest]

theorem denotes_of_read {text : Text} {reference : Reference} (h : read text = .ok reference) :
    Denotes text reference := by
  unfold read at h
  split at h
  · rename_i hnil
    cases h
    rw [hnil]
    exact Denotes.implicit
  · rename_i hsome
    split at h
    · rename_i hdigits
      split at h
      · rename_i position hread
        cases h
        obtain ⟨hshort, rfl⟩ := Numeral.read?_eq_some_iff.mp hread
        exact Denotes.index ⟨hsome, List.all_eq_true.mp hdigits⟩ hshort
      · cases h
    · split at h
      · rename_i hname
        cases h
        obtain ⟨first, rest, rfl⟩ := List.exists_cons_of_ne_nil hsome
        obtain ⟨hfirst, hrest⟩ := isName_cons_iff.mp hname
        exact Denotes.name hfirst hrest
      · cases h

theorem Denotes.read_eq {text : Text} {reference : Reference} (h : Denotes text reference) :
    read text = .ok reference := by
  cases h with
  | implicit => rfl
  | index hdigits hshort =>
    have hread := Numeral.read?_eq_some_iff.mpr ⟨hshort, rfl⟩
    rw [read, if_neg hdigits.1, if_pos (List.all_eq_true.mpr hdigits.2), hread]
  | @name first rest hfirst hrest =>
    have hname : (Reference.name (first :: rest)).Canonical := isName_cons_iff.mpr ⟨hfirst, hrest⟩
    exact read_print hname

theorem read_eq_ok_iff {text : Text} {reference : Reference} :
    read text = .ok reference ↔ Denotes text reference :=
  ⟨denotes_of_read, Denotes.read_eq⟩

/-- A text of digits alone is refused because there are too many, and any other text because it is
no reference. -/
theorem exists_read_eq_error {text : Text} (h : ¬ ∃ reference, Denotes text reference) :
    ∃ defect, read text = .error defect ∧
      (defect.reason = "argument index too large" ↔ ∀ c ∈ text, c.isDigit = true) := by
  cases hread : read text with
  | ok reference => exact absurd ⟨reference, denotes_of_read hread⟩ h
  | error defect =>
    refine ⟨defect, rfl, ?_⟩
    unfold read at hread
    split at hread
    · cases hread
    · split at hread
      · rename_i hdigits
        split at hread
        · cases hread
        · cases hread
          exact iff_of_true rfl (List.all_eq_true.mp hdigits)
      · rename_i hdigits
        split at hread
        · cases hread
        · cases hread
          exact iff_of_false (by decide) fun hall ↦ hdigits (List.all_eq_true.mpr hall)

end Reference

/-! ### Placeholders -/

namespace Placeholder

/-- A body is a reference alone if it has no colon, and otherwise a reference and a specifier with
the first colon between them. -/
inductive CutAtColon : Text → Text → Option Text → Prop
  | bare {reference : Text} (hcolon : ':' ∉ reference) : CutAtColon reference reference none
  | specified {reference spec : Text} (hcolon : ':' ∉ reference) :
      CutAtColon (reference ++ ':' :: spec) reference (some spec)

/-- What parsing a body of a reference and perhaps a specifier gives. -/
structure Outcome (body reference : Text) (spec : Option Text)
    (result : Except FormatError Placeholder) : Prop where
  ok : ∀ p, result = .ok p ↔ Reference.Denotes reference p.reference ∧
    Option.Rel (fun text parsed ↦ Spec.parse text = .ok parsed) spec p.spec
  badReference : (¬ ∃ denoted, Reference.Denotes reference denoted) →
    ∃ defect : PlaceholderDefect,
      result = .error (.invalidPlaceholder (braced body) (some defect)) ∧
        (defect.reason = "argument index too large" ↔ ∀ c ∈ reference, c.isDigit = true)
  badSpec : (∃ denoted, Reference.Denotes reference denoted) →
    ∀ text ∈ spec, ∀ error, Spec.parse text = .error error →
      result = .error error ∧ ∃ defect, error = .invalidSpec text defect

/-- There is just one way to cut a body. -/
theorem exists_cutAtColon (body : Text) :
    ∃ reference spec, ∀ reference' spec',
      CutAtColon body reference' spec' ↔ reference' = reference ∧ spec' = spec := by
  cases hcut : cutAt? ':' body with
  | none =>
    refine ⟨body, none, fun reference' spec' ↦ ⟨fun h ↦ ?_, ?_⟩⟩
    · cases h with
      | bare => exact ⟨rfl, rfl⟩
      | specified hcolon =>
        rw [cutAt?_append hcolon] at hcut
        cases hcut
    · rintro ⟨rfl, rfl⟩
      exact CutAtColon.bare (cutAt?_eq_none_iff.mp hcut)
  | some parts =>
    obtain ⟨before, after⟩ := parts
    refine ⟨before, some after, fun reference' spec' ↦ ⟨fun h ↦ ?_, ?_⟩⟩
    · cases h with
      | bare hcolon =>
        rw [cutAt?_of_notMem hcolon] at hcut
        cases hcut
      | specified hcolon =>
        rw [cutAt?_append hcolon] at hcut
        cases hcut
        exact ⟨rfl, rfl⟩
    · rintro ⟨rfl, rfl⟩
      obtain ⟨hcolon, rfl⟩ := cutAt?_eq_some_iff.mp hcut
      exact CutAtColon.specified hcolon

section Outcome

variable {body reference : Text} {spec : Option Text}

theorem rel_parse_some_iff {text : Text} {written : Option Spec} :
    Option.Rel (fun text parsed ↦ Spec.parse text = .ok parsed) (some text) written ↔
      ∃ parsed, Spec.parse text = .ok parsed ∧ some parsed = written := by
  cases written with
  | none => simp
  | some parsed => simp

theorem CutAtColon.parse_eq_ok_iff (h : CutAtColon body reference spec) {p : Placeholder} :
    parse body = .ok p ↔ Reference.Denotes reference p.reference ∧
      Option.Rel (fun text parsed ↦ Spec.parse text = .ok parsed) spec p.spec := by
  obtain ⟨denoted, written⟩ := p
  rw [← Reference.read_eq_ok_iff]
  cases h with
  | bare hcolon =>
    rw [parse_of_cutAt?_eq_none (cutAt?_of_notMem hcolon)]
    cases Reference.read body with
    | error defect => simp
    | ok other =>
      cases written with
      | none => simp
      | some parsed => simp
  | @specified _ text hcolon =>
    rw [parse_of_cutAt?_eq_some (cutAt?_append hcolon text), rel_parse_some_iff]
    cases Reference.read reference with
    | error defect => simp
    | ok other =>
      simp only [map_eq_ok_iff, Except.ok.injEq, mk.injEq]
      exact ⟨fun ⟨parsed, hparse, hother, hwritten⟩ ↦ ⟨hother, parsed, hparse, hwritten⟩,
        fun ⟨hother, parsed, hparse, hwritten⟩ ↦ ⟨parsed, hparse, hother, hwritten⟩⟩

/-- A bad reference settles the error, whatever the specifier is. -/
theorem CutAtColon.parse_of_not_denotes (h : CutAtColon body reference spec)
    (hbad : ¬ ∃ denoted, Reference.Denotes reference denoted) :
    ∃ defect : PlaceholderDefect,
      parse body = .error (.invalidPlaceholder (braced body) (some defect)) ∧
        (defect.reason = "argument index too large" ↔ ∀ c ∈ reference, c.isDigit = true) := by
  obtain ⟨defect, hread, hreason⟩ := Reference.exists_read_eq_error hbad
  refine ⟨defect, ?_, hreason⟩
  cases h with
  | bare hcolon => rw [parse_of_cutAt?_eq_none (cutAt?_of_notMem hcolon), hread]
  | specified hcolon => rw [parse_of_cutAt?_eq_some (cutAt?_append hcolon _), hread]

theorem CutAtColon.parse_of_spec_error {text : Text} (h : CutAtColon body reference (some text))
    {denoted : Reference} (hdenotes : Reference.Denotes reference denoted) {error : FormatError}
    (herror : Spec.parse text = .error error) : parse body = .error error := by
  cases h with
  | specified hcolon =>
    rw [parse_of_cutAt?_eq_some (cutAt?_append hcolon _), hdenotes.read_eq, herror]
    rfl

theorem CutAtColon.outcome_parse (h : CutAtColon body reference spec) :
    Outcome body reference spec (parse body) where
  ok := fun _ ↦ h.parse_eq_ok_iff
  badReference := h.parse_of_not_denotes
  badSpec := by
    rintro ⟨denoted, hdenotes⟩ text hspec error herror
    rw [Option.mem_def.mp hspec] at h
    exact ⟨h.parse_of_spec_error hdenotes herror, Spec.exists_invalidSpec_of_parse herror⟩

end Outcome

/-- A body that is accepted is written again in a text that is read as the same placeholder. -/
theorem exists_outcome_parse (body : Text) :
    ∃ reference spec, (∀ reference' spec', CutAtColon body reference' spec' ↔
        reference' = reference ∧ spec' = spec) ∧
      Outcome body reference spec (parse body) ∧
      ∀ p, parse body = .ok p → ∃ text, p.print? = .ok (braced text) ∧ parse text = .ok p := by
  obtain ⟨reference, spec, hcut⟩ := exists_cutAtColon body
  refine ⟨reference, spec, hcut, ((hcut reference spec).mpr ⟨rfl, rfl⟩).outcome_parse, ?_⟩
  intro p hp
  have hcanonical := canonical_of_parse hp
  exact ⟨p.printBody, hcanonical.print?_eq, hcanonical.parse_printBody⟩

/-- The first colon ends the reference, and the second one is the fill. -/
example : parse "x::>3".toList =
    .ok ⟨.name ['x'], some { fill := [':'], align := some .right, width := some 3 }⟩ := rfl

end Placeholder

end BraceFormat
