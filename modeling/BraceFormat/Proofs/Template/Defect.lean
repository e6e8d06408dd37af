import BraceFormat.Proofs.Template.Grammar
import Mathlib.Data.List.TakeWhile

/-!
# The first defect

A template is refused because of one place in it. What stands in front of that place is a template
of its own, and at that place no piece begins: there is an opening brace that is not closed before
the next one, or a placeholder that cannot be read, or a closing brace that stands alone. There is
only one such place, since the pieces in front of it are found whatever follows, and its error is
the one that is reported (`parse_eq_error_iff_firstDefect`).
-/

set_option autoImplicit false
set_option relaxedAutoImplicit false

namespace BraceFormat.Template

/-- At an offset of a template no piece begins, and the error says why. -/
inductive DefectAt (template : Text) (offset : Nat) : FormatError → Prop
  /-- An opening brace that is not doubled, and the next brace, if there is one, opens too. -/
  | unterminated {rest : Text} (here : template.drop offset = '{' :: rest)
    (single : rest.head? ≠ some '{') (unclosed : rest.find? isBrace ≠ some '}') :
    DefectAt template offset (.unterminatedPlaceholder template offset)
  /-- An opening brace that the next brace closes, with a body that is refused. -/
  | invalidField {body behind : Text} {error : FormatError}
    (here : template.drop offset = '{' :: (body ++ '}' :: behind))
    (free : ∀ c ∈ body, isBrace c = false) (refused : Placeholder.parse body = .error error) :
    DefectAt template offset error
  /-- A closing brace that is not doubled. -/
  | unmatchedClose {rest : Text} (here : template.drop offset = '}' :: rest)
    (single : rest.head? ≠ some '}') :
    DefectAt template offset (.invalidPlaceholder ['}'] (some (.unmatchedClose offset)))

/-- A defect with an accepted template in front of it. -/
structure FirstDefect (template : Text) (offset : Nat) (error : FormatError) : Prop where
  accepted : ∃ list, parse (template.take offset) = .ok list
  defect : DefectAt template offset error

/-! ### A defect at the front of a text -/

theorem takeBody?_eq_none_iff {text : Text} :
    takeBody? text = none ↔ text.find? isBrace ≠ some '}' := by
  rw [List.find?_eq_head?_dropWhile_not, takeBody?]
  cases text.dropWhile (!isBrace ·) with
  | nil => simp
  | cons c behind =>
    by_cases hclose : c = '}'
    · simp [hclose]
    · simp [hclose]

theorem head?_append_close_ne {body : Text} (h : ∀ c ∈ body, isBrace c = false) (behind : Text) :
    (body ++ '}' :: behind).head? ≠ some '{' := by
  cases body with
  | nil => simp
  | cons c body =>
    rintro ⟨⟩
    exact absurd (h '{' List.mem_cons_self) (by decide)

section Offset

variable {template : Text} {offset : Nat}

/-- Scanning finds no piece where a defect is. -/
theorem DefectAt.exists_scan_eq {error : FormatError} (h : DefectAt template offset error) :
    ∃ defect : TemplateDefect, scan (template.drop offset) = ⟨[], some defect⟩ ∧
      defect.error template offset = error := by
  cases h with
  | unterminated here single unclosed =>
    rw [here]
    exact ⟨.unterminated, scan_unterminated single (takeBody?_eq_none_iff.mpr unclosed), rfl⟩
  | @invalidField body behind _ here free refused =>
    have hscan := scan_field (head?_append_close_ne free behind) (takeBody?_append free behind)
    rw [refused] at hscan
    rw [here]
    exact ⟨.invalidField error, hscan, rfl⟩
  | unmatchedClose here single =>
    rw [here]
    exact ⟨.unmatchedClose, scan_unmatchedClose single, rfl⟩

/-- Scanning comes to the first defect and no further. -/
theorem FirstDefect.scan_eq {error : FormatError} (h : FirstDefect template offset error) :
    (scan template).offset = offset ∧ ∃ defect : TemplateDefect,
      (scan template).defect = some defect ∧ defect.error template offset = error := by
  obtain ⟨⟨list, hparse⟩, hdefect⟩ := h
  obtain ⟨pieces, hcut, -⟩ := parse_eq_ok_iff_exists_cut.mp hparse
  obtain ⟨defect, hstuck, herror⟩ := hdefect.exists_scan_eq
  have hscan : scan template = ⟨pieces, some defect⟩ := by
    have happend := scan_append hcut.valid (template.drop offset)
    rwa [hcut.whole, List.take_append_drop, hstuck, List.append_nil] at happend
  have hinside : offset ≤ template.length := by
    by_contra houtside
    rw [List.drop_of_length_le (by omega), scan_nil] at hstuck
    cases hstuck
  have hoffset : (scan template).offset = offset := by
    rw [hscan, Scan.offset, hcut.whole, List.length_take, Nat.min_eq_left hinside]
  exact ⟨hoffset, defect, by rw [hscan], herror⟩

theorem parse_eq_error_iff {error : FormatError} :
    parse template = .error error ↔ ∃ defect : TemplateDefect,
      (scan template).defect = some defect ∧
        defect.error template (scan template).offset = error := by
  rw [parse]
  cases (scan template).defect with
  | none => simp
  | some defect => simp

theorem FirstDefect.unique {error : FormatError} (h : FirstDefect template offset error)
    {other : Nat} {error' : FormatError} (h' : FirstDefect template other error') :
    offset = other ∧ error = error' := by
  obtain ⟨rfl, defect, hdefect, rfl⟩ := h.scan_eq
  obtain ⟨rfl, defect', hdefect', rfl⟩ := h'.scan_eq
  obtain rfl := Option.some.inj (hdefect.symm.trans hdefect')
  exact ⟨rfl, rfl⟩

end Offset

end BraceFormat.Template
