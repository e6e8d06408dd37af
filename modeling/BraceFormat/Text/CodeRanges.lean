import BraceFormat.Text

/-!
Sets of characters given by inclusive ranges of code points, as tables of character properties are
written.
-/

set_option autoImplicit false
set_option relaxedAutoImplicit false

namespace BraceFormat

/-- Inclusive ranges of code points. -/
abbrev CodeRanges := List (Nat × Nat)

def inRanges (ranges : CodeRanges) (c : Char) : Bool :=
  ranges.any fun range ↦ range.1 ≤ c.toNat && c.toNat ≤ range.2

end BraceFormat
