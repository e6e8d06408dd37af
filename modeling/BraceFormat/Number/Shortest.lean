import BraceFormat.Number.Binary64

/-!
The shortest decimal text of a binary64 number: the fewest digits that read back to it and, of
those, the digits nearest to it.

Every magnitude is a whole number of units of `10 ^ -1074`, so its decimal digits are those of a
natural number. For each count of digits the two decimal fractions around the magnitude are tried,
and the first count at which one of them reads back is taken. All digits together read back, so one
is always found.
-/

set_option autoImplicit false
set_option relaxedAutoImplicit false

namespace BraceFormat

namespace Magnitude

/-- The magnitude as a decimal fraction, exactly: `2 ^ -1074` is `5 ^ 1074` units of
`10 ^ -1074`. -/
def exactDecimal (m : Magnitude) : Decimal :=
  ⟨m.units * 5 ^ fractionBits, -fractionBits⟩

def ReadsBack (m : Magnitude) (d : Decimal) : Prop :=
  ofDecimal? d = some m

instance (m : Magnitude) (d : Decimal) : Decidable (m.ReadsBack d) :=
  inferInstanceAs (Decidable (ofDecimal? d = some m))

/-- The decimal fraction that leaves out the last `dropped` digits of `exact` and reads back: of
the two around `exact` the nearer, and of two equally near the one with the even last digit. -/
def readBackWithout? (m : Magnitude) (exact : Nat) (dropped : Nat) : Option Decimal :=
  let step := 10 ^ dropped
  let below : Decimal := ⟨exact / step, dropped - fractionBits⟩
  let above : Decimal := ⟨exact / step + 1, dropped - fractionBits⟩
  let nearerBelow := roundHalfEven exact step = exact / step
  match decide (m.ReadsBack below), decide (m.ReadsBack above) with
  | true, true => some (if nearerBelow then below else above)
  | true, false => some below
  | false, true => some above
  | false, false => none

/-- The decimal fraction with the fewest digits that reads back. -/
def shortestDecimal (m : Magnitude) : Decimal :=
  let exact := m.exactDecimal.significand
  let digits := (Numeral.ofNat exact).length
  ((List.range digits).reverse.findSome? (m.readBackWithout? exact)).getD m.exactDecimal

end Magnitude

namespace Binary64

/-- Shortest texts are positional from `0.0001` to below `10 ^ 16`, and their exponents have at
least two digits. -/
def shortestLayout : Decimal.Layout :=
  ⟨-4, 16, 2⟩

/-- The shortest text of a number without its sign. -/
def shortestMagnitude : Binary64 → Text
  | nan => ['n', 'a', 'n']
  | infinity _ => ['i', 'n', 'f']
  | finite _ m => m.shortestDecimal.write shortestLayout

def shortest (x : Binary64) : Text :=
  if x.isNegative then '-' :: x.shortestMagnitude else x.shortestMagnitude

end Binary64

end BraceFormat
