import BraceFormat.Number.Binary64

/-!
A binary64 number with a fixed count of decimal places: its exact value rounded to that many
places, a half going to the even neighbour.
-/

set_option autoImplicit false
set_option relaxedAutoImplicit false

namespace BraceFormat

/-- The digits of `count` units of `10 ^ -places`, with a point if there are places. -/
def writePlaces (count places : Nat) : Text :=
  let digits := (Numeral.ofNat count).leftpad (places + 1) '0'
  let whole := digits.length - places
  if places = 0 then digits else digits.take whole ++ '.' :: digits.drop whole

namespace Magnitude

/-- The count of units of `10 ^ -places` nearest to the magnitude. -/
def roundPlaces (m : Magnitude) (places : Nat) : Nat :=
  roundHalfEven (m.units * 10 ^ places) unitsPerOne

/-- The magnitude with a fixed count of places. No magnitude has more than 1074 places, so those
behind them are zeros. -/
def fixed (m : Magnitude) (places : Nat) : Text :=
  let exactPlaces := min places fractionBits
  writePlaces (m.roundPlaces exactPlaces) exactPlaces ++ List.replicate (places - exactPlaces) '0'

end Magnitude

namespace Binary64

/-- A number with a fixed count of places, without its sign. -/
def fixedMagnitude (x : Binary64) (places : Nat) : Text :=
  match x with
  | nan => ['n', 'a', 'n']
  | infinity _ => ['i', 'n', 'f']
  | finite _ m => m.fixed places

end Binary64

end BraceFormat
