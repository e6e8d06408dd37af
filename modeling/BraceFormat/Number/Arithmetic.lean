import BraceFormat.Error
import BraceFormat.Number.Binary64

/-!
Arithmetic on binary64 numbers: the nearest number to an integer, differences, multiples, and the
whole part. Each result is the exact one rounded once. The sign of a zero is not kept.
-/

set_option autoImplicit false
set_option relaxedAutoImplicit false

namespace BraceFormat.Binary64

/-- The number nearest to a count of units. -/
def ofUnits (units : Int) : Binary64 :=
  match Magnitude.ofUnits? units.natAbs 1 with
  | some m => finite (units < 0) m
  | none => infinity (units < 0)

/-- The units of a finite magnitude with a sign. -/
def signedUnits (negative : Bool) (m : Magnitude) : Int :=
  if negative then -m.units else m.units

/-- The number nearest to an integer, which has to be finite. -/
def ofInt (n : Int) : Except Fault Binary64 :=
  match ofUnits (n * unitsPerOne) with
  | infinity _ => .error .magnitudeTooLarge
  | x => .ok x

def sub : Binary64 → Binary64 → Binary64
  | finite negative m, finite negative' m' =>
    ofUnits (signedUnits negative m - signedUnits negative' m')
  | nan, _ => nan
  | _, nan => nan
  | infinity negative, infinity negative' =>
    if negative = negative' then nan else infinity negative
  | infinity negative, finite .. => infinity negative
  | finite .., infinity negative => infinity !negative

/-- The number times a positive factor. -/
def scale (factor : Nat) : Binary64 → Binary64
  | finite negative m => ofUnits (factor * signedUnits negative m)
  | x => x

/-- The whole part of a number. -/
def truncate : Binary64 → Except Fault Int
  | finite negative m => .ok ((signedUnits negative m).tdiv unitsPerOne)
  | infinity _ => .error .wholePartOfInfinity
  | nan => .error .wholePartOfNan

end BraceFormat.Binary64
