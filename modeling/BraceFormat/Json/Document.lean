import BraceFormat.Json.Encoding
import BraceFormat.Text.Hex

/-!
JSON documents: a text, and the block whose characters stand in for halves of surrogate pairs, those
in the text and those that it escapes. No other character of the text and no escape in it lies in
that block.
-/

set_option autoImplicit false
set_option relaxedAutoImplicit false

namespace BraceFormat.Json

structure Document where
  text : Text
  standIns : StandIns
deriving DecidableEq

/-- The units that are escaped in a text. -/
def escapedUnits : Text → List Nat
  | [] => []
  | '\\' :: rest =>
    match rest with
    | 'u' :: a :: b :: c :: d :: _ => (hexNumber? [a, b, c, d]).toList ++ escapedUnits rest
    | _ => escapedUnits rest
  | _ :: rest => escapedUnits rest

/-- A code point that lies in the same block as all that an escaped unit can begin to spell: a high
half spells half of a block of code points, together with the low halves. -/
def escapedPoint (unit : Nat) : Nat :=
  if isHighHalf unit then joinedPoint unit 0xDC00 else unit

namespace Document

/-- The document of code points, with the halves that stand alone among them. -/
def ofPoints (points : List Nat) : Document :=
  let escaped := (escapedUnits (points.map Char.ofNat)).map escapedPoint
  let standIns := StandIns.avoiding (escaped ++ points)
  ⟨points.map standIns.charOf, standIns⟩

def ofText (text : Text) : Document :=
  ofPoints (text.map Char.toNat)

/-- The document that is meant by a text of which the bytes in UTF-8 are sent, if they spell one. -/
def ofSent? (sent : Text) : Option Document :=
  (decode? sent).map ofPoints

end Document

end BraceFormat.Json
