import BraceFormat.Number.Numeral
import BraceFormat.Text.Blank

/-!
Integers as they are typed: with spacing around them, a sign, zeros in front, underscores between
digits, and decimal places that are all zero. What is typed is reduced step by step to a strict
numeral, which has none of these but a minus sign, and that is read. A minus sign that stands behind
zeros is kept by the reduction, so it counts unless another one stands in front of the zeros.
-/

set_option autoImplicit false
set_option relaxedAutoImplicit false

namespace BraceFormat.LooseInteger

/-- The text behind zeros and underscores, of which `last` is the latest character. That one is kept
if the text ends there or a point follows. -/
def behindZeros? (last : Char) : Text → Option Text
  | [] => some [last]
  | c :: rest =>
    if c = '0' ∨ c = '_' then behindZeros? c rest
    else if c = '.' then some (last :: c :: rest)
    else if c.isDigit ∨ c = '-' then some (c :: rest)
    else none

/-- The text without the zeros in front. -/
def skipZeros? : Text → Option Text
  | [] => none
  | first :: rest =>
    if first = '0' then behindZeros? first rest
    else if first.isDigit ∨ first = '-' then some (first :: rest)
    else none

/-- The text without a plus sign and without the zeros behind the sign. -/
def skipSignedZeros? : Text → Option Text
  | '+' :: '-' :: _ => none
  | '+' :: rest => skipZeros? rest
  | '-' :: rest => (skipZeros? rest).map ('-' :: ·)
  | text => skipZeros? text

/-- The text without its decimal places if they are all zero. -/
def dropZeroPlaces (text : Text) : Text :=
  match cutAt? '.' text with
  | some (whole, places) => if places ≠ [] ∧ places.all (· = '0') then whole else text
  | none => text

/-- The text without underscores, each of which has to stand alone between other characters. -/
def joinGroups? : Text → Option Text
  | [] => some []
  | '_' :: _ => none
  | [_, '_'] => none
  | c :: '_' :: rest => (joinGroups? rest).map (c :: ·)
  | c :: rest => (joinGroups? rest).map (c :: ·)

/-- The value of digits with no zero in front. -/
def readDigits? (digits : Text) : Option Nat :=
  if digits = ['0'] then some 0
  else if digits ≠ [] ∧ digits.all Char.isDigit ∧ digits.head? ≠ some '0' then
    some (Numeral.value digits)
  else none

/-- Reads a strict numeral, of which the minus sign counts towards the length. -/
def readStrict? (text : Text) : Option Int :=
  if Numeral.maxDigits < text.length then none
  else
    match text with
    | '-' :: digits => (readDigits? digits).map fun n ↦ -(n : Int)
    | digits => (readDigits? digits).map Int.ofNat

def read? (text : Text) : Option Int :=
  ((skipSignedZeros? (trim isSpacing text)).bind (joinGroups? <| dropZeroPlaces ·)).bind readStrict?

example : read? " +1_000.00 ".toList = some 1000 := by decide

example : read? "-0__1".toList = some (-1) := by decide

example : read? "00-1".toList = some (-1) := by decide

example : read? "1__0".toList = none := by decide

end BraceFormat.LooseInteger
