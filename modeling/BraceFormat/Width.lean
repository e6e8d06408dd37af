import BraceFormat.Width.Tables

/-!
The columns that a text takes in a terminal. A text is measured from left to right: a zero-width
joiner takes the character after it along, and the emoji selector widens a narrow character that
it follows. A control character has no place in such a line, so a text that holds one is measured
character by character instead, its control characters taking nothing.
-/

set_option autoImplicit false
set_option relaxedAutoImplicit false

namespace BraceFormat

/-- The columns of one character; none for a control character. -/
def charWidth? (c : Char) : Option Nat :=
  let n := c.toNat
  if 0x20 ≤ n ∧ n ≤ 0x7E then some 1
  else if (0x01 ≤ n ∧ n ≤ 0x1F) ∨ (0x7F ≤ n ∧ n ≤ 0x9F) then none
  else if inRanges zeroWidthRanges c then some 0
  else if inRanges wideRanges c then some 2
  else some 1

def charWidth (c : Char) : Nat :=
  (charWidth? c).getD 0

def joiner : Char := '\u200D'

def emojiSelector : Char := '\uFE0F'

/-- What the emoji selector adds to the character before it. -/
def selectorGain (c : Char) : Nat :=
  if inRanges emojiWidenedRanges c then 1 else 0

/-- The columns of a text behind `last`, the latest character with a width that no selector has
followed yet; none if a control character is reached. -/
def lineWidth? (last : Option Char) : Text → Option Nat
  | [] => some 0
  | c :: rest =>
    if c = joiner then
      match rest with
      | [] => some 0
      | _ :: afterJoined => lineWidth? last afterJoined
    else
      match (if c = emojiSelector then last else none) with
      | some widened => (lineWidth? none rest).map (selectorGain widened + ·)
      | none =>
        match charWidth? c with
        | none => none
        | some width => (lineWidth? (if 0 < width then some c else last) rest).map (width + ·)

/-- The columns of a text taken character by character. -/
def sumWidth (text : Text) : Nat :=
  (text.map charWidth).sum

def displayWidth (text : Text) : Nat :=
  (lineWidth? none text).getD (sumWidth text)

theorem sumWidth_append (first second : Text) :
    sumWidth (first ++ second) = sumWidth first + sumWidth second := by
  simp [sumWidth]

end BraceFormat
