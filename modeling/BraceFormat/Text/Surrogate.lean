import BraceFormat.Text

/-!
Halves of surrogate pairs. A high half and a low half behind it spell one character beyond
`U+FFFF`. A half that stands alone spells none, and a text cannot hold it. So a block of private
characters stands in for halves, one character for each, and any of several blocks can do it: for
the halves of a document one is taken that none of its own characters lies in. Text that was made
from the document then shows where a half came through (`StandIns.firstRun?`).
-/

set_option autoImplicit false
set_option relaxedAutoImplicit false

namespace BraceFormat

def isHighHalf (unit : Nat) : Bool :=
  0xD800 ≤ unit && unit ≤ 0xDBFF

def isLowHalf (unit : Nat) : Bool :=
  0xDC00 ≤ unit && unit ≤ 0xDFFF

/-- The code point that a high half and a low half spell. -/
def joinedPoint (high low : Nat) : Nat :=
  0x10000 + (high - 0xD800) * 0x400 + (low - 0xDC00)

/-- The code points that units spell, with the halves that stand alone among them. -/
def joinHalves : List Nat → List Nat
  | high :: low :: rest =>
    if isHighHalf high && isLowHalf low then joinedPoint high low :: joinHalves rest
    else high :: joinHalves (low :: rest)
  | units => units

/-- How many halves there are. -/
def halfCount : Nat := 0x800

/-- A block of private characters that stand in for halves; 64 of them fill the private planes. -/
structure StandIns where
  index : Fin 64
deriving DecidableEq

/-- Halves that follow one another in a text: the first of them, where it stands, and how many
there are. -/
structure HalfRun where
  half : Nat
  start : Nat
  length : Nat
deriving DecidableEq

namespace StandIns

/-- The code point of the first character of a block. -/
def start (block : StandIns) : Nat :=
  0xF0000 + halfCount * block.index

/-- Whether a code point lies in a block. -/
def holds (block : StandIns) (point : Nat) : Bool :=
  block.start ≤ point && point < block.start + halfCount

/-- The character of a code point, or the one that stands in for a half. -/
def charOf (block : StandIns) (point : Nat) : Char :=
  if isHighHalf point || isLowHalf point then Char.ofNat (block.start + (point - 0xD800))
  else Char.ofNat point

/-- The half that a character of a block stands in for. -/
def halfOf (block : StandIns) (c : Char) : Nat :=
  0xD800 + (c.toNat - block.start)

/-- A block that no code point of a list lies in, and the first one if there is none. -/
def avoiding (points : List Nat) : StandIns :=
  (((List.finRange 64).map mk).find? fun block ↦ !points.any block.holds).getD ⟨0⟩

/-- The first halves in a text. -/
def firstRun? (block : StandIns) (text : Text) : Option HalfRun :=
  let (before, behind) := runOf (fun c ↦ !block.holds c.toNat) text
  match behind with
  | [] => none
  | c :: rest =>
    some ⟨block.halfOf c, before.length, (rest.takeWhile (block.holds ·.toNat)).length + 1⟩

end StandIns

end BraceFormat
