import BraceFormat.Spec

/-!
Reading specifiers. A specifier is a fill and an alignment, a sign, `#`, digits, a point with
digits, and a letter for the base, each of which may be missing. The reader takes these parts from
the front, each as long as it can be; what is left over is unexpected. The parts are then turned
into fields: a leading zero of the digits asks for zero padding and is no part of the width.
-/

set_option autoImplicit false
set_option relaxedAutoImplicit false

namespace BraceFormat.Spec

/-- The parts of a specifier as they stand in its text. -/
structure Parts where
  fill : Option Char
  align : Option Alignment
  sign : Option Sign
  alternate : Bool
  digits : Text
  places : Option Text
  base : Base
deriving DecidableEq

/-- The text that the parts stand for. -/
def Parts.text (parts : Parts) : Text :=
  parts.fill.toList ++ (parts.align.map Alignment.char).toList ++
    (parts.sign.map Sign.char).toList ++ (if parts.alternate then ['#'] else []) ++
    parts.digits ++ (parts.places.elim [] ('.' :: ·)) ++ parts.base.letter

/-- Takes an alignment off the front, with the character before it as its fill. -/
def takeAlign (text : Text) : (Option Char × Option Alignment) × Text :=
  let unfilled : (Option Char × Option Alignment) × Text :=
    match text with
    | [] => ((none, none), text)
    | first :: rest =>
      match Alignment.ofChar? first with
      | some align => ((none, some align), rest)
      | none => ((none, none), text)
  match text with
  | first :: second :: rest =>
    match Alignment.ofChar? second with
    | some align => ((some first, some align), rest)
    | none => unfilled
  | _ => unfilled

def takeSign : Text → Option Sign × Text
  | [] => (none, [])
  | first :: rest =>
    match Sign.ofChar? first with
    | some sign => (some sign, rest)
    | none => (none, first :: rest)

def takeAlternate : Text → Bool × Text
  | '#' :: rest => (true, rest)
  | text => (false, text)

/-- Takes a point with at least one digit off the front. -/
def takePlaces (text : Text) : Option Text × Text :=
  match text with
  | '.' :: rest =>
    match runOf Char.isDigit rest with
    | ([], _) => (none, text)
    | (digits, behind) => (some digits, behind)
  | _ => (none, text)

def takeBase : Text → Base × Text
  | [] => (.decimal, [])
  | first :: rest =>
    match Base.ofChar? first with
    | some base => (base, rest)
    | none => (.decimal, first :: rest)

/-- The parts at the front of a text and what is left over. -/
def takeParts (text : Text) : Parts × Text :=
  let ((fill, align), text) := takeAlign text
  let (sign, text) := takeSign text
  let (alternate, text) := takeAlternate text
  let (digits, text) := runOf Char.isDigit text
  let (places, text) := takePlaces text
  let (base, text) := takeBase text
  (⟨fill, align, sign, alternate, digits, places, base⟩, text)

namespace Parts

def zeroPad (parts : Parts) : Bool :=
  parts.digits.head? = some '0'

/-- The digits of the width: those behind the leading zero, or that zero if it stands alone. -/
def widthDigits (parts : Parts) : Option Text :=
  match parts.digits with
  | [] => none
  | ['0'] => some ['0']
  | '0' :: rest => some rest
  | digits => some digits

/-- A numeral that may be missing; none of it if it is there and too long. -/
def readNumber? : Option Text → Option (Option Nat)
  | none => some none
  | some digits => (Numeral.read? digits).map some

/-- The specifier that the parts make. -/
def toSpec (parts : Parts) : Except SpecDefect Spec :=
  match readNumber? parts.widthDigits, readNumber? parts.places with
  | some width, some places =>
    if width = some 0 then .error .zeroWidth
    else
      .ok {
        fill := [parts.fill.getD ' ']
        align := parts.align
        sign := parts.sign
        alternate := parts.alternate
        zeroPad := parts.zeroPad
        base := parts.base
        width := width.map Int.ofNat
        precision := places.map Int.ofNat }
  | _, _ => .error .numberTooLarge

end Parts

/-- The column of the character that is `offset` characters into a specifier. Columns count from
one, and a line feed taken as the fill starts them anew. -/
def columnAt (parts : Parts) (offset : Nat) : Nat :=
  if parts.fill = some '\n' then offset else offset + 1

def read (text : Text) : Except SpecDefect Spec :=
  match takeParts text with
  | (parts, []) => parts.toSpec
  | (parts, left) => .error (.unexpectedInput (columnAt parts (text.length - left.length)))

/-- Reads a specifier; an error names the text. -/
def parse (text : Text) : Except FormatError Spec :=
  (read text).mapError fun defect ↦ .invalidSpec text (some defect)

end BraceFormat.Spec
