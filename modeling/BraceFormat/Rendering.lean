import BraceFormat.Argument
import BraceFormat.Number.FixedPlaces
import BraceFormat.Spec
import BraceFormat.Width

/-!
Rendering a value under a specifier. Text is padded on the right and numbers on the left, unless the
specifier aligns them. A number is a sign, a marker of its base and its digits; zero padding goes
between the marker and the digits.
-/

set_option autoImplicit false
set_option relaxedAutoImplicit false

namespace BraceFormat

/-- The largest count of characters that a text may be asked to have. -/
def maxCount : Nat :=
  2 ^ 63 - 1

/-- A fill repeated `count` times. -/
def repeatFill (fill : Text) (count : Nat) : Except Fault Text :=
  if maxCount < count then .error .fillTooLong
  else if maxCount < fill.length * count then .error .filledTooLong
  else if fill = [] then .ok []
  else .ok (List.replicate count fill).flatten

/-- Pads a text with the fill up to the width, which counts columns. An odd fill of a centred text
goes to its right. -/
def pad (text : Text) (spec : Spec) (default : Alignment) : Except Fault Text :=
  match spec.width with
  | none => .ok text
  | some width =>
    let missing := (width - displayWidth text).toNat
    if missing = 0 then .ok text
    else
      match spec.align.getD default with
      | .left => (repeatFill spec.fill missing).map (text ++ ·)
      | .right => (repeatFill spec.fill missing).map (· ++ text)
      | .center =>
        match repeatFill spec.fill (missing / 2) with
        | .error fault => .error fault
        | .ok before =>
          (repeatFill spec.fill (missing - missing / 2)).map (before ++ text ++ ·)

/-- Zeros in front of digits, so that there are at least `count` characters. -/
def zeroFill (digits : Text) (count : Int) : Except Fault Text :=
  if (maxCount : Int) < count ∨ count < -maxCount - 1 then .error .zerosTooLong
  else .ok (digits.leftpad count.toNat '0')

/-- The parts of a rendered number. -/
structure NumberText where
  sign : Text
  marker : Text
  digits : Text

/-- The sign that is written for a number. -/
def signText (negative : Bool) (spec : Spec) : Text :=
  if negative then ['-'] else if spec.sign = some .plus then ['+'] else []

namespace NumberText

def text (number : NumberText) : Text :=
  number.sign ++ number.marker ++ number.digits

/-- Lays out a number. Zero padding takes the place of fill and alignment. -/
def layOut (number : NumberText) (spec : Spec) : Except Fault Text :=
  match spec.zeroPad, spec.width with
  | true, some width =>
    (zeroFill number.digits (width - number.sign.length - number.marker.length)).map
      (number.sign ++ number.marker ++ ·)
  | _, _ => pad number.text spec .right

end NumberText

/-- The digits of a binary64 number, without its sign. -/
def floatDigits (x : Binary64) (precision : Option Int) : Except Fault Text :=
  match precision with
  | none => .ok x.shortestMagnitude
  | some places =>
    if ¬ Numeral.Writable places then .error .numeralTooLong
    else if places < 0 then .error .precisionNegative
    else if maxCount < places then .error .precisionTooLong
    else if 2 ^ 31 - 1 < places then .error .precisionTooLarge
    else .ok (x.fixedMagnitude places.toNat)

/-- The error for a directive that cannot be applied to a kind of value. -/
def unsupported (spec : Spec) (directive : Directive) (kind : ValueKind) : Failure :=
  match spec.print? with
  | .ok text => .format (.unsupportedSpec text directive.label kind.label)
  | .error fault => .fault fault

/-- The directives that a specifier asks for and a kind of value does not allow. -/
def refused (spec : Spec) : ValueKind → List Directive
  | .string => spec.numericDirectives
  | .float =>
    (if spec.base ≠ .decimal then [.base spec.base] else []) ++
      (if spec.alternate then [.alternateForm] else [])
  | .integer => []

def renderValue (value : Value) (spec : Spec) : Except Fault Text :=
  match value with
  | .string text => pad text spec .left
  | .float x =>
    match floatDigits x spec.precision with
    | .error fault => .error fault
    | .ok digits => NumberText.layOut ⟨signText x.isNegative spec, [], digits⟩ spec
  | .integer n =>
    match (Value.integer n).isNegative with
    | .error fault => .error fault
    | .ok negative =>
      NumberText.layOut
        ⟨signText negative spec, if spec.alternate then spec.base.marker else [],
          spec.base.digits n.natAbs⟩ spec

/-- Renders a value; the first directive that it does not allow is an error. -/
def render (value : Value) (spec : Spec) : Except Failure Text :=
  match refused spec value.kind with
  | directive :: _ => .error (unsupported spec directive value.kind)
  | [] => (renderValue value spec).mapError .fault

end BraceFormat
