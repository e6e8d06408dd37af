import BraceFormat.Error
import BraceFormat.Number.Numeral

/-!
Format specifiers: how a value is laid out, as written behind the colon of a placeholder.
-/

set_option autoImplicit false
set_option relaxedAutoImplicit false

namespace BraceFormat

inductive Alignment
  | left
  | right
  | center
deriving DecidableEq

namespace Alignment

def char : Alignment → Char
  | left => '<'
  | right => '>'
  | center => '^'

def ofChar? (c : Char) : Option Alignment :=
  if c = '<' then some left
  else if c = '>' then some right
  else if c = '^' then some center
  else none

theorem ofChar?_char (a : Alignment) : ofChar? a.char = some a := by
  cases a <;> rfl

end Alignment

/-- When the sign of a number is written: `plus` asks for that of every number, `minus` only for
that of a negative one, which is also the rule if nothing is asked for. -/
inductive Sign
  | plus
  | minus
deriving DecidableEq

namespace Sign

def char : Sign → Char
  | plus => '+'
  | minus => '-'

def ofChar? (c : Char) : Option Sign :=
  if c = '+' then some plus else if c = '-' then some minus else none

theorem ofChar?_char (s : Sign) : ofChar? s.char = some s := by
  cases s <;> rfl

end Sign

inductive Base
  | decimal
  | hex
  | upperHex
  | octal
  | binary
deriving DecidableEq

namespace Base

def letter : Base → Text
  | decimal => []
  | hex => ['x']
  | upperHex => ['X']
  | octal => ['o']
  | binary => ['b']

def ofChar? (c : Char) : Option Base :=
  if c = 'x' then some hex
  else if c = 'X' then some upperHex
  else if c = 'o' then some octal
  else if c = 'b' then some binary
  else none

/-- What the alternate form writes in front of the digits. -/
def marker : Base → Text
  | decimal => []
  | hex | upperHex => ['0', 'x']
  | octal => ['0', 'o']
  | binary => ['0', 'b']

def radix : Base → Nat
  | decimal => 10
  | hex | upperHex => 16
  | octal => 8
  | binary => 2

/-- The digits of a number, in capitals for the upper hexadecimal base. -/
def digits (base : Base) (n : Nat) : Text :=
  match base with
  | upperHex => (Nat.toDigits 16 n).map Char.toUpper
  | _ => Nat.toDigits base.radix n

end Base

/-- A specifier. Fields that no text gives, such as a fill of several characters, can still be set
by hand. -/
structure Spec where
  fill : Text := [' ']
  align : Option Alignment := none
  sign : Option Sign := none
  alternate : Bool := false
  zeroPad : Bool := false
  base : Base := .decimal
  width : Option Int := none
  precision : Option Int := none
deriving DecidableEq

/-- The directives of a specifier that make sense for numbers only. -/
inductive Directive
  | plusSign
  | alternateForm
  | zeroPadding
  | base (base : Base)
  | precision
deriving DecidableEq

def Directive.label : Directive → Text
  | plusSign => "sign '+'".toList
  | alternateForm => "alternate form '#'".toList
  | zeroPadding => "zero padding".toList
  | base b => "base '".toList ++ b.letter ++ ['\x27']
  | precision => "precision".toList

namespace Spec

def isDefault (spec : Spec) : Bool :=
  spec = {}

/-- The directives for numbers that a specifier holds, in the order in which they are reported. -/
def numericDirectives (spec : Spec) : List Directive :=
  (if spec.sign = some .plus then [.plusSign] else []) ++
    (if spec.alternate then [.alternateForm] else []) ++
    (if spec.zeroPad then [.zeroPadding] else []) ++
    (if spec.base ≠ .decimal then [.base spec.base] else []) ++
    (if spec.precision.isSome then [.precision] else [])

/-- The fill and the alignment as written; a blank fill is not. -/
def printAlign (spec : Spec) : Text :=
  match spec.align with
  | none => []
  | some align => (if spec.fill = [' '] then [] else spec.fill) ++ [align.char]

/-- The text of a specifier. -/
def print (spec : Spec) : Text :=
  spec.printAlign ++ (spec.sign.map Sign.char).toList ++ (if spec.alternate then ['#'] else []) ++
    (if spec.zeroPad then ['0'] else []) ++ (spec.width.elim [] Numeral.ofInt) ++
    (spec.precision.elim [] fun places ↦ '.' :: Numeral.ofInt places) ++ spec.base.letter

/-- Whether the numbers of a specifier are short enough to be written. -/
def Writable (spec : Spec) : Prop :=
  (∀ width ∈ spec.width, Numeral.Writable width) ∧
    ∀ places ∈ spec.precision, Numeral.Writable places

instance (spec : Spec) : Decidable spec.Writable :=
  inferInstanceAs (Decidable ((∀ width ∈ spec.width, Numeral.Writable width) ∧
    ∀ places ∈ spec.precision, Numeral.Writable places))

def print? (spec : Spec) : Except Fault Text :=
  if spec.Writable then .ok spec.print else .error .numeralTooLong

end Spec

end BraceFormat
