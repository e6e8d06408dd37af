import BraceFormat.Error
import BraceFormat.Number.Shortest
import BraceFormat.Text.Blank

/-!
Arguments: a value with its written form, a position, and perhaps a name. The written form alone
decides the kind of a value that is read: an integer first, then a binary64 number, and anything
else is text.
-/

set_option autoImplicit false
set_option relaxedAutoImplicit false

namespace BraceFormat

inductive ValueKind
  | integer
  | float
  | string
deriving DecidableEq

namespace ValueKind

def label : ValueKind → Text
  | integer => "integer".toList
  | float => "float".toList
  | string => "string".toList

def isNumeric (kind : ValueKind) : Bool :=
  kind ≠ string

end ValueKind

inductive Value
  | integer (n : Int)
  | float (x : Binary64)
  | string (text : Text)
deriving DecidableEq

namespace Value

def kind : Value → ValueKind
  | integer _ => .integer
  | float _ => .float
  | string _ => .string

/-- The least magnitude of an integer that rounds to an infinite binary64 number. -/
def integerLimit : Nat :=
  2 ^ wholeBits - 2 ^ (wholeBits - 54)

/-- Whether a value has a negative sign. The sign of an integer is that of the binary64 number
nearest to it, so there has to be a finite one. -/
def isNegative : Value → Except Fault Bool
  | integer n => if n.natAbs < integerLimit then .ok (n < 0) else .error .magnitudeTooLarge
  | float x => .ok x.isNegative
  | string _ => .ok false

/-- The written form of a value. -/
def print? : Value → Except Fault Text
  | integer n => if Numeral.Writable n then .ok (Numeral.ofInt n) else .error .numeralTooLong
  | float x => .ok x.shortest
  | string text => .ok text

/-- The letter that a character stands for when case is ignored. The capital `I` with a dot and the
small `i` without one stand for `i` too. -/
def foldCase (c : Char) : Char :=
  if c = 'İ' ∨ c = 'ı' then 'i' else c.toLower

def isInfinityWord (word : Text) : Bool :=
  word.map foldCase = "inf".toList || word.map foldCase = "infinity".toList

def isNanWord (word : Text) : Bool :=
  word.map foldCase = "nan".toList

/-- A text in the form of an integer: an optional sign and at least one digit. -/
def isIntegerText (text : Text) : Bool :=
  (splitSign text).2 ≠ [] && (splitSign text).2.all Char.isDigit

/-- Reads a value from its written form. Words for infinity count in any case, but only in ASCII
letters do they denote it. -/
def read (text : Text) : Except Fault Value :=
  let (negative, unsigned) := splitSign text
  if isIntegerText text then
    match Numeral.read? unsigned with
    | some n => .ok (integer (if negative then -n else n))
    | none => .ok (string text)
  else
    match Decimal.read? unsigned with
    | some d => .ok (float (.ofDecimal negative d))
    | none =>
      if isInfinityWord unsigned then
        if unsigned.all (·.toNat < 128) then .ok (float (.infinity negative))
        else .error (.notANumber text)
      else if isNanWord unsigned then .ok (float .nan)
      else .ok (string text)

end Value

structure Argument where
  position : Int
  name : Option Text
  value : Value
  raw : Text
deriving DecidableEq

namespace Argument

/-- A name and the text behind the first `=`, both without the blanks around them; an empty name is
none. -/
def splitName (token : Text) : Option Text × Text :=
  match cutAt? '=' token with
  | none => (none, strip token)
  | some (left, right) => (if strip left = [] then none else some (strip left), strip right)

/-- Reads an argument given as `value` or `name=value`. -/
def parse (token : Text) (position : Int) : Except Fault Argument :=
  let (name, raw) := splitName token
  (Value.read raw).map fun value ↦ ⟨position, name, value, raw⟩

/-- What a caller may offer as an argument besides a text to read. -/
inductive Offer
  | value (value : Value)
  /-- A value of a type that no placeholder can show. -/
  | unsupported (typeName : Text)

/-- Makes an argument of a value as it is, without reading its text. -/
def ofOffer (offer : Offer) (name : Option Text) (position : Int) : Except Failure Argument :=
  match offer with
  | .value value =>
    match value.print? with
    | .ok raw => .ok ⟨position, name, value, raw⟩
    | .error fault => .error (.fault fault)
  | .unsupported typeName => .error (.format (.invalidArgument (.unsupportedType typeName)))

def print (argument : Argument) : Text :=
  match argument.name with
  | none => argument.raw
  | some name => name ++ '=' :: argument.raw

def isNamed (argument : Argument) (name : Text) : Bool :=
  argument.name = some name

def isNegative (argument : Argument) : Except Fault Bool :=
  argument.value.isNegative

end Argument

end BraceFormat
