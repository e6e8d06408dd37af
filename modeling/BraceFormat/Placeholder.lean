import BraceFormat.Spec.Reader

/-!
Placeholders: a reference to an argument and, behind a colon, a specifier.
-/

set_option autoImplicit false
set_option relaxedAutoImplicit false

namespace BraceFormat

/-- Which argument a placeholder selects. -/
inductive Reference
  /-- The next argument, in the order of the placeholders of this kind. -/
  | implicit
  /-- The argument at a position. -/
  | index (position : Int)
  | name (name : Text)
deriving DecidableEq

namespace Reference

def isNameStart (c : Char) : Bool :=
  c.isAlpha || c = '_'

def isNameRest (c : Char) : Bool :=
  c.isAlphanum || c = '_'

/-- Whether a text is an ASCII letter or underscore, with ASCII letters, digits and underscores
behind it. -/
def isName : Text → Bool
  | [] => false
  | first :: rest => isNameStart first && rest.all isNameRest

/-- Reads a reference; a missing one is implicit. -/
def read (text : Text) : Except PlaceholderDefect Reference :=
  if text = [] then .ok implicit
  else if text.all Char.isDigit then
    match Numeral.read? text with
    | some position => .ok (index position)
    | none => .error .indexTooLarge
  else if isName text then .ok (name text)
  else .error .badReference

def print : Reference → Text
  | implicit => []
  | index position => Numeral.ofInt position
  | name text => text

def Writable : Reference → Prop
  | index position => Numeral.Writable position
  | _ => True

instance (reference : Reference) : Decidable reference.Writable :=
  match reference with
  | implicit => .isTrue trivial
  | index position => inferInstanceAs (Decidable (Numeral.Writable position))
  | name _ => .isTrue trivial

def print? (reference : Reference) : Except Fault Text :=
  if reference.Writable then .ok reference.print else .error .numeralTooLong

end Reference

structure Placeholder where
  reference : Reference := .implicit
  spec : Option Spec := none
deriving DecidableEq

/-- A text in braces. -/
def braced (text : Text) : Text :=
  '{' :: text ++ ['}']

namespace Placeholder

/-- Reads what stands between the braces of a placeholder. A mistake in the reference is reported
before one in the specifier. -/
def parse (body : Text) : Except FormatError Placeholder :=
  let (reference, spec) :=
    match cutAt? ':' body with
    | some (before, after) => (before, some after)
    | none => (body, none)
  match Reference.read reference with
  | .error defect => .error (.invalidPlaceholder (braced body) (some defect))
  | .ok reference =>
    match spec with
    | none => .ok ⟨reference, none⟩
    | some text => (Spec.parse text).map fun spec ↦ ⟨reference, some spec⟩

def printBody (p : Placeholder) : Text :=
  p.reference.print ++ p.spec.elim [] fun spec ↦ ':' :: spec.print

/-- The text of a placeholder, braces included. -/
def print (p : Placeholder) : Text :=
  braced p.printBody

def Writable (p : Placeholder) : Prop :=
  p.reference.Writable ∧ ∀ spec ∈ p.spec, spec.Writable

instance (p : Placeholder) : Decidable p.Writable :=
  inferInstanceAs (Decidable (p.reference.Writable ∧ ∀ spec ∈ p.spec, spec.Writable))

def print? (p : Placeholder) : Except Fault Text :=
  if p.Writable then .ok p.print else .error .numeralTooLong

end Placeholder

end BraceFormat
