import BraceFormat.Text

/-!
What can go wrong. A `FormatError` is a mistake in a template or in its arguments, and its text
tells the writer of the template about it. A `Fault` is a limit of the numbers and texts that the
library works with; it says nothing about the template being wrong.
-/

set_option autoImplicit false
set_option relaxedAutoImplicit false

namespace BraceFormat

/-- Why a text is no specifier. -/
inductive SpecDefect
  | unexpectedInput (column : Nat)
  | numberTooLarge
  | zeroWidth
  | remark (words : Text)
deriving DecidableEq

def SpecDefect.reason : SpecDefect → String
  | unexpectedInput column => s!"unexpected input at column {column}"
  | numberTooLarge => "number too large"
  | zeroWidth => "zero width"
  | remark words => String.ofList words

/-- Why a text is no placeholder. -/
inductive PlaceholderDefect
  | badReference
  | indexTooLarge
  | unmatchedClose (offset : Nat)
  | remark (words : Text)
deriving DecidableEq

def PlaceholderDefect.reason : PlaceholderDefect → String
  | badReference => "expected an argument index or name"
  | indexTooLarge => "argument index too large"
  | unmatchedClose offset => s!"unmatched '\x7d' at character {offset}"
  | remark words => String.ofList words

/-- Why arguments do not form a table. -/
inductive ArgumentDefect
  | duplicateName (name : Text)
  | unsupportedType (typeName : Text)
  | remark (words : Text) (context : List (Text × Text))
deriving DecidableEq

def ArgumentDefect.message : ArgumentDefect → String
  | duplicateName name => s!"Duplicate argument name: '{String.ofList name}'"
  | unsupportedType typeName => s!"Unsupported argument type: {String.ofList typeName}"
  | remark words _ => String.ofList words

def ArgumentDefect.context : ArgumentDefect → List (Text × Text)
  | duplicateName _ | unsupportedType _ => []
  | remark _ context => context

inductive FormatError
  | general (words : Text) (context : List (Text × Text))
  | invalidSpec (spec : Text) (defect : Option SpecDefect)
  | unsupportedSpec (spec directive kind : Text)
  | invalidPlaceholder (placeholder : Text) (defect : Option PlaceholderDefect)
  | unterminatedPlaceholder (template : Text) (offset : Int)
  | missingArgument (reference : Text) (count : Int)
  | invalidArgument (defect : ArgumentDefect)
deriving DecidableEq

/-- The kinds of errors in the order of the constructors; an unsupported directive is a special
case of an invalid specifier, and every kind one of a general error. -/
inductive ErrorKind
  | general
  | invalidSpec
  | unsupportedSpec
  | invalidPlaceholder
  | unterminatedPlaceholder
  | missingArgument
  | invalidArgument
deriving DecidableEq

/-- A kind and the wider kinds it belongs to, the widest last. -/
def ErrorKind.lineage : ErrorKind → List ErrorKind
  | general => [general]
  | unsupportedSpec => [unsupportedSpec, invalidSpec, general]
  | kind => [kind, general]

namespace FormatError

def kind : FormatError → ErrorKind
  | general .. => .general
  | invalidSpec .. => .invalidSpec
  | unsupportedSpec .. => .unsupportedSpec
  | invalidPlaceholder .. => .invalidPlaceholder
  | unterminatedPlaceholder .. => .unterminatedPlaceholder
  | missingArgument .. => .missingArgument
  | invalidArgument .. => .invalidArgument

/-- A reason in parentheses, after a space; nothing for a reason without words. -/
def inParentheses (reason : Option String) : String :=
  match reason with
  | none => ""
  | some words => if words.isEmpty then "" else s!" ({words})"

/-- The message without its context. -/
def message : FormatError → String
  | general words _ => String.ofList words
  | invalidSpec spec defect =>
    s!"Invalid format specifier: '{String.ofList spec}'" ++
      inParentheses (defect.map SpecDefect.reason)
  | unsupportedSpec spec directive kind =>
    s!"Invalid format specifier: '{String.ofList spec}'" ++
      s!" ({String.ofList directive} cannot be applied to a {String.ofList kind} argument)"
  | invalidPlaceholder placeholder defect =>
    s!"Invalid placeholder: '{String.ofList placeholder}'" ++
      inParentheses (defect.map PlaceholderDefect.reason)
  | unterminatedPlaceholder _ offset => s!"Unterminated placeholder starting at character {offset}"
  | missingArgument reference count =>
    s!"Missing argument for placeholder {String.ofList reference}: " ++
      s!"{count} argument(s) provided"
  | invalidArgument defect => defect.message

/-- Labels and details that go with the message. -/
def context : FormatError → List (Text × Text)
  | general _ context => context
  | unterminatedPlaceholder template _ => [("template".toList, template)]
  | invalidArgument defect => defect.context
  | _ => []

/-- The message with a line for each entry of its context. -/
def text (error : FormatError) : String :=
  error.context.foldl
    (fun shown entry ↦ s!"{shown}\n  {String.ofList entry.1}: {String.ofList entry.2}")
    error.message

end FormatError

inductive Fault
  /-- A number of more digits than a numeral may have is to be written. -/
  | numeralTooLong
  /-- A text in the form of a number, with a letter `i` that is not the ASCII one. -/
  | notANumber (text : Text)
  /-- An integer that is infinite as a binary64 number has no sign. -/
  | magnitudeTooLarge
  | precisionNegative
  /-- More places than a signed 32-bit count. -/
  | precisionTooLarge
  /-- More places than a signed 64-bit count. -/
  | precisionTooLong
  /-- More repetitions of the fill than a signed 64-bit count. -/
  | fillTooLong
  /-- A repeated fill with more characters than a signed 64-bit count. -/
  | filledTooLong
  /-- A field of zeros with more characters than a signed 64-bit count. -/
  | zerosTooLong
  | wholePartOfInfinity
  | wholePartOfNan
deriving DecidableEq

inductive Failure
  | format (error : FormatError)
  | fault (fault : Fault)
deriving DecidableEq

end BraceFormat
