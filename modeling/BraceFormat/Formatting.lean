import BraceFormat.Argument.Table
import BraceFormat.Rendering
import BraceFormat.Template

/-!
Formatting a template with a table of arguments. A cursor counts the implicit references resolved so
far; references by position and by name leave it where it is.
-/

set_option autoImplicit false
set_option relaxedAutoImplicit false

namespace BraceFormat

namespace Reference

/-- The cursor behind a reference, whether or not its argument is found. -/
def advance (cursor : Nat) : Reference → Nat
  | implicit => cursor + 1
  | _ => cursor

/-- How a reference is called in messages. -/
def label (cursor : Nat) : Reference → Text
  | implicit => "\x7b\x7d (implicit argument ".toList ++ Numeral.ofNat cursor ++ [')']
  | reference => braced reference.print

end Reference

namespace ArgumentTable

/-- The argument that a reference selects when the cursor is where it is. -/
def select? (table : ArgumentTable) (cursor : Nat) : Reference → Option Argument
  | .implicit => table.get? cursor
  | .index position => table.get? position
  | .name name => table.getNamed? name

def resolve (table : ArgumentTable) (cursor : Nat) (reference : Reference) :
    Except Failure Argument :=
  if ¬ reference.Writable then .error (.fault .numeralTooLong)
  else
    match table.select? cursor reference with
    | some argument => .ok argument
    | none => .error (.format (.missingArgument (reference.label cursor) table.size))

end ArgumentTable

/-- The text of a placeholder whose argument is selected by the cursor. -/
def renderField (table : ArgumentTable) (cursor : Nat) (p : Placeholder) : Except Failure Text :=
  match table.resolve cursor p.reference with
  | .error failure => .error failure
  | .ok argument => render argument.value (p.spec.getD {})

/-- Renders tokens in order, up to the first that fails, and tells where the cursor is then. -/
def renderTokens (table : ArgumentTable) (cursor : Nat) :
    List Token → Except Failure Text × Nat
  | [] => (.ok [], cursor)
  | .literal text :: rest =>
    let (rendered, cursor) := renderTokens table cursor rest
    (rendered.map (text ++ ·), cursor)
  | .field p :: rest =>
    match renderField table cursor p with
    | .error failure => (.error failure, p.reference.advance cursor)
    | .ok text =>
      let (rendered, cursor) := renderTokens table (p.reference.advance cursor) rest
      (rendered.map (text ++ ·), cursor)

/-- Formats a template with a table. -/
def formatWith (table : ArgumentTable) (template : Text) : Except Failure Text :=
  match Template.parse template with
  | .error error => .error (.format error)
  | .ok tokens => (renderTokens table 0 tokens).1

/-- Formats a template with arguments. Mistakes in the arguments are reported before those in the
template, and these before those met in rendering. -/
def format (template : Text) (entries : List ArgumentTable.Entry) : Except Failure Text :=
  match ArgumentTable.ofEntries entries with
  | .error failure => .error failure
  | .ok table => formatWith table template

end BraceFormat
