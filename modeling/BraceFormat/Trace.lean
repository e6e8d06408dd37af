import BraceFormat.Formatting
import BraceFormat.Logging
import BraceFormat.Text.Quoted

/-!
What formatting tells the log: the arguments that stay text, the placeholders of the template as far
as it can be read, and the argument and the text of each placeholder as far as rendering gets.
-/

set_option autoImplicit false
set_option relaxedAutoImplicit false

namespace BraceFormat.Trace

def note (logger : Logger) (message : String) : Record :=
  ⟨logger, .debug, message⟩

/-- A numeral with more digits than can be read is kept as text, which is worth a note. -/
def ofToken (token : Text) : List Record :=
  let raw := (Argument.splitName token).2
  if Value.isIntegerText raw ∧ Numeral.read? (splitSign raw).2 = none then
    [note .arguments s!"Integer text of {raw.length} characters kept as a string"]
  else []

/-- The notes on entries, up to the first that cannot be read. -/
def ofEntries : List ArgumentTable.Entry → List Record
  | [] => []
  | .made _ :: rest => ofEntries rest
  | .token token :: rest =>
    match Argument.parse token 0 with
    | .ok _ => ofToken token ++ ofEntries rest
    | .error _ => []

/-- The placeholders among pieces that begin at an offset of the template. -/
def ofPieces (offset : Nat) : List Piece → List Record
  | [] => []
  | piece :: rest =>
    (match piece with
      | .field _ p => [note .formatter s!"Placeholder at {offset}: {String.ofList p.print}"]
      | _ => []) ++ ofPieces (offset + piece.source.length) rest

def ofReference (table : ArgumentTable) (cursor : Nat) (reference : Reference) : List Record :=
  match reference, table.select? cursor reference with
  | .name name, none =>
    [note .arguments s!"No argument named '{String.ofList name}' among {table.size} argument(s)"]
  | _, none => []
  | _, some argument =>
    let label := String.ofList (reference.label cursor)
    [note .formatter s!"Resolved {label} to {String.ofList argument.print}"]

def ofTokens (table : ArgumentTable) (cursor : Nat) : List Token → List Record
  | [] => []
  | .literal _ :: rest => ofTokens table cursor rest
  | .field p :: rest =>
    ofReference table cursor p.reference ++
      match renderField table cursor p with
      | .error _ => []
      | .ok text =>
        note .formatter s!"{String.ofList p.print} -> {String.ofList (quoted text)}" ::
          ofTokens table (p.reference.advance cursor) rest

def failed : Failure → List Record
  | .format error => [note .features s!"Formatting failed: {error.text}"]
  | .fault _ => []

/-- The notes on formatting a template with a table made of `given` arguments. -/
def ofTemplate (table : ArgumentTable) (template : Text) (given : Nat) : List Record :=
  note .features s!"Template {String.ofList (quoted template)} with {given} argument(s)" ::
    ofPieces 0 (Template.scan template).pieces ++
    match Template.parse template with
    | .error error => failed (.format error)
    | .ok tokens =>
      ofTokens table 0 tokens ++
        match (renderTokens table 0 tokens).1 with
        | .error failure => failed failure
        | .ok _ =>
          let expected := Template.expectedArgs tokens
          if expected = given then []
          else [note .features s!"Template expects {expected} argument(s), got {given}"]

def ofFormat (template : Text) (entries : List ArgumentTable.Entry) : List Record :=
  ofEntries entries ++
    match ArgumentTable.ofEntries entries with
    | .error failure => failed failure
    | .ok table => ofTemplate table template entries.length

end BraceFormat.Trace
