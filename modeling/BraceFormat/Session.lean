import BraceFormat.Formatting

/-!
Sessions: one table of arguments, a template that can be replaced, and a cursor that stays between
steps. The tokens are those of the template in force when it is first read without a defect, and
they are kept from then on.
-/

set_option autoImplicit false
set_option relaxedAutoImplicit false

namespace BraceFormat

structure Session where
  table : ArgumentTable
  template : Text
  tokens : Option (List Token) := none
  cursor : Nat := 0

namespace Session

/-- A session that has not taken a step. -/
def start (table : ArgumentTable) (template : Text) : Session :=
  { table, template }

inductive Step
  | generate
  | expectedArgs
  | tokens
  | resolve (reference : Reference)
  | setTemplate (template : Text)

inductive Reply
  | text (text : Text)
  | count (count : Nat)
  | tokens (tokens : List Token)
  | argument (argument : Argument)
  | done

/-- The tokens of a session, which keeps them. -/
def readTokens (session : Session) : Except FormatError (List Token) × Session :=
  match session.tokens with
  | some tokens => (.ok tokens, session)
  | none =>
    match Template.parse session.template with
    | .error error => (.error error, session)
    | .ok tokens => (.ok tokens, { session with tokens := some tokens })

/-- A reply that is made from the tokens alone. -/
def replyWith (session : Session) (reply : List Token → Reply) :
    Except Failure Reply × Session :=
  let (tokens, session) := session.readTokens
  ((tokens.map reply).mapError .format, session)

/-- Generates the text from the first argument on. -/
def generate (session : Session) : Except Failure Text × Session :=
  let (tokens, session) := { session with cursor := 0 }.readTokens
  match tokens with
  | .error error => (.error (.format error), session)
  | .ok tokens =>
    let (text, cursor) := renderTokens session.table 0 tokens
    (text, { session with cursor })

def step (session : Session) : Step → Except Failure Reply × Session
  | .generate =>
    let (text, session) := session.generate
    (text.map .text, session)
  | .expectedArgs => session.replyWith fun tokens ↦ .count (Template.expectedArgs tokens)
  | .tokens => session.replyWith .tokens
  | .resolve reference =>
    ((session.table.resolve session.cursor reference).map .argument,
      { session with cursor := reference.advance session.cursor })
  | .setTemplate template => (.ok .done, { session with template })

/-- Takes steps in order, whatever the replies are. -/
def run (session : Session) (steps : List Step) : Session :=
  steps.foldl (fun session step ↦ (session.step step).2) session

end Session

end BraceFormat
