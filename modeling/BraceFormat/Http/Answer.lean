import BraceFormat.Feature
import BraceFormat.Http.Request
import BraceFormat.Json.Writer
import BraceFormat.Text.Surrogate

/-!
Answers: what each says, and whether it can be sent. The body of an answer is sent in UTF-8, which
has no form for half of a surrogate pair, and JSON has none for a number that is not finite. So an
answer that repeats such a part of a request cannot be sent.
-/

set_option autoImplicit false
set_option relaxedAutoImplicit false

namespace BraceFormat.Http

inductive Answer
  | version (version : String)
  | formatted (reply : Formatted)
  | notFound
  | unknownFeature (name : Text)
  | methodNotAllowed
  | page
  | schema
  | invalidBody (complaints : List Complaint)
  | malformedBody
  | unreadableBody
  | badRequest (detail : String)
  | internalError

namespace Answer

def status : Answer → Nat
  | version _ | formatted _ | page | schema => 200
  | notFound | unknownFeature _ => 404
  | methodNotAllowed => 405
  | invalidBody _ | malformedBody => 422
  | badRequest _ | unreadableBody => 400
  | internalError => 500

/-- What an answer says in words about a request that it refuses. -/
def detail? : Answer → Option String
  | version _ | formatted _ | page | schema | invalidBody _ | malformedBody => none
  | notFound => some "Not Found"
  | unknownFeature name => some s!"{String.ofList name} feature not found"
  | methodNotAllowed => some "Method Not Allowed"
  | badRequest words => some words
  | unreadableBody => some "There was an error parsing the body"
  | internalError => some "Internal server error"

/-- The body of an answer. Pages, the description of the server, and what is said about the form of
a malformed body are left to the server. -/
def body? : Answer → Option Json
  | version words => some (.object [("version".toList, .string words.toList)])
  | formatted reply =>
    some (.object [
      ("output".toList, .string reply.output),
      ("expected_args".toList, .integer reply.expectedArgs)])
  | invalidBody complaints =>
    some (.object [("detail".toList, .array (complaints.map Complaint.toJson))])
  | refusal =>
    refusal.detail?.map fun words ↦ .object [("detail".toList, .string words.toList)]

/-- Why an answer cannot be sent. -/
inductive Obstacle
  /-- The formatted text has halves. -/
  | outputHalves (run : HalfRun)
  /-- The body, as JSON text, has halves. -/
  | bodyHalves (run : HalfRun)
  /-- The body has a number that is not finite. -/
  | notFinite
deriving DecidableEq

/-- Why an answer cannot be sent, if it cannot, when the characters of a block stand in for
halves. -/
def obstacle? (standIns : StandIns) : Answer → Option Obstacle
  | formatted reply => (standIns.firstRun? reply.output).map .outputHalves
  | answer =>
    answer.body?.bind fun body ↦
      if body.isFinite then (standIns.firstRun? body.print).map .bodyHalves else some .notFinite

/-- The answer if it can be sent. -/
def sendable (standIns : StandIns) (answer : Answer) : Except Obstacle Answer :=
  match answer.obstacle? standIns with
  | some obstacle => .error obstacle
  | none => .ok answer

end Answer

end BraceFormat.Http
