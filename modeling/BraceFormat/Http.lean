import BraceFormat.Http.Answer
import BraceFormat.Http.Route
import BraceFormat.Http.Target
import BraceFormat.Json.Reader

/-!
The HTTP endpoints: the version on `GET`, and formatting on `POST` with a JSON object that holds a
template and, if there are any, arguments. Beside them the server describes itself on pages of its
own.
-/

set_option autoImplicit false
set_option relaxedAutoImplicit false

namespace BraceFormat.Http

/-- The words of a failure that may have none of its own. -/
def failureDetail (error : Option String) : String :=
  match error with
  | none => "An error occurred"
  | some words => if words.isEmpty then "An error occurred" else words

/-- The feature of a name, or the answer that there is none. -/
def findFeature (name : Text) : Except Answer (Feature Builtin) :=
  match standardRegistry.find? name with
  | some feature => .ok feature
  | none => .error (.unknownFeature name)

/-- Answers a version request. -/
def version : Answer :=
  match runVersion with
  | .success words => .version words
  | .failure error => .badRequest (failureDetail error)

/-- Answers a format request. -/
def format (request : FormatRequest) : Answer :=
  match runFormat request.template (request.args.map .token) with
  | .error _ => .internalError
  | .ok (.failure error) => .badRequest (failureDetail error)
  | .ok (.success reply) => .formatted reply

/-- How deep a body may nest, and how long its integers may be. -/
def bodyLimits : Json.Limits :=
  ⟨Numeral.maxDigits, 960⟩

/-- Answers the document in the body of a format request. -/
def formatDocument (document : Json.Document) : Answer :=
  match Json.read bodyLimits document with
  | .error .malformed => .malformedBody
  | .error .integerTooLong | .error .tooDeep => .unreadableBody
  | .ok json =>
    match FormatRequest.ofJson json with
    | .error complaints => .invalidBody complaints
    | .ok request => format request

/-- Answers the body of a format request, which may be missing. -/
def formatBody (body : Option Text) : Except Answer.Obstacle Answer :=
  match body with
  | none | some [] => .ok (.invalidBody [FormatRequest.missingBody])
  | some sent =>
    match Json.Document.ofSent? sent with
    | none => .ok .unreadableBody
    | some document => (formatDocument document).sendable document.standIns

/-- Answers a request for a path by a method in capital letters, with the text of its body if it
has one. -/
def answer (method path : Text) (body : Option Text) : Except Answer.Obstacle Answer :=
  match Route.ofPath? path with
  | none => .ok .notFound
  | some route =>
    if method ∉ route.methods then .ok .methodNotAllowed
    else
      match route with
      | .page => .ok .page
      | .schema => .ok .schema
      | .version => .ok version
      | .format => formatBody body

end BraceFormat.Http
