import BraceFormat.Text

/-!
Routes: the paths that are served, and the methods that each answers.
-/

set_option autoImplicit false
set_option relaxedAutoImplicit false

namespace BraceFormat.Http

inductive Route
  | version
  | format
  /-- A page on which the server describes itself. -/
  | page
  /-- The description of the server as a JSON document. -/
  | schema
deriving DecidableEq

/-- The methods that a route answers. -/
def Route.methods : Route → List Text
  | version => ["GET".toList]
  | format => ["POST".toList]
  | page | schema => ["GET".toList, "HEAD".toList]

def routes : List (Text × Route) :=
  [("/openapi.json".toList, .schema), ("/docs".toList, .page),
   ("/docs/oauth2-redirect".toList, .page), ("/redoc".toList, .page),
   ("/api/v1/version".toList, .version), ("/api/v1/format".toList, .format)]

/-- The route of a path; slashes at its end lead to the path without them, and a line feed behind a
path does not matter. -/
def Route.ofPath? (path : Text) : Option Route :=
  let bare := (path.reverse.dropWhile (· = '/')).reverse
  (routes.find? fun (served, _) ↦ bare = served || bare = served ++ ['\n']).map Prod.snd

/-- The capital letters of a character of a method. Letters of ASCII have theirs, and so do a long
`s` and the ligatures of `s` and `t`; no other letter has capitals that a method is made of. -/
def capitals (c : Char) : Text :=
  if c = 'ſ' then ['S']
  else if c = 'ﬅ' ∨ c = 'ﬆ' then ['S', 'T']
  else [c.toUpper]

/-- A method as it is sent: in capital letters. -/
def sentMethod (method : Text) : Text :=
  method.flatMap capitals

/-- Whether the answers to a method, which is in capital letters, have bodies. -/
def hasBody (method : Text) : Bool :=
  method ≠ "HEAD".toList

end BraceFormat.Http
