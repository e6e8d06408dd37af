import BraceFormat.Text.Hex

/-!
The path that a request asks for. A request names its target by a reference: a scheme and an
authority, which need not be there, a path, a query and a fragment. Only the path matters. Its dot
segments are resolved against the root of the server, and its escapes are undone twice, once for
the request that is sent and once by the server.
-/

set_option autoImplicit false
set_option relaxedAutoImplicit false

namespace BraceFormat.Http

/-- Why a reference names no target. -/
inductive TargetDefect
  /-- An ASCII character that cannot be printed. -/
  | unprintable (c : Char) (position : Nat)
  /-- A path that begins with two slashes and has neither a scheme nor an authority in front. -/
  | doubleSlash
  /-- A path that begins with a colon and has neither a scheme nor an authority in front. -/
  | leadingColon
deriving DecidableEq

/-- The parts of a reference that tell where its path begins. -/
structure Target where
  hasScheme : Bool
  hasAuthority : Bool
  path : Text
deriving DecidableEq

def isUnprintableAscii (c : Char) : Bool :=
  c.toNat < 0x20 || c.toNat = 0x7F

/-- The place of the first character of a class, and that character. -/
def findFrom? (inClass : Char → Bool) (position : Nat) : Text → Option (Nat × Char)
  | [] => none
  | c :: rest => if inClass c then some (position, c) else findFrom? inClass (position + 1) rest

def isSchemeRest (c : Char) : Bool :=
  c.isAlphanum || c = '+' || c = '.' || c = '-'

/-- Takes a scheme and its colon off the front; a scheme may be empty, and then it counts as
none. -/
def takeScheme (text : Text) : Bool × Text :=
  match cutAt? ':' text with
  | some ([], behind) => (false, behind)
  | some (first :: rest, behind) =>
    if first.isAlpha && rest.all isSchemeRest then (true, behind) else (false, text)
  | _ => (false, text)

/-- Takes two slashes and the authority behind them off the front; an authority may be empty, and
then it counts as none. -/
def takeAuthority : Text → Bool × Text
  | '/' :: '/' :: rest =>
    let (authority, behind) := runOf (· ≠ '/') rest
    (authority ≠ [], behind)
  | text => (false, text)

/-- The parts of a reference, its query and its fragment left out. -/
def Target.ofReference (reference : Text) : Target :=
  let (hasScheme, behind) := takeScheme (reference.takeWhile fun c ↦ c ≠ '?' && c ≠ '#')
  let (hasAuthority, path) := takeAuthority behind
  ⟨hasScheme, hasAuthority, path⟩

/-- The segments of a path, which slashes separate. -/
def segments : Text → List Text
  | [] => [[]]
  | c :: rest =>
    if c = '/' then [] :: segments rest
    else
      match segments rest with
      | [] => [[c]]
      | first :: others => (c :: first) :: others

/-- Adds a segment to a path: one dot stays, and two dots go back unless the path is at its root. -/
def addSegment (path : List Text) (segment : Text) : List Text :=
  if segment = ['.'] then path
  else if segment = ['.', '.'] then if path = [] ∨ path = [[]] then path else path.dropLast
  else path ++ [segment]

/-- The path without dot segments. -/
def resolveDots (path : Text) : Text :=
  ['/'].intercalate ((segments path).foldl addSegment [])

/-- The path with each escape of an ASCII character undone. The other escapes are part of no path
that is served and stay. -/
def undoEscapes : Text → Text
  | '%' :: high :: low :: behind =>
    match (hexNumber? [high, low]).filter (· < 0x80) with
    | some n => Char.ofNat n :: undoEscapes behind
    | none => '%' :: undoEscapes (high :: low :: behind)
  | c :: rest => c :: undoEscapes rest
  | [] => []

/-- The path that is sent to the server: that of a whole reference, or one below the root. -/
def Target.sentPath (target : Target) : Text :=
  let path :=
    if target.hasScheme || target.hasAuthority then resolveDots target.path else target.path
  if target.hasScheme && target.hasAuthority then path
  else resolveDots ('/' :: path.dropWhile (· = '/'))

/-- The path that the server sees for a reference. -/
def pathOf (reference : Text) : Except TargetDefect Text :=
  match findFrom? isUnprintableAscii 0 reference with
  | some (position, c) => .error (.unprintable c position)
  | none =>
    let target := Target.ofReference reference
    match target.hasScheme || target.hasAuthority, target.path with
    | false, '/' :: '/' :: _ => .error .doubleSlash
    | false, ':' :: _ => .error .leadingColon
    | _, _ => .ok (undoEscapes (undoEscapes target.sentPath))

end BraceFormat.Http
