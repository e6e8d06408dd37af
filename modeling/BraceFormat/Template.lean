import BraceFormat.Placeholder

/-!
Templates. A template is a row of pieces: characters other than braces, doubled braces that stand
for one, and placeholders in braces, which do not nest. Scanning takes pieces from the front and
stops at the first defect. The tokens of a template are its placeholders and, between them, the
runs of literal text.
-/

set_option autoImplicit false
set_option relaxedAutoImplicit false

namespace BraceFormat

inductive Piece
  | char (c : Char)
  | openBrace
  | closeBrace
  | field (body : Text) (placeholder : Placeholder)
deriving DecidableEq

/-- The text that a piece takes in the template. -/
def Piece.source : Piece → Text
  | char c => [c]
  | openBrace => ['{', '{']
  | closeBrace => ['}', '}']
  | field body _ => braced body

inductive Token
  | literal (text : Text)
  | field (placeholder : Placeholder)
deriving DecidableEq

/-- What stops a scan. -/
inductive TemplateDefect
  /-- An opening brace that no closing one follows, or another opening one first. -/
  | unterminated
  /-- A closing brace without an opening one. -/
  | unmatchedClose
  | invalidField (error : FormatError)
deriving DecidableEq

/-- The pieces found in front of the first defect, and that defect. -/
structure Scan where
  pieces : List Piece
  defect : Option TemplateDefect
deriving DecidableEq

def Scan.add (piece : Piece) (scan : Scan) : Scan :=
  ⟨piece :: scan.pieces, scan.defect⟩

/-- How far into the template the scan came. -/
def Scan.offset (scan : Scan) : Nat :=
  (scan.pieces.flatMap Piece.source).length

namespace Template

def isBrace (c : Char) : Bool :=
  c = '{' || c = '}'

/-- The body of a placeholder whose opening brace is in front of the text, and the text behind its
closing brace, if no other brace is between them. -/
def takeBody? (text : Text) : Option (Text × Text) :=
  match text.dropWhile (!isBrace ·) with
  | '}' :: behind => some (text.takeWhile (!isBrace ·), behind)
  | _ => none

theorem length_of_takeBody? {text body behind : Text} (h : takeBody? text = some (body, behind)) :
    behind.length < text.length := by
  unfold takeBody? at h
  split at h
  · rename_i rest hd
    obtain ⟨-, rfl⟩ := Prod.mk.inj (Option.some.inj h)
    have hle := (List.dropWhile_suffix (fun c ↦ !isBrace c) (l := text)).length_le
    rw [hd] at hle
    exact hle
  · cases h

def scan : Text → Scan
  | [] => ⟨[], none⟩
  | '{' :: '{' :: rest => (scan rest).add .openBrace
  | '}' :: '}' :: rest => (scan rest).add .closeBrace
  | '{' :: rest =>
    match _h : takeBody? rest with
    | none => ⟨[], some .unterminated⟩
    | some (body, behind) =>
      match Placeholder.parse body with
      | .error error => ⟨[], some (.invalidField error)⟩
      | .ok placeholder => (scan behind).add (.field body placeholder)
  | '}' :: _ => ⟨[], some .unmatchedClose⟩
  | c :: rest => (scan rest).add (.char c)
termination_by text => text.length
decreasing_by
  all_goals first
    | exact Nat.lt_succ_of_lt (length_of_takeBody? _h)
    | (simp only [List.length_cons]; omega)

/-- Adds a character in front, to the literal text there if there is some. -/
def addChar (c : Char) : List Token → List Token
  | .literal text :: rest => .literal (c :: text) :: rest
  | tokens => .literal [c] :: tokens

def tokens : List Piece → List Token
  | [] => []
  | .char c :: rest => addChar c (tokens rest)
  | .openBrace :: rest => addChar '{' (tokens rest)
  | .closeBrace :: rest => addChar '}' (tokens rest)
  | .field _ placeholder :: rest => .field placeholder :: tokens rest

end Template

/-- The error that reports a defect at an offset of a template. -/
def TemplateDefect.error (template : Text) (offset : Nat) : TemplateDefect → FormatError
  | unterminated => .unterminatedPlaceholder template offset
  | unmatchedClose => .invalidPlaceholder ['}'] (some (.unmatchedClose offset))
  | invalidField error => error

namespace Template

def parse (template : Text) : Except FormatError (List Token) :=
  let scan := scan template
  match scan.defect with
  | none => .ok (tokens scan.pieces)
  | some defect => .error (defect.error template scan.offset)

/-- A text with every brace doubled. -/
def escape (text : Text) : Text :=
  text.flatMap fun c ↦ if isBrace c then [c, c] else [c]

/-- The template that tokens stand for. -/
def print : List Token → Text
  | [] => []
  | .literal text :: rest => escape text ++ print rest
  | .field placeholder :: rest => placeholder.print ++ print rest

def placeholders (tokens : List Token) : List Placeholder :=
  tokens.filterMap fun
    | .literal _ => none
    | .field placeholder => some placeholder

/-- The items of a list, each only where it occurs last. -/
def distinct : List Text → List Text
  | [] => []
  | name :: rest => if name ∈ rest then distinct rest else name :: distinct rest

def implicitCount (tokens : List Token) : Nat :=
  (placeholders tokens).countP fun p ↦ p.reference = .implicit

/-- One more than the highest position that a reference names. -/
def indexedCount (tokens : List Token) : Nat :=
  ((placeholders tokens).map fun p ↦
    match p.reference with
    | .index position => (position + 1).toNat
    | _ => 0).foldr max 0

def names (tokens : List Token) : List Text :=
  distinct ((placeholders tokens).filterMap fun p ↦
    match p.reference with
    | .name name => some name
    | _ => none)

/-- How many arguments a template needs: implicit references and positions share the same
arguments, and each name takes one more. -/
def expectedArgs (tokens : List Token) : Nat :=
  max (implicitCount tokens) (indexedCount tokens) + (names tokens).length

end Template

end BraceFormat
