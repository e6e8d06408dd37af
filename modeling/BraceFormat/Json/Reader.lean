import BraceFormat.Json
import BraceFormat.Json.Document

/-!
How JSON documents are read. Half of a surrogate pair that is escaped alone is spelled by the
character that stands in for it. A number with places or an exponent is a binary64 number, and any
other is an integer.

A reader limits how deep arrays and objects nest and how many digits an integer has. Reading stops
at the first defect, be it one of form or a limit.
-/

set_option autoImplicit false
set_option relaxedAutoImplicit false

namespace BraceFormat.Json

/-- Why a text is not read. -/
inductive Defect
  | malformed
  | integerTooLong
  | tooDeep
deriving DecidableEq

/-- How many digits an integer may have, and how deep arrays and objects may nest. -/
structure Limits where
  digits : Nat
  depth : Nat

def isSpace (c : Char) : Bool :=
  c = ' ' || c = '\t' || c = '\n' || c = '\r'

def skipSpaces (text : Text) : Text :=
  text.dropWhile isSpace

/-! ### Strings -/

/-- The code point of the character that a letter behind a backslash stands for. -/
def escapeLetter? (c : Char) : Option Nat :=
  if c = '\x22' ∨ c = '\\' ∨ c = '/' then some c.toNat
  else if c = 'b' then some 0x08
  else if c = 'f' then some 0x0C
  else if c = 'n' then some 0x0A
  else if c = 'r' then some 0x0D
  else if c = 't' then some 0x09
  else none

/-- Takes one character or escape off the front; halves of surrogate pairs come as they are. -/
def takeUnit? : Text → Option (Nat × Text)
  | [] => none
  | first :: rest =>
    if first = '\\' then
      match rest with
      | [] => none
      | letter :: behind =>
        if letter = 'u' then
          match behind with
          | a :: b :: c :: d :: left => (hexNumber? [a, b, c, d]).map (·, left)
          | _ => none
        else (escapeLetter? letter).map (·, behind)
    else if first.toNat < 0x20 then none
    else some (first.toNat, rest)

/-- The units of a string up to its closing quote, and the text behind it. -/
def takeUnits? : Nat → Text → Option (List Nat × Text)
  | 0, _ => none
  | fuel + 1, text =>
    match text with
    | '\x22' :: rest => some ([], rest)
    | _ =>
      match takeUnit? text with
      | none => none
      | some (unit, rest) =>
        (takeUnits? fuel rest).map fun (units, behind) ↦ (unit :: units, behind)

/-- Reads a string behind its opening quote, and gives what follows it. -/
def takeString? (standIns : StandIns) (text : Text) : Option (Text × Text) :=
  (takeUnits? (text.length + 1) text).map fun (units, rest) ↦
    ((joinHalves units).map standIns.charOf, rest)

/-! ### Numbers and words -/

/-- Takes a mark of a class off the front if a digit follows it, with a sign between them if signs
are allowed, and the digits. -/
def takeTail (isMark : Char → Bool) (signed : Bool) (text : Text) : Text × Text :=
  match text with
  | [] => ([], [])
  | mark :: rest =>
    let (sign, behind) : Text × Text :=
      match rest with
      | first :: behind =>
        if signed && (first = '+' || first = '-') then ([first], behind) else ([], rest)
      | [] => ([], rest)
    let (digits, left) := runOf Char.isDigit behind
    if isMark mark && digits ≠ [] then (mark :: sign ++ digits, left) else ([], text)

/-- The number of a sign, its digits, and its places and exponent, which may both be missing. -/
def numberOf (negative : Bool) (whole fraction : Text) : Json :=
  if fraction = [] then
    integer (if negative then -(Numeral.value whole : Int) else Numeral.value whole)
  else float ((Decimal.read? (whole ++ fraction)).elim .nan (.ofDecimal negative))

/-- Takes a number off the front; an integer may have no more than `maxDigits` digits. -/
def takeNumber (maxDigits : Nat) (text : Text) : Except Defect (Json × Text) :=
  let (negative, unsigned) : Bool × Text :=
    match text with
    | '-' :: rest => (true, rest)
    | _ => (false, text)
  let (whole, behindWhole) : Text × Text :=
    match unsigned with
    | '0' :: rest => (['0'], rest)
    | _ => runOf Char.isDigit unsigned
  let (places, behindPlaces) := takeTail (· = '.') false behindWhole
  let (exponent, rest) := takeTail (fun c ↦ c = 'e' || c = 'E') true behindPlaces
  let fraction := places ++ exponent
  if whole = [] then .error .malformed
  else if fraction = [] ∧ maxDigits < whole.length then .error .integerTooLong
  else .ok (numberOf negative whole fraction, rest)

/-- The words that stand for values, the numbers that are not finite among them. -/
def words : List (Text × Json) :=
  [("null".toList, null), ("true".toList, bool true), ("false".toList, bool false),
   ("NaN".toList, float .nan), ("Infinity".toList, float (.infinity false)),
   ("-Infinity".toList, float (.infinity true))]

def takeWord? (text : Text) : Option (Json × Text) :=
  (words.find? (·.1.isPrefixOf text)).map fun (word, value) ↦ (value, text.drop word.length)

/-! ### Values -/

mutual

/-- Reads a value with blanks in front of it. -/
def takeValue (standIns : StandIns) (limits : Limits) : Nat → Text → Except Defect (Json × Text)
  | 0, _ => .error .malformed
  | fuel + 1, text =>
    match skipSpaces text with
    | '{' :: rest =>
      match limits.depth with
      | 0 => .error .tooDeep
      | depth + 1 =>
        match skipSpaces rest with
        | '}' :: behind => .ok (object [], behind)
        | inside =>
          (takeMembers standIns { limits with depth } fuel inside).map fun (members, behind) ↦
            (ofMembers members, behind)
    | '[' :: rest =>
      match limits.depth with
      | 0 => .error .tooDeep
      | depth + 1 =>
        match skipSpaces rest with
        | ']' :: behind => .ok (array [], behind)
        | inside =>
          (takeItems standIns { limits with depth } fuel inside).map fun (items, behind) ↦
            (array items, behind)
    | '\x22' :: rest =>
      match takeString? standIns rest with
      | some (content, behind) => .ok (string content, behind)
      | none => .error .malformed
    | inside =>
      match takeWord? inside with
      | some found => .ok found
      | none => takeNumber limits.digits inside

/-- Reads the items of an array and its closing bracket. -/
def takeItems (standIns : StandIns) (limits : Limits) :
    Nat → Text → Except Defect (List Json × Text)
  | 0, _ => .error .malformed
  | fuel + 1, text =>
    match takeValue standIns limits fuel text with
    | .error defect => .error defect
    | .ok (item, rest) =>
      match skipSpaces rest with
      | ']' :: behind => .ok ([item], behind)
      | ',' :: more =>
        (takeItems standIns limits fuel more).map fun (items, behind) ↦ (item :: items, behind)
      | _ => .error .malformed

/-- Reads the members of an object and its closing brace. -/
def takeMembers (standIns : StandIns) (limits : Limits) :
    Nat → Text → Except Defect (List (Text × Json) × Text)
  | 0, _ => .error .malformed
  | fuel + 1, text =>
    match skipSpaces text with
    | '\x22' :: rest =>
      match takeString? standIns rest with
      | none => .error .malformed
      | some (name, behindName) =>
        match skipSpaces behindName with
        | ':' :: behindColon =>
          match takeValue standIns limits fuel behindColon with
          | .error defect => .error defect
          | .ok (value, behindValue) =>
            match skipSpaces behindValue with
            | '}' :: behind => .ok ([(name, value)], behind)
            | ',' :: more =>
              (takeMembers standIns limits fuel more).map fun (members, behind) ↦
                ((name, value) :: members, behind)
            | _ => .error .malformed
        | _ => .error .malformed
    | _ => .error .malformed

end

/-- Reads a document: one value with nothing but blanks around it. -/
def read (limits : Limits) (document : Document) : Except Defect Json :=
  match takeValue document.standIns limits (2 * document.text.length + 2) document.text with
  | .error defect => .error defect
  | .ok (value, rest) => if skipSpaces rest = [] then .ok value else .error .malformed

end BraceFormat.Json
