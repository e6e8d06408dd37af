import BraceFormat.Json

/-!
Format requests: JSON objects whose member `template` is text and whose member `args`, if it is
there, is an array of texts. A body that is none is answered with a complaint about each value that
is wrong or missing; what is wrong about the template comes first.
-/

set_option autoImplicit false
set_option relaxedAutoImplicit false

namespace BraceFormat.Http

inductive ComplaintKind
  | missing
  | notText
  | notArray
  | notObject
deriving DecidableEq

namespace ComplaintKind

def label : ComplaintKind → String
  | missing => "missing"
  | notText => "string_type"
  | notArray => "list_type"
  | notObject => "model_attributes_type"

def words : ComplaintKind → String
  | missing => "Field required"
  | notText => "Input should be a valid string"
  | notArray => "Input should be a valid list"
  | notObject => "Input should be a valid dictionary or object to extract fields from"

end ComplaintKind

/-- What is wrong in a body. -/
structure Complaint where
  kind : ComplaintKind
  /-- The way from the body to the value: names of members and places in arrays. -/
  place : List Json
  /-- The value, or the object that lacks it. -/
  value : Json

def Complaint.toJson (complaint : Complaint) : Json :=
  .object [
    ("type".toList, .string complaint.kind.label.toList),
    ("loc".toList, .array (.string "body".toList :: complaint.place)),
    ("msg".toList, .string complaint.kind.words.toList),
    ("input".toList, complaint.value)]

/-- A value, or what is wrong with what was sent for it. -/
abbrev Checked (α : Type) := Except (List Complaint) α

namespace Checked

variable {α β γ : Type}

/-- Combines two values; complaints about both count. -/
def combine (f : α → β → γ) : Checked α → Checked β → Checked γ
  | .ok a, .ok b => .ok (f a b)
  | .ok _, .error complaints | .error complaints, .ok _ => .error complaints
  | .error first, .error second => .error (first ++ second)

end Checked

/-- The text that a value is. -/
def checkText (place : List Json) : Json → Checked Text
  | .string text => .ok text
  | value => .error [⟨.notText, place, value⟩]

/-- The texts that the items of an array are, from the item at `index` on. -/
def checkTexts (place : List Json) (index : Nat) : List Json → Checked (List Text)
  | [] => .ok []
  | item :: rest =>
    Checked.combine List.cons (checkText (place ++ [.integer index]) item)
      (checkTexts place (index + 1) rest)

/-- What a format request asks for. -/
structure FormatRequest where
  template : Text
  args : List Text
deriving DecidableEq

namespace FormatRequest

def checkTemplate (body : Json) : Checked Text :=
  let name := "template".toList
  match body.member? name with
  | none => .error [⟨.missing, [.string name], body⟩]
  | some value => checkText [.string name] value

def checkArgs (body : Json) : Checked (List Text) :=
  let name := "args".toList
  match body.member? name with
  | none => .ok []
  | some (.array items) => checkTexts [.string name] 0 items
  | some value => .error [⟨.notArray, [.string name], value⟩]

/-- The complaint about a body that is missing. -/
def missingBody : Complaint :=
  ⟨.missing, [], .null⟩

/-- Reads a format request; a body that is `null` counts as missing, and members of other names do
not matter. -/
def ofJson : Json → Checked FormatRequest
  | .object members =>
    Checked.combine mk (checkTemplate (.object members)) (checkArgs (.object members))
  | .null => .error [missingBody]
  | body => .error [⟨.notObject, [], body⟩]

end FormatRequest

end BraceFormat.Http
