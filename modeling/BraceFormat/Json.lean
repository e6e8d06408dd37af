import BraceFormat.Number.Binary64

/-!
JSON values. A number is an integer or a binary64 number, and integers may be of any size. An object
keeps its members in the order in which their names first came.
-/

set_option autoImplicit false
set_option relaxedAutoImplicit false

namespace BraceFormat

inductive Json
  | null
  | bool (value : Bool)
  | integer (n : Int)
  | float (x : Binary64)
  | string (text : Text)
  | array (items : List Json)
  | object (members : List (Text × Json))

namespace Json

/-- Adds a member; one whose name is there already takes the place of the other. -/
def setMember (members : List (Text × Json)) (member : Text × Json) : List (Text × Json) :=
  if members.any (·.1 = member.1) then
    members.map fun other ↦ if other.1 = member.1 then member else other
  else members ++ [member]

/-- The object of members, of which the last of each name counts. -/
def ofMembers (members : List (Text × Json)) : Json :=
  object (members.foldl setMember [])

/-- The value of a member. -/
def member? (name : Text) : Json → Option Json
  | object members => (members.find? (·.1 = name)).map Prod.snd
  | _ => none

def text? : Json → Option Text
  | string text => some text
  | _ => none

mutual

/-- Whether all numbers in a value are finite. -/
def isFinite : Json → Bool
  | float (.finite _ _) => true
  | float _ => false
  | array items => areFinite items
  | object members => membersFinite members
  | _ => true

def areFinite : List Json → Bool
  | [] => true
  | item :: rest => item.isFinite && areFinite rest

def membersFinite : List (Text × Json) → Bool
  | [] => true
  | (_, value) :: rest => value.isFinite && membersFinite rest

end

end Json

end BraceFormat
