import BraceFormat.Argument

/-!
Argument tables: arguments in order, found by position or by name. No two arguments of a table
share a name, so a name finds at most one.
-/

set_option autoImplicit false
set_option relaxedAutoImplicit false

namespace BraceFormat

/-- The first item that one before it, or one of `seen`, equals. -/
def firstRepeat? (seen : List Text) : List Text → Option Text
  | [] => none
  | item :: rest => if item ∈ seen then some item else firstRepeat? (item :: seen) rest

theorem nodup_of_firstRepeat? {seen items : List Text} (h : firstRepeat? seen items = none) :
    items.Nodup ∧ ∀ item ∈ items, item ∉ seen := by
  induction items generalizing seen with
  | nil => simp
  | cons item rest ih =>
    unfold firstRepeat? at h
    split at h
    · cases h
    · rename_i hnew
      obtain ⟨hnodup, hseen⟩ := ih h
      simp only [List.mem_cons, not_or] at hseen
      refine ⟨List.nodup_cons.mpr ⟨fun hmem ↦ (hseen item hmem).1 rfl, hnodup⟩, ?_⟩
      intro other hother
      rcases List.mem_cons.mp hother with rfl | hrest
      · exact hnew
      · exact (hseen other hrest).2

structure ArgumentTable where
  arguments : List Argument
  nodup_names : (arguments.filterMap Argument.name).Nodup

namespace ArgumentTable

def empty : ArgumentTable :=
  ⟨[], List.nodup_nil⟩

/-- The table of the given arguments, their positions as they are. -/
def ofArguments (arguments : List Argument) : Except FormatError ArgumentTable :=
  match h : firstRepeat? [] (arguments.filterMap Argument.name) with
  | some name => .error (.invalidArgument (.duplicateName name))
  | none => .ok ⟨arguments, (nodup_of_firstRepeat? h).1⟩

/-- An argument that is still to be read, or one made before. -/
inductive Entry
  | token (text : Text)
  | made (argument : Argument)

def Entry.toArgument (entry : Entry) (position : Int) : Except Fault Argument :=
  match entry with
  | .token text => Argument.parse text position
  | .made argument => .ok { argument with position }

/-- Reads entries in order; each takes its place as its position. -/
def readFrom (position : Nat) : List Entry → Except Fault (List Argument)
  | [] => .ok []
  | entry :: rest =>
    match entry.toArgument position with
    | .error fault => .error fault
    | .ok argument => (readFrom (position + 1) rest).map (argument :: ·)

def ofEntries (entries : List Entry) : Except Failure ArgumentTable :=
  match readFrom 0 entries with
  | .error fault => .error (.fault fault)
  | .ok arguments => (ofArguments arguments).mapError .format

def size (table : ArgumentTable) : Nat :=
  table.arguments.length

/-- The argument at a position; none at a negative one. -/
def get? (table : ArgumentTable) (position : Int) : Option Argument :=
  if position < 0 then none else table.arguments[position.toNat]?

def getNamed? (table : ArgumentTable) (name : Text) : Option Argument :=
  table.arguments.find? (·.isNamed name)

def names (table : ArgumentTable) : List Text :=
  table.arguments.filterMap Argument.name

end ArgumentTable

end BraceFormat
