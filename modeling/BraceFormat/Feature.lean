import BraceFormat.Formatting

/-!
Features: what the command line and the HTTP endpoints offer, each under a name. A feature succeeds
with data or fails with a message for its user; a fault is neither.
-/

set_option autoImplicit false
set_option relaxedAutoImplicit false

namespace BraceFormat

def version : String := "0.3.0"

inductive Outcome (α : Type)
  | success (data : α)
  | failure (error : Option String)

namespace Outcome

/-- Errors of formatting become failures, and faults stay faults. -/
def ofResult {α : Type} : Except Failure α → Except Fault (Outcome α)
  | .ok data => .ok (success data)
  | .error (.format error) => .ok (failure (some error.text))
  | .error (.fault fault) => .error fault

/-- The words for a failure that may have none of its own. -/
def errorWords (error : Option String) : String :=
  match error with
  | none => "Unknown error"
  | some words => if words.isEmpty then "Unknown error" else words

end Outcome

/-- The version feature. -/
def runVersion : Outcome String :=
  .success version

/-- A formatted template and the count of arguments that it needs. -/
structure Formatted where
  output : Text
  expectedArgs : Nat
deriving DecidableEq

def formatted (template : Text) (entries : List ArgumentTable.Entry) : Except Failure Formatted :=
  match ArgumentTable.ofEntries entries with
  | .error failure => .error failure
  | .ok table =>
    match Template.parse template with
    | .error error => .error (.format error)
    | .ok tokens =>
      (renderTokens table 0 tokens).1.map fun output ↦ ⟨output, Template.expectedArgs tokens⟩

/-- The format feature. -/
def runFormat (template : Text) (entries : List ArgumentTable.Entry) :
    Except Fault (Outcome Formatted) :=
  Outcome.ofResult (formatted template entries)

/-- A named feature with the handler that runs it. -/
structure Feature (η : Type) where
  name : Text
  description : Text
  handler : η

def Feature.map {η θ : Type} (f : η → θ) (feature : Feature η) : Feature θ :=
  ⟨feature.name, feature.description, f feature.handler⟩

/-- Features in the order in which their names were first registered. -/
abbrev Registry (η : Type) := List (Feature η)

namespace Registry

variable {η : Type}

def find? (registry : Registry η) (name : Text) : Option (Feature η) :=
  List.find? (·.name = name) registry

/-- Registers a feature; one of the same name gives it its place. -/
def register (feature : Feature η) : Registry η → Registry η
  | [] => [feature]
  | first :: rest =>
    if first.name = feature.name then feature :: rest else first :: register feature rest

end Registry

inductive Builtin
  | version
  | format
deriving DecidableEq

def Builtin.feature : Builtin → Feature Builtin
  | version => ⟨"version".toList, "Show the printfmt version".toList, version⟩
  | format =>
    ⟨"format".toList, "Substitute arguments into a Rust-style format string".toList, format⟩

def standardRegistry : Registry Builtin :=
  Registry.register Builtin.format.feature (Registry.register Builtin.version.feature [])

end BraceFormat
