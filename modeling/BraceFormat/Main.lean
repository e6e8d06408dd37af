import BraceFormat.CommandLine
import BraceFormat.Logging.Elapsed

/-!
The program: it reads its words and its environment, runs the command, and writes what the report
says. Listening on the address of a serve command is left to the server that the endpoints are
mounted on.
-/

set_option autoImplicit false
set_option relaxedAutoImplicit false

namespace BraceFormat.Program

/-- The environment variables that a command can read. -/
def readEnvironment : IO (List (Text × Text)) := do
  let mut environment := []
  for name in [CommandLine.hostVariable, CommandLine.portVariable] do
    if let some value ← IO.getEnv (String.ofList name) then
      environment := (name, value.toList) :: environment
  return environment

def usage : String :=
  "Usage: printfmt (version | format TEMPLATE [ARGS]... | serve)"

def writeRecord (start : Nat) (record : Record) : IO Unit := do
  let now ← IO.monoMsNow
  IO.eprintln s!"{String.ofList (elapsedStamp (now - start))} {record.message}"

end BraceFormat.Program

open BraceFormat

/-- Runs the command line; words that are none are answered with the usage and the exit code 2. The
usage stands in for every page of help. -/
def main (words : List String) : IO UInt32 := do
  let start ← IO.monoMsNow
  match CommandLine.read (← Program.readEnvironment) (words.map String.toList) with
  | .error _ =>
    IO.eprintln Program.usage
    return UInt32.ofNat CommandLine.usageExit
  | .ok command =>
    let report := command.run
    if let some setup := command.logSetup? then
      for record in recordsFrom setup.level report.records do
        Program.writeRecord start record
    if report.page.isSome then
      IO.println Program.usage
    IO.print (String.ofList report.output)
    return UInt32.ofNat report.exit
