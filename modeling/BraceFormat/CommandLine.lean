import BraceFormat.Feature
import BraceFormat.Number.LooseInteger
import BraceFormat.Trace

/-!
The command line: the words after the program's name, how they are sorted into options and
positionals, and what each command does with them. Every command has a page of help, of which only
what it is about is kept here: its words and how they are drawn are left out.
-/

set_option autoImplicit false
set_option relaxedAutoImplicit false

namespace BraceFormat.CommandLine

/-! ### Words -/

/-- How a word is taken as long as no `--` came before it. -/
inductive Word
  /-- The word `--`, behind which no word is an option. -/
  | stop
  /-- A word such as `--name` or `--name=value`. -/
  | long (name : Text) (value : Option Text)
  /-- Letters behind a single dash. -/
  | cluster (letters : Text)
  | plain (text : Text)
deriving DecidableEq

def Word.ofText (text : Text) : Word :=
  match text with
  | ['-', '-'] => .stop
  | '-' :: '-' :: _ =>
    match cutAt? '=' text with
    | some (name, value) => .long name (some value)
    | none => .long text none
  | '-' :: first :: rest => .cluster (first :: rest)
  | _ => .plain text

/-- Why words are no command line. -/
inductive UsageError
  | noCommand
  | unknownCommand (name : Text)
  | unknownOption (word : Text)
  | flagWithValue (name : Text)
  | missingValue (name : Text)
  | unexpectedArgument (word : Text)
  | missingTemplate
  | badPort (text : Text)
deriving DecidableEq

/-! ### Options -/

def helpOption : Text := "--help".toList

def debugOption : Text := "--debug".toList

def verboseOption : Text := "--verbose".toList

def hostOption : Text := "--host".toList

def portOption : Text := "--port".toList

def debugLetter : Char := 'D'

/-- Words that are sorted, each kind of them in order: switches, values with the names of their
options, and positionals. -/
structure Sorted where
  switches : List Text := []
  values : List (Text × Text) := []
  positionals : List Text := []
deriving DecidableEq

namespace Sorted

def addSwitches (names : List Text) (sorted : Sorted) : Sorted :=
  { sorted with switches := names ++ sorted.switches }

def addValue (name value : Text) (sorted : Sorted) : Sorted :=
  { sorted with values := (name, value) :: sorted.values }

def addPositional (word : Text) (sorted : Sorted) : Sorted :=
  { sorted with positionals := word :: sorted.positionals }

/-- The value of an option; the last of several counts. -/
def value? (name : Text) (sorted : Sorted) : Option Text :=
  sorted.values.reverse.lookup name

end Sorted

/-- The options of a command line. Help can be asked for on every one. -/
structure Options where
  /-- The names that take no value. -/
  switches : List Text := [helpOption]
  /-- The names that take a value. -/
  valued : List Text := []
  /-- The letters that stand for a switch behind a single dash. -/
  letters : List (Char × Text) := []
  /-- Whether what looks like an option and is none is a positional. -/
  keepsUnknown : Bool := false
  /-- Whether options are looked for behind a positional. -/
  interspersed : Bool := true

namespace Options

/-- The switches whose letters are in a cluster. -/
def given (options : Options) (letters : Text) : List Text :=
  (options.letters.filter fun entry ↦ entry.1 ∈ letters).map Prod.snd

/-- The letters of a cluster that stand for no switch. -/
def left (options : Options) (letters : Text) : Text :=
  letters.filter fun c ↦ c ∉ options.letters.map Prod.fst

/-- Sorts words. The letters of switches are taken out of a cluster, and what is left of it is an
unknown option. -/
def sort (options : Options) : List Text → Except UsageError Sorted
  | [] => .ok {}
  | word :: rest =>
    match Word.ofText word with
    | .stop => .ok { positionals := rest }
    | .long name value =>
      if name ∈ options.switches then
        if value.isSome then .error (.flagWithValue name)
        else (options.sort rest).map (Sorted.addSwitches [name])
      else if name ∈ options.valued then
        match value with
        | some value => (options.sort rest).map (Sorted.addValue name value)
        | none =>
          match rest with
          | [] => .error (.missingValue name)
          | value :: rest => (options.sort rest).map (Sorted.addValue name value)
      else if options.keepsUnknown then (options.sort rest).map (Sorted.addPositional word)
      else .error (.unknownOption word)
    | .cluster letters =>
      let addGiven := Sorted.addSwitches (options.given letters)
      if options.left letters = [] then (options.sort rest).map addGiven
      else if options.keepsUnknown then
        (options.sort rest).map fun sorted ↦
          addGiven (sorted.addPositional ('-' :: options.left letters))
      else .error (.unknownOption word)
    | .plain _ =>
      if options.interspersed then (options.sort rest).map (Sorted.addPositional word)
      else .ok { positionals := word :: rest }

end Options

/-- The options in front of a command. -/
def programOptions : Options where
  interspersed := false

def versionOptions : Options := {}

def formatOptions : Options where
  switches := [helpOption, debugOption, verboseOption]
  letters := [(debugLetter, debugOption)]
  keepsUnknown := true

def serveOptions : Options where
  switches := [helpOption, debugOption]
  valued := [hostOption, portOption]

/-! ### The address to serve -/

structure Address where
  host : Text
  port : Int
deriving DecidableEq

def defaultHost : Text := "127.0.0.1".toList

def defaultPort : Int := 8000

def hostVariable : Text := "PRINTFMT_HOST".toList

def portVariable : Text := "PRINTFMT_PORT".toList

/-- The value of an environment variable; an empty one counts as unset. -/
def setting (environment : List (Text × Text)) (name : Text) : Option Text :=
  ((environment.find? (·.1 = name)).map Prod.snd).filter (· ≠ [])

/-- The address to serve: an option beats its variable, and that beats the default. -/
def addressOf (environment : List (Text × Text)) (sorted : Sorted) : Except UsageError Address :=
  let host := ((sorted.value? hostOption).or (setting environment hostVariable)).getD defaultHost
  match (sorted.value? portOption).or (setting environment portVariable) with
  | none => .ok ⟨host, defaultPort⟩
  | some text =>
    match LooseInteger.read? text with
    | some port => .ok ⟨host, port⟩
    | none => .error (.badPort text)

/-! ### Commands -/

/-- What a page of help is about. -/
inductive Topic
  | program
  | version
  | format
  | serve
deriving DecidableEq

inductive Command
  | help (topic : Topic)
  | version
  | format (debug verbose : Bool) (template : Text) (args : List Text)
  | serve (debug : Bool) (address : Address)
deriving DecidableEq

/-- The command that words ask for: a page of help if they ask for one, whatever else they say, and
what their sorting asks for otherwise. -/
def Options.command (options : Options) (topic : Topic)
    (commandOf : Sorted → Except UsageError Command) (words : List Text) :
    Except UsageError Command :=
  match options.sort words with
  | .error error => .error error
  | .ok sorted => if helpOption ∈ sorted.switches then .ok (.help topic) else commandOf sorted

/-- A command that takes no positionals. -/
def Sorted.alone (command : Command) (sorted : Sorted) : Except UsageError Command :=
  match sorted.positionals with
  | [] => .ok command
  | extra :: _ => .error (.unexpectedArgument extra)

def versionCommand : List Text → Except UsageError Command :=
  versionOptions.command .version (Sorted.alone .version)

def formatCommand : List Text → Except UsageError Command :=
  formatOptions.command .format fun sorted ↦
    match sorted.positionals with
    | [] => .error .missingTemplate
    | template :: args =>
      .ok (.format (debugOption ∈ sorted.switches) (verboseOption ∈ sorted.switches) template args)

def serveCommand (environment : List (Text × Text)) : List Text → Except UsageError Command :=
  serveOptions.command .serve fun sorted ↦
    match addressOf environment sorted with
    | .error error => .error error
    | .ok address => sorted.alone (.serve (debugOption ∈ sorted.switches) address)

/-- The command of a name. -/
def namedCommand (environment : List (Text × Text)) (name : Text) (words : List Text) :
    Except UsageError Command :=
  if name = "version".toList then versionCommand words
  else if name = "format".toList then formatCommand words
  else if name = "serve".toList then serveCommand environment words
  else .error (.unknownCommand name)

/-- Reads a command line. -/
def read (environment : List (Text × Text)) : List Text → Except UsageError Command :=
  programOptions.command .program fun sorted ↦
    match sorted.positionals with
    | [] => .error .noCommand
    | name :: words => namedCommand environment name words

/-! ### Running a command -/

/-- What a command prints, tells the log, serves and exits with. -/
structure Report where
  exit : Nat
  output : Text := []
  /-- The page of help that is printed in place of an output. -/
  page : Option Topic := none
  records : List Record := []
  serving : Option Address := none
deriving DecidableEq

def note (level : Level) (message : String) : Record :=
  ⟨.main, level, message⟩

/-- The exit code for words that are no command line. -/
def usageExit : Nat := 2

/-- The report on a command that prints a line. -/
def Report.printed (line : Text) : Report :=
  { exit := 0, output := line ++ ['\n'] }

/-- The report on a command that fails with a message. -/
def Report.failed (message : String) : Report :=
  { exit := 1, records := [note .error message] }

/-- The report with records in front of its own. -/
def Report.after (records : List Record) (report : Report) : Report :=
  { report with records := records ++ report.records }

/-- The data of an outcome, or the report on its failure. -/
def dataOf {α : Type} (name : Text) : Outcome α → Except Report α
  | .success data => .ok data
  | .failure error =>
    .error (.failed s!"{String.ofList name} failed: {Outcome.errorWords error}")

/-- The feature of a name, or the report that there is none. -/
def findFeature (name : Text) : Except Report (Feature Builtin) :=
  match standardRegistry.find? name with
  | some feature => .ok feature
  | none => .error (.failed s!"Unknown feature: {String.ofList name}")

/-- The report on an outcome whose data are printed as a line. -/
def reportOutcome {α : Type} (builtin : Builtin) (line : α → Text) (outcome : Outcome α) : Report :=
  match dataOf builtin.feature.name outcome with
  | .ok data => .printed (line data)
  | .error report => report

def runFormatCommand (template : Text) (args : List Text) : Report :=
  let entries := args.map ArgumentTable.Entry.token
  let report : Report :=
    match runFormat template entries with
    | .error _ => .failed "An unexpected error occurred"
    | .ok outcome => reportOutcome .format Formatted.output outcome
  report.after (note .debug s!"printfmt version: {version}" :: Trace.ofFormat template entries)

def runServeCommand (address : Address) : Report :=
  let place := s!"{String.ofList address.host}:{address.port}"
  { exit := 0
    records := [
      note .info s!"Starting printfmt API server version {version} on {place}",
      note .info s!"API documentation available at http://{place}/docs"]
    serving := some address }

def Command.run : Command → Report
  | help topic => { exit := 0, page := some topic }
  | version => reportOutcome .version String.toList runVersion
  | format _ _ template args => runFormatCommand template args
  | serve _ address => runServeCommand address

/-- How the log is set up while a command runs; for a page of help it is not. -/
def Command.logSetup? : Command → Option LogSetup
  | help _ => none
  | version => some (.ofSwitches false false)
  | format debug verbose _ _ => some (.ofSwitches debug verbose)
  | serve debug _ => some (.ofSwitches debug false)

/-- The report on a command line, if it is one. -/
def run (environment : List (Text × Text)) (words : List Text) : Except UsageError Report :=
  (read environment words).map Command.run

end BraceFormat.CommandLine
