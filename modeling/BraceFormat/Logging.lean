import BraceFormat.Text

/-!
Log records, the levels that decide which of them are shown, and the setup of a program's log.
-/

set_option autoImplicit false
set_option relaxedAutoImplicit false

namespace BraceFormat

inductive Level
  | debug
  | verbose
  | info
  | warning
  | error
deriving DecidableEq

namespace Level

def rank : Level → Nat
  | debug => 10
  | verbose => 15
  | info => 20
  | warning => 30
  | error => 40

def name : Level → String
  | debug => "DEBUG"
  | verbose => "VERBOSE"
  | info => "INFO"
  | warning => "WARNING"
  | error => "ERROR"

end Level

/-- The part of the program that a record comes from. -/
inductive Logger
  | arguments
  | formatter
  | features
  | main
deriving DecidableEq

def Logger.name : Logger → String
  | arguments => "printfmt.arguments"
  | formatter => "printfmt.formatter"
  | features => "printfmt.features"
  | main => "printfmt.main"

structure Record where
  logger : Logger
  level : Level
  message : String
deriving DecidableEq

/-- The records of a level and above. -/
def recordsFrom (least : Level) (records : List Record) : List Record :=
  records.filter (least.rank ≤ ·.level.rank)

/-- The loggers that the HTTP server keeps for itself. -/
inductive ServerLogger
  | general
  | error
  | access
deriving DecidableEq

def ServerLogger.all : List ServerLogger :=
  [general, error, access]

/-- How the log is set up: the level of the program, how many handlers write it, and the level of
each logger of the HTTP server. -/
structure LogSetup where
  level : Level
  handlers : Nat
  server : ServerLogger → Level

/-- The setup for the two switches, the first of which beats the second. The server stays quiet
unless the program is debugged. -/
def LogSetup.ofSwitches (debug verbose : Bool) : LogSetup where
  level := if debug then .debug else if verbose then .verbose else .info
  handlers := 1
  server := fun _ ↦ if debug then .debug else .warning

end BraceFormat
