import BraceFormat.Number.Arithmetic

/-!
Elapsed time in front of log lines: whole milliseconds since the start, right-aligned to eight
columns as long as they are less than ten million. Two readings of the clock in whole seconds are
subtracted exactly; otherwise both are taken as binary64 numbers, and their difference and its
thousandfold are rounded to binary64 before the fraction is dropped.
-/

set_option autoImplicit false
set_option relaxedAutoImplicit false

namespace BraceFormat

/-- What the clock shows, in seconds. -/
inductive ClockReading
  | whole (seconds : Int)
  | fractional (seconds : Binary64)
deriving DecidableEq

def ClockReading.toBinary64 : ClockReading → Except Fault Binary64
  | whole seconds => Binary64.ofInt seconds
  | fractional seconds => .ok seconds

/-- The whole milliseconds between two readings of the clock. -/
def elapsedMillis (start now : ClockReading) : Except Fault Int :=
  match start, now with
  | .whole start, .whole now => .ok ((now - start) * 1000)
  | _, _ =>
    match start.toBinary64, now.toBinary64 with
    | .ok start, .ok now => ((now.sub start).scale 1000).truncate
    | .error fault, _ => .error fault
    | _, .error fault => .error fault

def stampWidth : Nat := 8

def elapsedStamp (millis : Int) : Text :=
  let digits := Numeral.ofInt millis
  let shown := if millis < 10 ^ 7 then digits.leftpad stampWidth ' ' else digits
  '[' :: shown ++ "ms]".toList

/-- A log line with the time since `start`. -/
def stampedLine (start now : ClockReading) (message : Text) : Except Fault Text :=
  match elapsedMillis start now with
  | .error fault => .error fault
  | .ok millis =>
    if Numeral.Writable millis then .ok (elapsedStamp millis ++ ' ' :: message)
    else .error .numeralTooLong

end BraceFormat
