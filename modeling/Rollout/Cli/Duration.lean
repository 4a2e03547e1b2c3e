import Rollout.Text.Blank
import Rollout.Text.Number

/-!
# Durations on the command line

A duration is a number of seconds, or of minutes, written with digits, an optional plus sign
before them and an optional unit `s` or `m` after them.
-/

namespace Rollout.Cli

/-- What a text says as a duration. -/
inductive DurationReading where
  | seconds (n : Nat)
  /-- The text is no duration. -/
  | refused
  /-- The text is a number of minutes that has no number of seconds in 64 bits. -/
  | overflows
deriving DecidableEq, Inhabited

/-- Reads a duration. -/
def readDuration (text : String) : DurationReading :=
  let cs := Text.trimList text.toList
  match cs.getLast? with
  | some 'm' =>
    match Text.word? cs.dropLast with
    -- Seconds were read as 64 bits, so only minutes can leave them.
    | some n => if n * 60 < UInt64.size then .seconds (n * 60) else .overflows
    | none => .refused
  | some 's' => (Text.word? cs.dropLast).elim .refused .seconds
  | _ => (Text.word? cs).elim .refused .seconds

end Rollout.Cli
