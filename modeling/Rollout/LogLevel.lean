import Rollout.Json.Codec
import Rollout.Text.Case

/-!
# Log levels

How much a run tells about itself.
-/

namespace Rollout

/-- The levels of log messages, the most talkative first. -/
inductive LogLevel where
  | trace
  | debug
  | info
  | warn
  | error
deriving DecidableEq

namespace LogLevel

instance : Inhabited LogLevel := ⟨.info⟩

/-- The word for a level. -/
def name : LogLevel → String
  | .trace => "trace"
  | .debug => "debug"
  | .info => "info"
  | .warn => "warn"
  | .error => "error"

/-- The word for a level in capitals. -/
def title (l : LogLevel) : String := l.name.map Char.toUpper

/-- The words that levels are read from. -/
def words : List (String × LogLevel) :=
  [("trace", .trace), ("debug", .debug), ("info", .info), ("warn", .warn), ("warning", .warn),
    ("error", .error)]

/-- The level of a word in any case. -/
def ofWord? (word : String) : Except String LogLevel :=
  match words.lookup (Text.lower word) with
  | some level => .ok level
  | none => .error ("Invalid log level: " ++ word)

/-- Levels as their words. -/
def codec : Codec LogLevel where
  encode l := .string l.name
  decode
    | .string s => (ofWord? s).toOption
    | _ => none

end LogLevel

end Rollout
