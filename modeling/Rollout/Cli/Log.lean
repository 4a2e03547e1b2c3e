import Rollout.Http.Status
import Rollout.LogFilter
import Rollout.Session.Basic
import Rollout.Time.Calendar

/-!
# The error log

The errors that a run logs: those that its parts reported, and every refusal of a request. Which
of them are shown is up to the filter of the log.
-/

namespace Rollout

/-- The name of a part of the program in the log. -/
def Reporter.part : Reporter → String
  | program => "machdeploy"
  | client => "machdeploy::http::client"
  | deployment => "machdeploy::deploy::orchestrator"
  | releaseCommand => "machdeploy::deploy::release_command"

/-- The error that a step of a session logs. -/
def Step.error? : Step → Option (Reporter × String)
  | .answered _ (.error (.status code message)) =>
    some (.client, Http.Status.failureText code.toNat message)
  | .reported reporter message => some (reporter, message)
  | _ => none

/-- The errors of a session, the first one first. -/
def Session.errors {σ : Type} (s : Session σ) : List (Reporter × String) :=
  s.past.reverse.filterMap Step.error?

namespace Cli

/-- The filter of the log: what the environment says, if it can be read, else the level that the
settings give. None where reading breaks off. -/
def logFilter? (directives : Option String) (level : LogLevel) : Option LogFilter :=
  match directives.map LogFilter.ofText with
  | some (.ok filter) => some filter
  | some (.error .torn) => none
  | some (.error .unreadable) | none => some (.ofLevel level)

/-- The messages of errors that a filter shows. -/
def shown (f : LogFilter) (errors : List (Reporter × String)) : List String :=
  (errors.filter (fun e => f.shows .error e.1.part)).map (·.2)

/-- The name of the log file of the day of a time, in milliseconds since 1970. -/
def logFileName (now : Int) : String :=
  "machdeploy.log." ++ String.ofList (((Timestamp.ofMillis? now).elim "" (·.text)).toList.take 10)

end Cli

end Rollout
