import Rollout.Text.Quoted

/-!
# The release job

The states that the machine running a release command goes through. A job starts without a
machine or with one left over from an earlier deployment, and ends when the exit code of the
command is known or a step fails.
-/

namespace Rollout

/-- Where a release job is. -/
inductive ReleaseJob.State where
  /-- There is no machine yet. -/
  | absent
  /-- There is a machine from an earlier deployment. -/
  | existing
  /-- The machine has the current release. -/
  | launched
  /-- The command runs. -/
  | started
  /-- The machine stopped, its exit code is not known yet. -/
  | stopped
  /-- The command exited with 0. -/
  | succeeded
  /-- The command exited with another code, or a step failed. -/
  | failed
deriving DecidableEq, Inhabited

/-- What happens to a release job. -/
inductive ReleaseJob.Event where
  | launch
  | update
  | start
  | stop
  | exit (code : Int32)
  | fail (message : String)
deriving DecidableEq, Inhabited

/-- A release job. -/
structure ReleaseJob where
  state : ReleaseJob.State := .absent
  /-- Why the job failed. -/
  error : Option String := none
  /-- The exit code of the command. -/
  exitCode : Option Int32 := none
deriving DecidableEq, Inhabited

namespace ReleaseJob

/-- The word for a state. -/
def State.name : State → String
  | .absent => "absent"
  | .existing => "existing"
  | .launched => "launched"
  | .started => "started"
  | .stopped => "stopped"
  | .succeeded => "succeeded"
  | .failed => "failed"

/-- The word for a state with a capital. -/
def State.title (s : State) : String := s.name.capitalize

/-- An event as messages show it. -/
def Event.title : Event → String
  | .launch => "Launch"
  | .update => "Update"
  | .start => "Start"
  | .stop => "Stop"
  | .exit code => "Exit(" ++ toString code.toInt ++ ")"
  | .fail message => "Fail(" ++ Text.quoted message ++ ")"

/-- A job that starts with or without a machine. -/
def new (existing : Bool) : ReleaseJob :=
  { state := if existing then .existing else .absent }

/-- Whether nothing can happen to the job any more. -/
def isTerminal (j : ReleaseJob) : Bool := j.state == .succeeded || j.state == .failed

/-- What a failed command says about its exit code. -/
def exitMessage (code : Int32) : String :=
  "exited with non-zero status of " ++ toString code.toInt

/-- The job after an event, or why the event is refused. -/
def process (j : ReleaseJob) (e : Event) : Except String ReleaseJob :=
  match j.state, e with
  | .absent, .launch => .ok { j with state := .launched }
  | .existing, .update => .ok { j with state := .launched }
  | .launched, .start => .ok { j with state := .started }
  | .started, .stop => .ok { j with state := .stopped }
  | .stopped, .exit code =>
    if code == 0 then .ok { j with state := .succeeded, exitCode := some code }
    else .ok { state := .failed, error := some (exitMessage code), exitCode := some code }
  | _, .fail message =>
    if j.isTerminal then refused j e else .ok { j with state := .failed, error := some message }
  | _, _ => refused j e
where
  /-- The refusal of an event. -/
  refused (j : ReleaseJob) (e : Event) : Except String ReleaseJob :=
    .error ("Invalid transition: " ++ j.state.title ++ " -> " ++ e.title)

end ReleaseJob

end Rollout
