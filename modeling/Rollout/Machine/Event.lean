import Rollout.Json.Record
import Rollout.Time.Timestamp

/-!
# Machine events

The history of a machine as the control plane reports it, and the look-up of the latest event of
one kind after the latest of another, which finds the end of the run that the last start began.
-/

namespace Rollout.Machine

/-- How a process ended. -/
structure Exit where
  code : Int32 := 0
  oomKilled : Bool := false
  requestedStop : Bool := false
deriving DecidableEq, Inhabited

/-- What the supervisor of a process reported. -/
structure Monitor where
  exit : Option Exit := none
deriving DecidableEq, Inhabited

/-- What an event carries besides its kind. -/
structure EventDetail where
  exit : Option Exit := none
  monitor : Option Monitor := none
deriving DecidableEq, Inhabited

/-- The exit code of the event itself, else of its supervisor's report. -/
def EventDetail.exitCode (d : EventDetail) : Option Int32 :=
  (d.exit.or (d.monitor.bind (·.exit))).map (·.code)

/-- An entry of a machine's history. -/
structure Event where
  /-- What happened: `launch`, `start`, `exit` and the like. -/
  kind : String := ""
  status : String := ""
  source : String := ""
  timestamp : Timestamp := default
  detail : Option EventDetail := none
deriving DecidableEq, Inhabited

namespace Event

/-- The exit code an event carries. -/
def exitCode (e : Event) : Option Int32 := e.detail.bind (·.exitCode)

/-- The later of an event and the next one in a history; at equal times, the next one. -/
def later (best : Option Event) (next : Event) : Option Event :=
  match best with
  | none => some next
  -- Not strictly less: of events at one time the last one is taken.
  | some e => if e.timestamp.millis ≤ next.timestamp.millis then some next else some e

/-- The event with the greatest timestamp, the last of those at equal times. -/
def latest? (events : List Event) : Option Event := events.foldl later none

/-- The events of a kind, in order. -/
def ofKind (kind : String) (events : List Event) : List Event :=
  events.filter (·.kind == kind)

/-- The latest event of a kind among those after the latest event of another kind. -/
def latestAfter? (kind after : String) (events : List Event) : Option Event :=
  match latest? (ofKind after events) with
  | none => none
  | some mark =>
    latest? ((ofKind kind events).filter (mark.timestamp.millis < ·.timestamp.millis))

end Event

/-! ## JSON -/

/-- The fields of `Exit`. -/
def Exit.record : Record Exit where
  blank := {}
  members := [
    .required "exit_code" Codec.int32 (·.code) (fun v s => { s with code := v }),
    .defaulted "oom_killed" Codec.bool false (·.oomKilled) (fun v s => { s with oomKilled := v }),
    .defaulted "requested_stop" Codec.bool false (·.requestedStop)
      (fun v s => { s with requestedStop := v })]

/-- The fields of `Monitor`. -/
def Monitor.record : Record Monitor where
  blank := {}
  members := [
    .optional "exit_event" Exit.record.codec (·.exit) (fun v s => { s with exit := v })]

/-- The fields of `EventDetail`. -/
def EventDetail.record : Record EventDetail where
  blank := {}
  members := [
    .optional "exit_event" Exit.record.codec (·.exit) (fun v s => { s with exit := v }),
    .optional "monitor_event" Monitor.record.codec (·.monitor)
      (fun v s => { s with monitor := v })]

/-- The fields of `Event`. -/
def Event.record : Record Event where
  blank := {}
  members := [
    .required "type" Codec.string (·.kind) (fun v s => { s with kind := v }),
    .defaulted "status" Codec.string "" (·.status) (fun v s => { s with status := v }),
    .defaulted "source" Codec.string "" (·.source) (fun v s => { s with source := v }),
    .required "timestamp" Timestamp.codec (·.timestamp) (fun v s => { s with timestamp := v }),
    .optional "request" EventDetail.record.codec (·.detail) (fun v s => { s with detail := v })]

end Rollout.Machine
