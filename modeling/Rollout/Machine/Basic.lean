import Rollout.Machine.Config.Codec
import Rollout.Machine.Event
import Rollout.Machine.Health

/-!
# Machines

A machine as the control plane reports it.
-/

namespace Rollout

/-- Where a machine is in its life. -/
inductive Machine.State where
  | created
  | starting
  | started
  | stopping
  | stopped
  | replacing
  | destroying
  | destroyed
  /-- A state that this tool does not know. -/
  | unknown
deriving DecidableEq

namespace Machine.State

instance : Inhabited State := ⟨.created⟩

/-- The word for a state. -/
def name : State → String
  | .created => "created"
  | .starting => "starting"
  | .started => "started"
  | .stopping => "stopping"
  | .stopped => "stopped"
  | .replacing => "replacing"
  | .destroying => "destroying"
  | .destroyed => "destroyed"
  | .unknown => "unknown"

/-- The states that a word is read as. -/
def all : List State :=
  [.created, .starting, .started, .stopping, .stopped, .replacing, .destroying, .destroyed]

/-- States as their words; any other word is the unknown state. -/
def codec : Codec State :=
  .named (all.map (fun s => (s.name, s))) name (some .unknown)

end Machine.State

/-- A machine: its identity, state, configuration, history and check reports. -/
structure Machine where
  id : String := ""
  name : String := ""
  state : Machine.State := .created
  region : String := ""
  /-- The running instance, which changes with every update. -/
  instanceId : String := ""
  privateIp : String := ""
  config : Machine.Config := {}
  events : List Machine.Event := []
  checks : List Machine.CheckReport := []
  createdAt : Option String := none
  updatedAt : Option String := none
deriving DecidableEq, Inhabited

namespace Machine

/-- The process group of the machine's configuration. -/
def processGroup (m : Machine) : String := m.config.processGroup

/-- The counts of the machine's check reports against its configured checks. -/
def health (m : Machine) : Health := .ofReports m.checks m.config.checks.size

/-- The latest event of a kind after the latest event of another kind. -/
def latestEventAfter? (m : Machine) (kind after : String) : Option Event :=
  Event.latestAfter? kind after m.events

/-- The fields of `Machine`. -/
def record : Record Machine where
  blank := {}
  members := [
    .required "id" Codec.string (·.id) (fun v s => { s with id := v }),
    .defaulted "name" Codec.string "" (·.name) (fun v s => { s with name := v }),
    .required "state" State.codec (·.state) (fun v s => { s with state := v }),
    .required "region" Codec.string (·.region) (fun v s => { s with region := v }),
    .defaulted "instance_id" Codec.string "" (·.instanceId) (fun v s => { s with instanceId := v }),
    .defaulted "private_ip" Codec.string "" (·.privateIp) (fun v s => { s with privateIp := v }),
    .defaulted "config" Config.record.codec {} (·.config) (fun v s => { s with config := v }),
    .defaulted "events" Event.record.codec.list [] (·.events) (fun v s => { s with events := v }),
    .defaulted "checks" CheckReport.record.codec.list [] (·.checks)
      (fun v s => { s with checks := v }),
    .optional "created_at" Codec.string (·.createdAt) (fun v s => { s with createdAt := v }),
    .optional "updated_at" Codec.string (·.updatedAt) (fun v s => { s with updatedAt := v })]

end Machine

end Rollout
