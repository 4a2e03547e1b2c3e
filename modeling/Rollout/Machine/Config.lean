import Rollout.Dict
import Rollout.Machine.Metadata

/-!
# Machine configurations

What a machine is asked to run: image, environment, services, checks, mounts and sizing, and the
request that carries a configuration to the control plane.
-/

namespace Rollout.Machine

/-- What replaces the image's own start of processes. -/
structure Init where
  cmd : Option (List String) := none
  entrypoint : Option (List String) := none
  exec : Option (List String) := none
deriving DecidableEq, Inhabited

/-- A port that a service is reached on. -/
structure Port where
  port : Option UInt16 := none
  handlers : List String := []
  forceHttps : Bool := false
deriving DecidableEq, Inhabited

/-- A service that a machine exposes. -/
structure Service where
  protocol : String := ""
  internalPort : UInt16 := 0
  ports : List Port := []
  /-- Stop the machine when it is idle. -/
  autostop : Option Bool := none
  /-- Start the machine when traffic arrives. -/
  autostart : Option Bool := none
  minMachinesRunning : Option UInt32 := none
deriving DecidableEq, Inhabited

/-- Whether a service stops or starts its machine on its own. -/
def Service.autoscales (s : Service) : Bool :=
  s.autostop.getD false || s.autostart.getD false

/-- A health check that the control plane runs against a machine. -/
structure Check where
  kind : Option String := none
  port : Option UInt16 := none
  intervalSecs : Option UInt64 := none
  timeoutSecs : Option UInt64 := none
  gracePeriodSecs : Option UInt64 := none
  method : Option String := none
  path : Option String := none
deriving DecidableEq, Inhabited

/-- A volume mounted into a machine. -/
structure Mount where
  /-- The id of the volume. -/
  volume : String := ""
  /-- Where the machine sees it. -/
  path : String := ""
  /-- The name of the volume, empty on old machines. -/
  name : String := ""
  extendThresholdPercent : UInt32 := 0
  addSizeGb : UInt32 := 0
  sizeGbLimit : UInt32 := 0
deriving DecidableEq, Inhabited

/-- What happens when the machine's process ends. -/
inductive RestartPolicy where
  | no
  | always
  | onFailure
deriving DecidableEq

instance : Inhabited RestartPolicy := ⟨.always⟩

/-- A restart policy with the number of tries it may take. -/
structure Restart where
  policy : RestartPolicy := .always
  maxRetries : Option UInt32 := none
deriving DecidableEq, Inhabited

/-- The size of a machine and the host it has to run on. -/
structure Guest where
  cpuKind : String := ""
  cpus : UInt32 := 0
  memoryMb : UInt32 := 0
  /-- The dedicated host, empty for any host. -/
  hostDedicationId : String := ""
deriving DecidableEq, Inhabited

/-- Where a machine serves its metrics. -/
structure Metrics where
  port : UInt16 := 0
  path : String := ""
deriving DecidableEq, Inhabited

/-- The desired configuration of one machine. -/
structure Config where
  image : String := ""
  env : Dict String := {}
  init : Init := {}
  metadata : Dict String := {}
  services : List Service := []
  checks : Dict Check := {}
  mounts : List Mount := []
  restart : Option Restart := none
  guest : Option Guest := none
  metrics : Option Metrics := none
  /-- The machines that this one stands by for. -/
  standbys : List String := []
deriving DecidableEq, Inhabited

namespace Config

/-- The process group in the metadata, `app` where none is named. -/
def processGroup (c : Config) : String :=
  match c.metadata.get? Metadata.processGroup with
  | some group => if group = "" then Metadata.appGroup else group
  | none => Metadata.appGroup

/-- The dedicated host of the guest, empty without one. -/
def hostDedicationId (c : Config) : String :=
  c.guest.elim "" (·.hostDedicationId)

/-- The shortest interval of the configured checks, those of zero seconds left aside. -/
def shortestCheckInterval (c : Config) : Option UInt64 :=
  (c.checks.values.filterMap (·.intervalSecs)).filter (· != 0) |>.min?

end Config

end Rollout.Machine

namespace Rollout

/-- A request to create a machine, or to update the one it names. -/
structure LaunchInput where
  /-- The machine to update, none to create one. -/
  id : Option String := none
  region : String := ""
  config : Machine.Config := {}
  /-- Store the configuration without starting the machine. -/
  skipLaunch : Bool := false
  /-- The machine has to be destroyed and launched again. This is never written. -/
  requiresReplacement : Bool := false
deriving DecidableEq, Inhabited

end Rollout
