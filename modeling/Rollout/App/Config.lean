import Rollout.Machine.Config

/-!
# App configurations

What a user writes down about an app: its process groups, services, checks, mounts, sizing and
how it is deployed.
-/

namespace Rollout.App

/-- How the app is deployed. -/
structure DeploySection where
  /-- The command that runs once on a machine of its own before the rollout. -/
  releaseCommand : Option String := none
  /-- The name of the rollout strategy. -/
  strategy : Option String := none
deriving DecidableEq, Inhabited

/-- A check that probes the port of the service it belongs to. -/
structure ServiceCheck where
  kind : String := ""
  intervalSecs : Option UInt64 := none
  timeoutSecs : Option UInt64 := none
  gracePeriodSecs : Option UInt64 := none
  method : Option String := none
  path : Option String := none
deriving DecidableEq, Inhabited

/-- A web service on ports 80 and 443. -/
structure HttpService where
  internalPort : UInt16 := 0
  forceHttps : Bool := false
  autoStopMachines : Option Bool := none
  autoStartMachines : Option Bool := none
  minMachinesRunning : Option UInt32 := none
  checks : List ServiceCheck := []
  /-- The process groups that serve it, none for all. -/
  processes : List String := []
deriving DecidableEq, Inhabited

/-- A service on ports of its own. -/
structure ServiceSection where
  protocol : String := ""
  internalPort : UInt16 := 0
  ports : List Machine.Port := []
  autoStopMachines : Option Bool := none
  autoStartMachines : Option Bool := none
  minMachinesRunning : Option UInt32 := none
  checks : List ServiceCheck := []
  /-- The process groups that serve it, none for all. -/
  processes : List String := []
deriving DecidableEq, Inhabited

/-- A check of machines, whatever services they expose. -/
structure GroupCheck where
  check : Machine.Check := {}
  /-- The process groups that run it, none for all. -/
  processes : List String := []
deriving DecidableEq, Inhabited

/-- The volume that the app's machines mount. -/
structure MountSection where
  /-- The name of the volume. -/
  source : String := ""
  /-- Where machines see it. -/
  destination : String := ""
  extendThresholdPercent : UInt32 := 0
  addSizeGb : UInt32 := 0
  sizeGbLimit : UInt32 := 0
  /-- The process groups that mount it, none for all. -/
  processes : List String := []
deriving DecidableEq, Inhabited

/-- The configuration of an app. -/
structure Config where
  appName : String := ""
  /-- The region that new machines are created in. -/
  primaryRegion : String := ""
  /-- The environment of every process group. -/
  env : Dict String := {}
  /-- The command line of each process group. -/
  processes : Dict String := {}
  httpService : Option HttpService := none
  services : List ServiceSection := []
  checks : Dict GroupCheck := {}
  metrics : Option Machine.Metrics := none
  mounts : Option MountSection := none
  deploy : Option DeploySection := none
  /-- The dedicated host that machines have to run on, empty for any. -/
  hostDedicationId : String := ""
  guest : Option Machine.Guest := none
  /-- Whether the app is a managed database cluster. -/
  managedPostgres : Bool := false
deriving DecidableEq, Inhabited

end Rollout.App
