import Rollout.App.Config.Codec
import Rollout.Error
import Rollout.Text.Blank
import Rollout.Text.Split

/-!
# Process groups of an app

What an app configuration means for the machines of one process group: their command, services,
checks and mounts, and their whole configuration, laid over the one they have.
-/

namespace Rollout.App

/-- The environment variable that holds the primary region on every machine. -/
def primaryRegionVariable : String := "PRIMARY_REGION"

/-- Whether a section that lists process groups is for a group. An empty list is for all. -/
def serves (processes : List String) (group : String) : Bool :=
  processes.isEmpty || processes.contains group

/-- The service that a web service stands for. -/
def HttpService.toService (s : HttpService) : Machine.Service where
  protocol := "tcp"
  internalPort := s.internalPort
  ports := [
    { port := some 80, handlers := ["http"], forceHttps := s.forceHttps },
    { port := some 443, handlers := ["tls", "http"] }]
  autostop := s.autoStopMachines
  autostart := s.autoStartMachines
  minMachinesRunning := s.minMachinesRunning

/-- The service of a machine that a section describes. -/
def ServiceSection.toService (s : ServiceSection) : Machine.Service where
  protocol := s.protocol
  internalPort := s.internalPort
  ports := s.ports
  autostop := s.autoStopMachines
  autostart := s.autoStartMachines
  minMachinesRunning := s.minMachinesRunning

/-- The check of a machine that a check of a service on a port stands for. -/
def ServiceCheck.toCheck (c : ServiceCheck) (port : UInt16) : Machine.Check where
  kind := some c.kind
  port := some port
  intervalSecs := c.intervalSecs
  timeoutSecs := c.timeoutSecs
  gracePeriodSecs := c.gracePeriodSecs
  method := c.method
  path := c.path

namespace Config

/-- The release command, unless it is blank. -/
def releaseCommand (c : Config) : Option String :=
  (c.deploy.bind (·.releaseCommand)).filter (!Text.isBlankText ·)

/-- The name of the rollout strategy. -/
def deployStrategy (c : Config) : Option String := c.deploy.bind (·.strategy)

/-- The process groups of the app, `app` where none is listed. -/
def processGroups (c : Config) : List String :=
  if c.processes.isEmpty then [Metadata.appGroup] else c.processes.keys

/-! ## Overrides -/

/-- Sets environment variables from `KEY=VALUE` texts, up to the first that is none. -/
def setEnv (c : Config) : List String → Config × Except DeployError Unit
  | [] => (c, .ok ())
  | pair :: rest =>
    match Text.splitAt? '=' pair with
    | some (key, value) =>
      if key = "" then (c, refused pair)
      else setEnv { c with env := c.env.insert key value } rest
    | none => (c, refused pair)
where
  /-- The refusal of a text that is no setting. -/
  refused (pair : String) : Except DeployError Unit :=
    .error (.precondition ("invalid env override '" ++ pair ++ "', expected KEY=VALUE"))

/-- Sets environment variables and, if they are all settings, the primary region. An empty region
counts as none. -/
def override (c : Config) (env : List String) (region : Option String) :
    Config × Except DeployError Unit :=
  match c.setEnv env with
  -- The settings before the one that is refused have been made.
  | (c, .error e) => (c, .error e)
  | (c, .ok ()) =>
    match region.filter (· != "") with
    | some region => ({ c with primaryRegion := region }, .ok ())
    | none => (c, .ok ())

/-- Checks that the app has a name and its mount both ends. -/
def validate (c : Config) : Except DeployError Unit :=
  if Text.isBlankText c.appName then .error (.config "app_name is required")
  else if c.mounts.any (fun m => m.source == "" || m.destination == "") then
    .error (.config "mounts need both a source and a destination")
  else .ok ()

/-- The configuration as it is kept in a release record. -/
def definition (c : Config) : Json := (record.encode c).canonical

/-! ## What a group runs -/

/-- The command of a group, in words. -/
def commandFor (c : Config) (group : String) : Option (List String) :=
  (c.processes.get? group).map Text.words

/-- The mount of a group. Which volume it takes is not known yet. -/
def mountFor (c : Config) (group : String) : Option Machine.Mount :=
  (c.mounts.filter (serves ·.processes group)).map fun m =>
    { path := m.destination, name := m.source, extendThresholdPercent := m.extendThresholdPercent,
      addSizeGb := m.addSizeGb, sizeGbLimit := m.sizeGbLimit }

/-- The services of a group: the web service first, then the others in order. -/
def servicesFor (c : Config) (group : String) : List Machine.Service :=
  (c.httpService.filter (serves ·.processes group)).toList.map (·.toService)
    ++ (c.services.filter (serves ·.processes group)).map (·.toService)

/-- The name of the check that is the `n`-th of the `index`-th service of a group. -/
def checkName (index n : Nat) (kind : String) : String :=
  "servicecheck-" ++ (if index < 10 then "0" else "") ++ toString index ++ "-" ++ toString n ++ "-"
    ++ kind

/-- The ports that the services of a group are checked on, each with its checks. -/
def checkedPortsFor (c : Config) (group : String) : List (UInt16 × List ServiceCheck) :=
  (c.httpService.toList.filter (serves ·.processes group)).map (fun s => (s.internalPort, s.checks))
    ++ (c.services.filter (serves ·.processes group)).map (fun s => (s.internalPort, s.checks))

/-- The named checks of services on their ports, from the `index`-th service on. -/
def serviceChecksFrom (index : Nat) :
    List (UInt16 × List ServiceCheck) → List (String × Machine.Check)
  | [] => []
  | (port, checks) :: rest =>
    checks.zipIdx.map (fun (check, n) => (checkName index n check.kind, check.toCheck port))
      ++ serviceChecksFrom (index + 1) rest

/-- The checks of a group: those of the app that the group runs, and those of its services, which
take precedence where the names agree. -/
def checksFor (c : Config) (group : String) : Dict Machine.Check :=
  (serviceChecksFrom 0 (c.checkedPortsFor group)).foldl (fun d e => d.insert e.1 e.2)
    ((c.checks.filter (fun _ g => serves g.processes group)).mapValues (·.check))

/-! ## Machine configurations -/

/-- The environment of machines: that of the app, with the primary region. Without one, machines
keep the region they know. -/
def envFor (c : Config) (orig : Dict String) : Dict String :=
  if c.primaryRegion != "" then c.env.insert primaryRegionVariable c.primaryRegion
  else
    match orig.get? primaryRegionVariable with
    | some region =>
      if c.env.contains primaryRegionVariable then c.env
      else c.env.insert primaryRegionVariable region
    | none => c.env

/-- The size of machines: that of the app, on the host the machine is dedicated to. -/
def guestFor (c : Config) (orig : Option Machine.Guest) : Option Machine.Guest :=
  match c.guest with
  | some guest => some { guest with hostDedicationId := orig.elim "" (·.hostDedicationId) }
  | none => orig

/-- The configuration of a machine of a group, laid over the one it has. Its mount names no
volume yet; its restart policy and its standbys stay. -/
def machineConfig (c : Config) (group : String) (orig : Option Machine.Config) (image : String) :
    Except DeployError Machine.Config :=
  let base := orig.getD {}
  if !c.processes.isEmpty && group != Metadata.releaseCommandGroup
      && !c.processes.contains group then
    .error (.configResolution
      ("process group '" ++ group ++ "' is not defined in the app configuration"))
  else
    .ok { base with
      image := image
      env := c.envFor base.env
      init :=
        if c.processes.isEmpty then base.init else { base.init with cmd := c.commandFor group }
      metadata := base.metadata.insert Metadata.processGroup group
      services := c.servicesFor group
      checks := c.checksFor group
      metrics := c.metrics
      mounts := (c.mountFor group).toList
      guest := c.guestFor base.guest }

end Config

end Rollout.App
