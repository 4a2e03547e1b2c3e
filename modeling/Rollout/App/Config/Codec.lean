import Rollout.App.Config
import Rollout.Machine.Config.Codec

/-!
# JSON of app configurations

Every field is written, a missing option as `null`. A check of the app shares its object with
the process groups that run it.
-/

namespace Rollout.App

/-- The fields of `DeploySection`. -/
def DeploySection.record : Record DeploySection where
  blank := {}
  members := [
    .nullable "release_command" Codec.string (·.releaseCommand)
      (fun v s => { s with releaseCommand := v }),
    .nullable "strategy" Codec.string (·.strategy) (fun v s => { s with strategy := v })]

/-- The fields of `ServiceCheck`. -/
def ServiceCheck.record : Record ServiceCheck where
  blank := {}
  members := [
    .defaulted "type" Codec.string "http" (·.kind) (fun v s => { s with kind := v }),
    .nullable "interval_secs" Codec.uint64 (·.intervalSecs)
      (fun v s => { s with intervalSecs := v }),
    .nullable "timeout_secs" Codec.uint64 (·.timeoutSecs) (fun v s => { s with timeoutSecs := v }),
    .nullable "grace_period_secs" Codec.uint64 (·.gracePeriodSecs)
      (fun v s => { s with gracePeriodSecs := v }),
    .nullable "method" Codec.string (·.method) (fun v s => { s with method := v }),
    .nullable "path" Codec.string (·.path) (fun v s => { s with path := v })]

/-- The fields of `HttpService`. -/
def HttpService.record : Record HttpService where
  blank := {}
  members := [
    .required "internal_port" Codec.uint16 (·.internalPort)
      (fun v s => { s with internalPort := v }),
    .defaulted "force_https" Codec.bool false (·.forceHttps)
      (fun v s => { s with forceHttps := v }),
    .nullable "auto_stop_machines" Codec.bool (·.autoStopMachines)
      (fun v s => { s with autoStopMachines := v }),
    .nullable "auto_start_machines" Codec.bool (·.autoStartMachines)
      (fun v s => { s with autoStartMachines := v }),
    .nullable "min_machines_running" Codec.uint32 (·.minMachinesRunning)
      (fun v s => { s with minMachinesRunning := v }),
    .defaulted "checks" ServiceCheck.record.codec.list [] (·.checks)
      (fun v s => { s with checks := v }),
    .defaulted "processes" Codec.string.list [] (·.processes)
      (fun v s => { s with processes := v })]

/-- The fields of `ServiceSection`. -/
def ServiceSection.record : Record ServiceSection where
  blank := {}
  members := [
    .defaulted "protocol" Codec.string "tcp" (·.protocol) (fun v s => { s with protocol := v }),
    .required "internal_port" Codec.uint16 (·.internalPort)
      (fun v s => { s with internalPort := v }),
    .defaulted "ports" Machine.Port.record.codec.list [] (·.ports)
      (fun v s => { s with ports := v }),
    .nullable "auto_stop_machines" Codec.bool (·.autoStopMachines)
      (fun v s => { s with autoStopMachines := v }),
    .nullable "auto_start_machines" Codec.bool (·.autoStartMachines)
      (fun v s => { s with autoStartMachines := v }),
    .nullable "min_machines_running" Codec.uint32 (·.minMachinesRunning)
      (fun v s => { s with minMachinesRunning := v }),
    .defaulted "checks" ServiceCheck.record.codec.list [] (·.checks)
      (fun v s => { s with checks := v }),
    .defaulted "processes" Codec.string.list [] (·.processes)
      (fun v s => { s with processes := v })]

/-- A field of the check inside a `GroupCheck`. -/
def GroupCheck.inner (m : Member Machine.Check) : Member GroupCheck where
  name := m.name
  write g := m.write g.check
  read j g := (m.read j g.check).map (fun c => { g with check := c })

/-- The fields of `GroupCheck`: those of its check, and the process groups. -/
def GroupCheck.record : Record GroupCheck where
  blank := {}
  members := Machine.Check.record.members.map GroupCheck.inner ++ [
    .defaulted "processes" Codec.string.list [] (·.processes)
      (fun v s => { s with processes := v })]

/-- The fields of `MountSection`. -/
def MountSection.record : Record MountSection where
  blank := {}
  members := [
    .required "source" Codec.string (·.source) (fun v s => { s with source := v }),
    .required "destination" Codec.string (·.destination) (fun v s => { s with destination := v }),
    .defaulted "extend_threshold_percent" Codec.uint32 0 (·.extendThresholdPercent)
      (fun v s => { s with extendThresholdPercent := v }),
    .defaulted "add_size_gb" Codec.uint32 0 (·.addSizeGb) (fun v s => { s with addSizeGb := v }),
    .defaulted "size_gb_limit" Codec.uint32 0 (·.sizeGbLimit)
      (fun v s => { s with sizeGbLimit := v }),
    .defaulted "processes" Codec.string.list [] (·.processes)
      (fun v s => { s with processes := v })]

/-- The fields of `Config`. A check stands inside three objects, which leaves 124 of the 127
levels that a text may nest. -/
def Config.record : Record Config where
  blank := {}
  members := [
    .required "app_name" Codec.string (·.appName) (fun v s => { s with appName := v }),
    .defaulted "primary_region" Codec.string "" (·.primaryRegion)
      (fun v s => { s with primaryRegion := v }),
    .defaulted "env" Codec.string.dict {} (·.env) (fun v s => { s with env := v }),
    .defaulted "processes" Codec.string.dict {} (·.processes)
      (fun v s => { s with processes := v }),
    .nullable "http_service" HttpService.record.codec (·.httpService)
      (fun v s => { s with httpService := v }),
    .defaulted "services" ServiceSection.record.codec.list [] (·.services)
      (fun v s => { s with services := v }),
    .defaulted "checks" (GroupCheck.record.sharedCodec 124).dict {} (·.checks)
      (fun v s => { s with checks := v }),
    .nullable "metrics" Machine.Metrics.record.codec (·.metrics)
      (fun v s => { s with metrics := v }),
    .nullable "mounts" MountSection.record.codec (·.mounts) (fun v s => { s with mounts := v }),
    .nullable "deploy" DeploySection.record.codec (·.deploy) (fun v s => { s with deploy := v }),
    .defaulted "host_dedication_id" Codec.string "" (·.hostDedicationId)
      (fun v s => { s with hostDedicationId := v }),
    .nullable "guest" Machine.Guest.record.codec (·.guest) (fun v s => { s with guest := v }),
    .defaulted "managed_postgres" Codec.bool false (·.managedPostgres)
      (fun v s => { s with managedPostgres := v })]

end Rollout.App
