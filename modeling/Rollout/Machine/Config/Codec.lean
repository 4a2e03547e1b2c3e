import Rollout.Json.Record
import Rollout.Machine.Config

/-!
# JSON of machine configurations

Empty maps and lists and missing options of a configuration are left out when it is written.
-/

namespace Rollout.Machine

/-- The fields of `Init`. -/
def Init.record : Record Init where
  blank := {}
  members := [
    .optional "cmd" Codec.string.list (·.cmd) (fun v s => { s with cmd := v }),
    .optional "entrypoint" Codec.string.list (·.entrypoint) (fun v s => { s with entrypoint := v }),
    .optional "exec" Codec.string.list (·.exec) (fun v s => { s with exec := v })]

/-- The fields of `Port`. -/
def Port.record : Record Port where
  blank := {}
  members := [
    .optional "port" Codec.uint16 (·.port) (fun v s => { s with port := v }),
    .sparse "handlers" Codec.string.list [] List.isEmpty (·.handlers)
      (fun v s => { s with handlers := v }),
    .defaulted "force_https" Codec.bool false (·.forceHttps)
      (fun v s => { s with forceHttps := v })]

/-- The fields of `Service`. -/
def Service.record : Record Service where
  blank := {}
  members := [
    .required "protocol" Codec.string (·.protocol) (fun v s => { s with protocol := v }),
    .required "internal_port" Codec.uint16 (·.internalPort)
      (fun v s => { s with internalPort := v }),
    .sparse "ports" Port.record.codec.list [] List.isEmpty (·.ports)
      (fun v s => { s with ports := v }),
    .optional "autostop" Codec.bool (·.autostop) (fun v s => { s with autostop := v }),
    .optional "autostart" Codec.bool (·.autostart) (fun v s => { s with autostart := v }),
    .optional "min_machines_running" Codec.uint32 (·.minMachinesRunning)
      (fun v s => { s with minMachinesRunning := v })]

/-- The fields of `Check`. -/
def Check.record : Record Check where
  blank := {}
  members := [
    .optional "type" Codec.string (·.kind) (fun v s => { s with kind := v }),
    .optional "port" Codec.uint16 (·.port) (fun v s => { s with port := v }),
    .optional "interval_secs" Codec.uint64 (·.intervalSecs)
      (fun v s => { s with intervalSecs := v }),
    .optional "timeout_secs" Codec.uint64 (·.timeoutSecs) (fun v s => { s with timeoutSecs := v }),
    .optional "grace_period_secs" Codec.uint64 (·.gracePeriodSecs)
      (fun v s => { s with gracePeriodSecs := v }),
    .optional "method" Codec.string (·.method) (fun v s => { s with method := v }),
    .optional "path" Codec.string (·.path) (fun v s => { s with path := v })]

/-- The fields of `Mount`. -/
def Mount.record : Record Mount where
  blank := {}
  members := [
    .defaulted "volume" Codec.string "" (·.volume) (fun v s => { s with volume := v }),
    .required "path" Codec.string (·.path) (fun v s => { s with path := v }),
    .defaulted "name" Codec.string "" (·.name) (fun v s => { s with name := v }),
    .defaulted "extend_threshold_percent" Codec.uint32 0 (·.extendThresholdPercent)
      (fun v s => { s with extendThresholdPercent := v }),
    .defaulted "add_size_gb" Codec.uint32 0 (·.addSizeGb) (fun v s => { s with addSizeGb := v }),
    .defaulted "size_gb_limit" Codec.uint32 0 (·.sizeGbLimit)
      (fun v s => { s with sizeGbLimit := v })]

/-- The word for a restart policy. -/
def RestartPolicy.name : RestartPolicy → String
  | .no => "no"
  | .always => "always"
  | .onFailure => "on-failure"

/-- Restart policies as their words. -/
def RestartPolicy.codec : Codec RestartPolicy :=
  .named ([RestartPolicy.no, .always, .onFailure].map (fun p => (p.name, p))) RestartPolicy.name

/-- The fields of `Restart`. -/
def Restart.record : Record Restart where
  blank := {}
  members := [
    .required "policy" RestartPolicy.codec (·.policy) (fun v s => { s with policy := v }),
    .optional "max_retries" Codec.uint32 (·.maxRetries) (fun v s => { s with maxRetries := v })]

/-- The fields of `Guest`. -/
def Guest.record : Record Guest where
  blank := {}
  members := [
    .defaulted "cpu_kind" Codec.string "" (·.cpuKind) (fun v s => { s with cpuKind := v }),
    .defaulted "cpus" Codec.uint32 0 (·.cpus) (fun v s => { s with cpus := v }),
    .defaulted "memory_mb" Codec.uint32 0 (·.memoryMb) (fun v s => { s with memoryMb := v }),
    .sparse "host_dedication_id" Codec.string "" (· == "") (·.hostDedicationId)
      (fun v s => { s with hostDedicationId := v })]

/-- The fields of `Metrics`. -/
def Metrics.record : Record Metrics where
  blank := {}
  members := [
    .required "port" Codec.uint16 (·.port) (fun v s => { s with port := v }),
    .required "path" Codec.string (·.path) (fun v s => { s with path := v })]

/-- The fields of `Config`. -/
def Config.record : Record Config where
  blank := {}
  members := [
    .defaulted "image" Codec.string "" (·.image) (fun v s => { s with image := v }),
    .sparse "env" Codec.string.dict {} Dict.isEmpty (·.env) (fun v s => { s with env := v }),
    .defaulted "init" Init.record.codec {} (·.init) (fun v s => { s with init := v }),
    .sparse "metadata" Codec.string.dict {} Dict.isEmpty (·.metadata)
      (fun v s => { s with metadata := v }),
    .sparse "services" Service.record.codec.list [] List.isEmpty (·.services)
      (fun v s => { s with services := v }),
    .sparse "checks" Check.record.codec.dict {} Dict.isEmpty (·.checks)
      (fun v s => { s with checks := v }),
    .sparse "mounts" Mount.record.codec.list [] List.isEmpty (·.mounts)
      (fun v s => { s with mounts := v }),
    .optional "restart" Restart.record.codec (·.restart) (fun v s => { s with restart := v }),
    .optional "guest" Guest.record.codec (·.guest) (fun v s => { s with guest := v }),
    .optional "metrics" Metrics.record.codec (·.metrics) (fun v s => { s with metrics := v }),
    .sparse "standbys" Codec.string.list [] List.isEmpty (·.standbys)
      (fun v s => { s with standbys := v })]

end Rollout.Machine

namespace Rollout

/-- The fields of `LaunchInput` that are written. -/
def LaunchInput.record : Record LaunchInput where
  blank := {}
  members := [
    .optional "id" Codec.string (·.id) (fun v s => { s with id := v }),
    .defaulted "region" Codec.string "" (·.region) (fun v s => { s with region := v }),
    .required "config" Machine.Config.record.codec (·.config) (fun v s => { s with config := v }),
    .defaulted "skip_launch" Codec.bool false (·.skipLaunch)
      (fun v s => { s with skipLaunch := v })]

end Rollout
