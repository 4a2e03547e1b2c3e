import Rollout.File
import Rollout.Json.Record
import Rollout.LogLevel

/-!
# Settings

How the tool runs wherever it deploys: logging, the remote services, the access token and the
timeouts. Settings come from a file and from environment variables, which take precedence. The
access token is read but never written.
-/

namespace Rollout

/-- A remote service. -/
structure Backend where
  /-- Where the service is. -/
  baseUrl : String := "http://localhost:4280/v1"
deriving DecidableEq, Inhabited

/-- The fields of `Backend`. -/
def Backend.record : Record Backend where
  blank := {}
  members := [
    .defaulted "base_url" Codec.string "http://localhost:4280/v1" (·.baseUrl)
      (fun v s => { s with baseUrl := v })]

/-- The settings of the tool. -/
structure Settings where
  logLevel : LogLevel := .info
  /-- Write log messages as JSON. -/
  logJson : Bool := false
  /-- Where log files go, none for no files. -/
  logDir : Option String := none
  controlPlane : Backend := {}
  releaseBackend : Backend := {}
  accessToken : Option String := none
  waitTimeoutSecs : UInt64 := 120
  leaseTimeoutSecs : UInt64 := 1800
deriving DecidableEq, Inhabited

namespace Settings

/-- The environment variable of the access token. -/
def tokenVariable : String := "MACHDEPLOY_ACCESS_TOKEN"

/-- The environment variable of the control plane's address. -/
def controlPlaneVariable : String := "MACHDEPLOY_API_BASE_URL"

/-- The environment variable of the release service's address. -/
def releaseBackendVariable : String := "MACHDEPLOY_RELEASES_BASE_URL"

/-- The settings with the environment variables that are set and not empty. -/
def withEnv (s : Settings) (lookup : String → Option String) : Settings :=
  let given (name : String) : Option String := (lookup name).filter (· != "")
  { s with
    accessToken := (given tokenVariable).or s.accessToken
    controlPlane := ((given controlPlaneVariable).map Backend.mk).getD s.controlPlane
    releaseBackend := ((given releaseBackendVariable).map Backend.mk).getD s.releaseBackend }

/-- The access token, which may not be empty. -/
def token (s : Settings) : Except DeployError String :=
  match s.accessToken.filter (· != "") with
  | some t => .ok t
  | none => .error (.config ("no access token, set " ++ tokenVariable
      ++ " or access_token in the settings file"))

/-- How long a machine is waited for, in milliseconds. -/
def waitTimeout (s : Settings) : Nat := s.waitTimeoutSecs.toNat * 1000

/-- How long leases are taken for, in milliseconds. -/
def leaseTimeout (s : Settings) : Nat := s.leaseTimeoutSecs.toNat * 1000

/-- The fields of `Settings`. -/
def record : Record Settings where
  blank := {}
  members := [
    .defaulted "log_level" LogLevel.codec .info (·.logLevel) (fun v s => { s with logLevel := v }),
    .defaulted "log_json" Codec.bool false (·.logJson) (fun v s => { s with logJson := v }),
    .nullable "log_dir" Codec.string (·.logDir) (fun v s => { s with logDir := v }),
    .defaulted "control_plane" Backend.record.codec {} (·.controlPlane)
      (fun v s => { s with controlPlane := v }),
    .defaulted "release_backend" Backend.record.codec {} (·.releaseBackend)
      (fun v s => { s with releaseBackend := v }),
    .hidden "access_token" Codec.string.option none (fun v s => { s with accessToken := v }),
    .defaulted "wait_timeout_secs" Codec.uint64 120 (·.waitTimeoutSecs)
      (fun v s => { s with waitTimeoutSecs := v }),
    .defaulted "lease_timeout_secs" Codec.uint64 1800 (·.leaseTimeoutSecs)
      (fun v s => { s with leaseTimeoutSecs := v })]

/-- The settings in a file, or the default ones if there is none, with the environment. -/
def load (f : File) (lookup : String → Option String) : Except DeployError Settings :=
  if f.isThere then (f.read record.codec).map (·.withEnv lookup)
  else .ok (({} : Settings).withEnv lookup)

end Settings

end Rollout
