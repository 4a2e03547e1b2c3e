import Rollout.Cli.Args
import Rollout.Cli.Log
import Rollout.Http.Network
import Rollout.Version

/-!
# The program

What a call of the program from the command line does, from its arguments, the environment
variables and the files to what it leaves behind. Before anything is asked of the services the
settings, the app configuration and the arguments have to be in order, in this order.
-/

namespace Rollout.Cli

/-- What the program is called with. -/
structure Invocation where
  args : List String
  /-- The environment variables that are set. -/
  env : String → Option String
  /-- What is found under a path. -/
  content : String → FileContent
  /-- Whether a log file can be opened in a directory, which is made if there is none. -/
  opensLog : String → Bool

/-- What the program leaves behind when it has ended. -/
structure Report where
  /-- The exit code. -/
  exit : Nat
  /-- The version that is told, if it was asked for. -/
  version : Option String := none
  /-- What is said before there is a log. -/
  complaint : Option String := none
  /-- The errors that the log shows. -/
  errors : List String := []
  /-- Where log files are written. -/
  logDir : Option String := none
deriving DecidableEq, Inhabited

namespace Report

/-- The exit code of success. -/
def success : Nat := 0

/-- The exit code of failure. -/
def failure : Nat := 1

/-- The exit code of a run that broke off. -/
def broken : Nat := 101

end Report

/-- What a call of the program comes to before anything is asked of the services. -/
inductive Start where
  /-- The arguments are not in order. -/
  | refused (message : String)
  /-- A number is too big to count with. -/
  | broken
  /-- A deployment is to be made. -/
  | ready (options : Options) (app : App.Config)

namespace Invocation

/-- The environment variable of the filter of the log. -/
def filterVariable : String := "RUST_LOG"

/-- The environment variables that are looked at. -/
def envNames : List String :=
  [Settings.tokenVariable, Settings.controlPlaneVariable, Settings.releaseBackendVariable,
    filterVariable]

/-- The arguments. -/
def arguments (i : Invocation) : Args := .ofList i.args

/-- The file under the path that an argument gives, or else under another. -/
def file (i : Invocation) (key fallback : String) : File :=
  let path := (i.arguments.values.get? key).getD fallback
  ⟨path, i.content path⟩

/-- The settings. -/
def settings (i : Invocation) : Except DeployError Settings :=
  Settings.load (i.file "settings" ({} : Paths).settings) i.env

/-- The file of the app configuration. -/
def appFile (i : Invocation) : File := i.file "config" ({} : Paths).app

/-- The paths of the files that are read. -/
def paths (i : Invocation) : List String :=
  [(i.file "settings" ({} : Paths).settings).path, i.appFile.path]

/-- Whether the version is asked for, and nothing else is done. -/
def asksVersion (i : Invocation) : Bool := i.arguments.values.contains "version"

/-- The filter of the log, given the settings. None where it can't be read to the end. -/
def filter? (i : Invocation) (settings : Settings) : Option LogFilter :=
  logFilter? (i.env filterVariable) settings.logLevel

/-- Where log files are to be written. -/
def logDirs (i : Invocation) : List String :=
  match i.settings with
  | .ok settings =>
    if i.asksVersion || (i.filter? settings).isNone then [] else settings.logDir.toList
  | .error _ => []

/-- The options of the deployment, given its timeouts in seconds. -/
def options (i : Invocation) (waitTimeout leaseTimeout : Nat) : Options :=
  let a := i.arguments
  { image := a.values.get? "image", strategy := a.values.get? "strategy", env := a.env
    region := a.values.get? "region", skipHealthChecks := a.flag "skip-health-checks"
    restartOnly := a.flag "restart-only"
    waitTimeout := waitTimeout * 1000, leaseTimeout := leaseTimeout * 1000 }

/-- What the arguments and the app configuration come to. -/
def start (i : Invocation) (settings : Settings) : Start :=
  let file := i.appFile
  match file.read App.Config.record.codec with
  | .error e => .refused ("Unable to read app configuration " ++ file.path ++ ": " ++ e.text)
  | .ok app =>
    match i.arguments.timeout "wait-timeout" settings.waitTimeoutSecs.toNat with
    | .invalid message => .refused message
    | .overflows => .broken
    | .seconds wait =>
      match i.arguments.timeout "lease-timeout" settings.leaseTimeoutSecs.toNat with
      | .invalid message => .refused message
      | .overflows => .broken
      | .seconds lease => .ready (i.options wait lease) app

variable {σ : Type}

/-- Runs the program once the settings are known. None if it never ends. -/
def runWith (i : Invocation) (settings : Settings) (n : Http.Network σ) (s : Session σ) :
    Option Report × Session σ :=
  -- The log is opened before anything else, and nothing is told without it.
  match (i.filter? settings).filter (fun _ => settings.logDir.all i.opensLog) with
  | none => (some { exit := Report.broken }, s)
  | some filter =>
    let report (exit : Nat) (s : Session σ) : Option Report × Session σ :=
      (some { exit := exit, errors := shown filter s.errors, logDir := settings.logDir }, s)
    match i.start settings with
    | .refused message => report Report.failure (s.log (.reported .program message))
    | .broken => report Report.broken s
    | .ready options app =>
      match n.deploy settings options app s with
      | (.done (.ok ()), s) => report Report.success s
      | (.done (.error e), s) =>
        report Report.failure (s.log (.reported .program ("Deployment failed: " ++ e.text)))
      | (.panicked, s) => report Report.broken s
      | (.stuck, s) => (none, s)

/-- Runs the program on a network. None if it never ends. -/
def run (i : Invocation) (n : Http.Network σ) (s : Session σ) : Option Report × Session σ :=
  if i.asksVersion then
    (some { exit := Report.success, version := some toolVersion }, s)
  else
    match i.settings with
    | .error e =>
      (some { exit := Report.failure
              complaint := some ("Unable to read settings file: " ++ e.text) }, s)
    | .ok settings => i.runWith settings n s

end Invocation

end Rollout.Cli
