import Rollout.Fleet.Basic
import Rollout.Launch.Resolver
import Rollout.Release.Job

/-!
# Release commands

A release command runs to its end on a machine of its own before the app is touched. The machine
is created for it, or one from an earlier deployment is updated. It is waited for until it has
started, stopped and left an exit event; any exit code but 0 is a failure. Every step is recorded
in a release job.
-/

namespace Rollout

/-- The release command of a deployment. -/
structure ReleaseCommand where
  /-- The command line, if one is configured. -/
  commandLine : Option String := none
  /-- Don't run the command. -/
  restartOnly : Bool := false
  /-- How long each wait may take. -/
  waitTimeout : Nat
  /-- How long the machine is leased for its update. -/
  leaseTimeout : Nat
  /-- The machine of the command, if there is one. -/
  fleet : Fleet := {}
  job : ReleaseJob := {}
deriving DecidableEq, Inhabited

namespace ReleaseCommand

variable {σ α : Type}

/-- The name that stands for a machine that has none yet. -/
def newMachine : String := "<new>"

/-- The release command of a deployment that found a machine for it, or none. -/
def new (commandLine : Option String) (restartOnly : Bool) (waitTimeout leaseTimeout : Nat)
    (machine : Option Machine) : ReleaseCommand where
  commandLine := commandLine
  restartOnly := restartOnly
  waitTimeout := waitTimeout
  leaseTimeout := leaseTimeout
  fleet := .ofMachines machine.toList
  job := .new machine.isSome

/-- The command line that is run, unless it is blank. -/
def effective? (c : ReleaseCommand) : Option String :=
  (c.commandLine.map Text.trim).filter (· != "")

/-- The environment variable that tells a process that it is the release command. -/
def marker : String := "RELEASE_COMMAND"

/-- The request for a machine with its configuration turned into one run of a command line. -/
def oneShot (input : LaunchInput) (commandLine : String) : LaunchInput :=
  { input with config := { input.config with
      init := { input.config.init with cmd := some (Text.words commandLine) }
      services := []
      checks := {}
      restart := some { policy := .no, maxRetries := none }
      env := Resolver.orInsert input.config.env marker "1" } }

/-- Puts a failure in the context of a step. -/
def inContext (context : String) (x : Work σ ReleaseCommand α) : Work σ ReleaseCommand α :=
  x.mapError (.releaseCommand context)

/-- Work on the fleet of the command's machine. -/
def onFleet (x : Work σ Fleet α) : Work σ ReleaseCommand α :=
  x.within (·.fleet) ({ · with fleet := · })

/-- Work on the command's machine. -/
def onMachine (x : Work σ Handle α) : Work σ ReleaseCommand α :=
  onFleet (Fleet.member 0 (.internal "release_command machine missing") x)

/-- Records an event of the release job. -/
def record (e : ReleaseJob.Event) : Work σ ReleaseCommand Unit := do
  match (← Work.value).job.process e with
  | .ok job => Work.change ({ · with job := job })
  | .error message => Work.fail (.internal message)

/-- Creates a machine that runs the command. -/
def create (r : Resolver) (commandLine : String) : Work σ ReleaseCommand Unit := do
  let input ← Work.ofExcept (r.releaseCommand none)
  let machine ← Work.call (.launch (oneShot input commandLine)) "release_command launch" newMachine
  Work.change fun c => { c with fleet := c.fleet.push { machine := machine } }
  record .launch

/-- Updates the machine of an earlier run, once that has stopped, to run the command. -/
def update (r : Resolver) (commandLine : String) : Work σ ReleaseCommand Unit := do
  let c ← Work.value
  -- The run of an earlier deployment has to end before its machine is used again.
  onMachine (Handle.waitForState .stopped c.waitTimeout)
  let machine ← onMachine (return (← Work.value).machine)
  let input ← Work.ofExcept (r.releaseCommand (some machine))
  onFleet (Fleet.acquire c.leaseTimeout)
  -- The lease is given up before it is asked how the update went.
  let updated ← (onMachine (Handle.update (oneShot input commandLine))).attempt
  let _ ← (onFleet Fleet.release).attempt
  Work.ofExcept updated
  record .update

/-- Creates the machine, or updates the one of an earlier run. -/
def makeReady (r : Resolver) (commandLine : String) : Work σ ReleaseCommand Unit := do
  if (← Work.value).fleet.isEmpty then
    inContext "error creating a release_command machine" (create r commandLine)
  else inContext "error updating release_command machine" (update r commandLine)

/-- Judges the run of a machine by its exit event. -/
def judge (id machine : String) (event : Machine.Event) : Work σ ReleaseCommand Unit := do
  match event.exitCode with
  | none =>
    Work.fail (.releaseCommand ("error getting " ++ machine ++ " exit code")
      (.internal "no exit code found in exit event"))
  -- The verdict is recorded first, so a job that failed by its exit code keeps the code.
  | some code =>
    record (.exit code)
    if code != 0 then
      Work.lift (Run.report .releaseCommand
        (machine ++ " exited with non-zero status of " ++ toString code.toInt))
      Work.fail (.releaseCommandFailed id code)

/-- Waits for the machine to start, to stop and to leave an exit event, and judges the run. -/
def awaitVerdict : Work σ ReleaseCommand Unit := do
  let timeout := (← Work.value).waitTimeout
  let id ← onMachine (return (← Work.value).id)
  let machine := "release_command machine " ++ id
  inContext ("error waiting for " ++ machine ++ " to start")
    (onMachine (Handle.waitForState .started timeout))
  record .start
  inContext ("error waiting for " ++ machine ++ " to finish running")
    (onMachine (Handle.waitForState .stopped timeout))
  record .stop
  let event ← inContext ("error finding the " ++ machine ++ " exit event")
    (onMachine (Handle.waitForEvent "exit" "start" timeout))
  judge id machine event

/-- Runs a command line on the machine, which is made ready first. -/
def runLine (r : Resolver) (commandLine : String) : Work σ ReleaseCommand Unit := do
  makeReady r commandLine
  awaitVerdict

/-- Runs the release command, if there is one to run. A failure ends the release job. -/
def run (r : Resolver) : Work σ ReleaseCommand Unit := do
  let c ← Work.value
  match c.effective? with
  | none => return
  | some commandLine =>
    if c.restartOnly then return
    match ← (runLine r commandLine).attempt with
    | .ok () => return
    | .error e =>
      Work.change fun c =>
        -- A job that the exit code has ended stays as it is.
        match c.job.process (.fail e.text) with
        | .ok job => { c with job := job }
        | .error _ => c
      Work.fail e

end ReleaseCommand

end Rollout
