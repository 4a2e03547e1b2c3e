import Rollout.Deployment.Basic

/-!
# Carrying a deployment out

The release command runs first; if it fails, the app is not touched. Then, under leases on the
whole fleet, one machine after the other is updated, or destroyed and launched again, and waited
for until it is started and healthy. The immediate strategy waits for no machine and goes on past
errors. An app without machines gets its first one. The leases are given up however it ends.
-/

namespace Rollout.Deployment

variable {σ α : Type}

/-- Work on the app's machines. -/
def onFleet (x : Work σ Fleet α) : Work σ Deployment α :=
  x.within (·.fleet) ({ · with fleet := · })

/-- Work on the machine in a place. -/
def onMember (place : Nat) (x : Work σ Handle α) : Work σ Deployment α :=
  onFleet (Fleet.member place (.internal ("no machine at index " ++ toString place)) x)

/-- Resolves a request, which may use up a volume. -/
def resolve (f : Resolver → Resolver × Except DeployError LaunchInput) :
    Work σ Deployment LaunchInput := fun d => do
  let (r, input) := f d.resolver
  return ({ d with resolver := r }, input)

/-- Waits until a machine has started and is healthy, as far as the deployment waits at all. -/
def waitFor (d : Deployment) : Work σ Handle Unit := do
  if d.strategy.waitsForMachines then
    Handle.waitForState .started d.waitTimeout
    if !d.skipHealthChecks then Handle.waitForHealth d.waitTimeout

/-- Launches the first machine of an app. It becomes a member once it is waited for. -/
def createFirst : Work σ Deployment Unit := do
  let input ← resolve (·.launch Metadata.appGroup [])
  let machine ← Work.call (.launch input) "launch" ReleaseCommand.newMachine
  let d ← Work.value
  -- A machine that does not come up never becomes a member, though it stays launched.
  let ((h, r) : Handle × Except DeployError Unit) ← Work.lift (waitFor d { machine := machine })
  Work.ofExcept r
  onFleet (Work.change (·.push h))

/-- Destroys the machine in a place and launches another in its stead. -/
def replaceMember (place : Nat) (orig : Machine) (input : LaunchInput) :
    Work σ Deployment Unit := do
  onMember place Handle.destroy
  let machine ← Work.call (.launch { input with id := none }) "launch" orig.id
  onFleet (Work.change (·.set place { machine := machine }))

/-- Changes the machine in a place, or replaces it if the request can't be met by a change. -/
def changeMember (place : Nat) (orig : Machine) (input : LaunchInput) : Work σ Deployment Unit :=
  if input.requiresReplacement then replaceMember place orig input
  else onMember place (Handle.update input)

/-- Waits for the machine in a place. -/
def awaitMember (place : Nat) : Work σ Deployment Unit := do
  let d ← Work.value
  onMember place (waitFor d)

/-- Brings the machine in a place to the release, and waits for it unless it stays stopped. -/
def updateMember (place : Nat) : Work σ Deployment Unit := do
  -- The request is made for the machine as it was last seen, also if that was before its lease.
  let orig ← onMember place (return (← Work.value).machine)
  let input ← resolve (·.resolve orig)
  changeMember place orig input
  if !input.skipLaunch then awaitMember place

/-- Updates the members in places one after the other. The immediate strategy goes on past any
error but cancellation. -/
def updateMembers : List Nat → Work σ Deployment Unit
  | [] => return
  | place :: rest => do
    match ← (updateMember place).attempt with
    | .ok () => updateMembers rest
    | .error e =>
      if (← Work.value).strategy == .immediate && !e.isCanceled then updateMembers rest
      else Work.fail e

/-- Updates the whole fleet under leases, which are given up however it ends. -/
def updateFleet : Work σ Deployment Unit := do
  let d ← Work.value
  onFleet (Fleet.acquire d.leaseTimeout)
  -- Neither a failure here nor a cancellation keeps the leases from being given up.
  let result ← (updateMembers (List.range d.fleet.size)).attempt
  let _ ← (onFleet Fleet.release).attempt
  Work.ofExcept result

/-- Runs the release command of the deployment. A failure is reported. -/
def runCommand : Work σ Deployment Unit := do
  let d ← Work.value
  let job := (ReleaseCommand.run d.resolver).within (·.command) ({ · with command := · })
  match ← job.attempt with
  | .ok () => return
  | .error e =>
    Work.lift (Run.report .deployment ("release_command failed, aborting deployment: " ++ e.text))
    Work.fail e

/-- Rolls the release out over the fleet. An app without machines gets its first one. -/
def rollOut : Work σ Deployment Unit := do
  if (← Work.value).fleet.isEmpty then createFirst else updateFleet

/-- Carries the deployment out. -/
def deploy : Work σ Deployment Unit := do
  runCommand
  rollOut

/-- Prepares a deployment and carries it out. Cancellation ends either. -/
def run (o : Options) (app : App.Config) : Run σ (Except DeployError Unit) := do
  match ← prepare {} o app with
  | .error e => return .error e
  | .ok d => return (← deploy d).2

end Rollout.Deployment
