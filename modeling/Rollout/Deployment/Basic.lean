import Rollout.Options
import Rollout.Release.Command
import Rollout.Strategy

/-!
# Deployments

A deployment is prepared from the options and the app configuration: both are checked, the app's
machines and volumes are listed, and the release is recorded. Nothing is asked of the services
before the options and the configuration are found to be in order, and nothing is recorded before
the machines are.
-/

namespace Rollout

/-- A deployment that is ready to be carried out. -/
structure Deployment where
  appName : String
  strategy : Strategy
  skipHealthChecks : Bool
  /-- How long each machine is waited for. -/
  waitTimeout : Nat
  /-- How long the machines are leased. -/
  leaseTimeout : Nat
  release : Release
  resolver : Resolver
  /-- The app's machines. -/
  fleet : Fleet
  command : ReleaseCommand
deriving DecidableEq, Inhabited

namespace Deployment

variable {σ : Type}

/-- The platform that releases are recorded for. -/
def platform : String := "machines"

/-- The image that the options name, if it is not blank. -/
def imageOption (o : Options) : Option String := o.image.filter (!Text.isBlankText ·)

/-- Whether the options name an image, or none for a restart. -/
def checkImage (o : Options) : Except DeployError Unit :=
  match imageOption o, o.restartOnly with
  | some _, true => .error (.precondition "restart-only deployments can't specify an image")
  | none, false => .error (.precondition "an image is required unless restarting")
  | _, _ => .ok ()

/-- The app configuration with the overrides of the options, found to be in order. -/
def checkApp (o : Options) (app : App.Config) : Except DeployError App.Config :=
  match app.override o.env o.region with
  | (_, .error e) => .error e
  | (app, .ok ()) => app.validate.map fun () => app

/-- Whether no machine has more than the one mount that is supported. -/
def checkMounts (machines : List Machine) : Except DeployError Unit :=
  match machines.find? (1 < ·.config.mounts.length) with
  | none => .ok ()
  | some m => .error (.configResolution ("error machine " ++ m.id ++ " has "
      ++ toString m.config.mounts.length ++ " mounts and expected 1"))

/-- The image that is deployed: that of the options, else that of the first machine. -/
def image (o : Options) (machines : List Machine) : String :=
  (imageOption o).getD (machines.head?.elim "" (·.config.image))

/-- The record of a release. -/
def draft (app : App.Config) (strategy : Strategy) (image : String) : Release.Draft where
  appId := app.appName
  platformVersion := platform
  strategy := strategy.releaseName
  image := image
  definition := app.definition

/-- Makes a call to prepare a deployment. -/
def setUp (b : Bounds) (c : Call) : Run σ (Except DeployError c.Reply) := do
  match ← Run.request b c with
  | .error i => return .error (i.error "deployment setup" "")
  | .ok (.error e) => return .error (.api e)
  | .ok (.ok reply) => return .ok reply

/-- Lists the volumes that new machines may be given, if the app has mounts. -/
def findVolumes (b : Bounds) (app : App.Config) : Run σ (Except DeployError Volume.Pool) := do
  if app.mounts.isNone then return .ok {}
  return (← setUp b .volumes).map Volume.Pool.ofList

/-- What the deployment starts from once everything is known. -/
def assemble (o : Options) (app : App.Config) (strategy : Strategy) (roster : Machine.Roster)
    (volumes : Volume.Pool) (release : Release) : Deployment where
  appName := app.appName
  strategy := strategy
  skipHealthChecks := o.skipHealthChecks
  waitTimeout := o.effectiveWaitTimeout
  leaseTimeout := o.effectiveLeaseTimeout
  release := release
  resolver := {
    app := app, image := image o roster.app, release := release, restartOnly := o.restartOnly,
    volumes := volumes }
  fleet := .ofMachines roster.app
  command := .new app.releaseCommand o.restartOnly o.effectiveWaitTimeout o.effectiveLeaseTimeout
    roster.releaseCommand

/-- Prepares a deployment, with every call within bounds. -/
def prepare (b : Bounds) (o : Options) (app : App.Config) :
    Run σ (Except DeployError Deployment) := ExceptT.run do
  liftExcept (checkImage o)
  let app ← liftExcept (checkApp o app)
  let strategy ← liftExcept (Strategy.select o.strategy app.deployStrategy)
  -- Only from here on are the services asked.
  let roster ← ExceptT.mk (setUp b .list)
  liftExcept (checkMounts roster.app)
  let volumes ← ExceptT.mk (findVolumes b app)
  -- The one call that changes something comes last.
  let release ← ExceptT.mk (setUp b (.record (draft app strategy (image o roster.app))))
  return assemble o app strategy roster volumes release
where
  /-- A check as a step of the preparation. -/
  liftExcept {α : Type} (r : Except DeployError α) : ExceptT DeployError (Run σ) α :=
    ExceptT.mk (pure r)

end Deployment

end Rollout
