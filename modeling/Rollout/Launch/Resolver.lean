import Rollout.App.Group
import Rollout.Machine.Basic
import Rollout.Release.Basic
import Rollout.Version
import Rollout.Volume.Pool

/-!
# Launch inputs

A resolver turns the desired app configuration into the request for one machine: a new one, an
existing one, or the one that runs the release command. It hands out free volumes, so it changes
with the requests that take one. A machine is updated in place where that is possible and marked
for replacement where it is not.
-/

namespace Rollout

/-- What launch inputs are resolved from. -/
structure Resolver where
  app : App.Config
  image : String
  release : Release
  /-- Keep every machine's configuration and renew the release metadata only. -/
  restartOnly : Bool
  volumes : Volume.Pool
deriving DecidableEq, Inhabited

namespace Resolver

/-! ## Metadata -/

/-- Binds a key unless it is bound. -/
def orInsert (d : Dict String) (key value : String) : Dict String :=
  if d.contains key then d else d.insert key value

/-- The metadata of a machine that the release is deployed to. -/
def stampMetadata (r : Resolver) (m : Dict String) : Dict String :=
  let m := m.insert Metadata.releaseId r.release.id
  let m := m.insert Metadata.releaseVersion (toString r.release.version.toNat)
  let m := m.insert Metadata.toolVersion toolVersion
  let m := orInsert m Metadata.platformVersion Metadata.platformV2
  let m := orInsert m Metadata.processGroup Metadata.appGroup
  if r.app.managedPostgres then m.insert Metadata.managedPostgres "true"
  else m.erase Metadata.managedPostgres

/-- A configuration with the metadata of the release. -/
def stamp (r : Resolver) (c : Machine.Config) : Machine.Config :=
  { c with metadata := r.stampMetadata c.metadata }

/-! ## Hosts, mounts and starting -/

/-- A configuration dedicated to a host. -/
def onHost (c : Machine.Config) (host : String) : Machine.Config :=
  { c with guest := some { c.guest.getD {} with hostDedicationId := host } }

/-- A configuration with a mount in place of the one it has. -/
def withMount (c : Machine.Config) (m : Machine.Mount) : Machine.Config :=
  { c with mounts := m :: c.mounts.tail }

/-- A mount with the growth settings of another. -/
def growingLike (m desired : Machine.Mount) : Machine.Mount :=
  { m with
    extendThresholdPercent := desired.extendThresholdPercent
    addSizeGb := desired.addSizeGb
    sizeGbLimit := desired.sizeGbLimit }

/-- Whether a machine is not started by its update: it is not running, and a standby, or started
by its services when it is needed. -/
def skipsLaunch (orig : Machine) (c : Machine.Config) : Bool :=
  orig.state != .started && (!c.standbys.isEmpty || c.services.any (·.autoscales))

/-! ## Requests -/

/-- Gives a mount the first free volume of its name in a region. -/
def claim (r : Resolver) (m : Machine.Mount) (region : String) (missing : String) :
    Resolver × Except DeployError Machine.Mount :=
  match r.volumes.take? m.name region with
  | some (volume, rest) => ({ r with volumes := rest }, .ok { m with volume := volume.id })
  | none =>
    (r, .error (.configResolution (missing ++ " needs an unattached volume named '" ++ m.name
      ++ "' in region '" ++ region ++ "'")))

/-- The request for a new machine with a configuration, on the app's host. -/
def creation (r : Resolver) (config : Machine.Config) : LaunchInput :=
  let config :=
    if r.app.hostDedicationId != "" then onHost config r.app.hostDedicationId else config
  { region := r.app.primaryRegion, config := r.stamp config }

/-- The request for a new machine of a group. -/
def launch (r : Resolver) (group : String) (standbys : List String) :
    Resolver × Except DeployError LaunchInput :=
  match r.app.machineConfig group none r.image with
  | .error e => (r, .error e)
  | .ok config =>
    let config := { config with standbys := standbys }
    match config.mounts.head? with
    | none => (r, .ok (r.creation config))
    | some mount =>
      match r.claim mount r.app.primaryRegion ("New machine in group '" ++ group ++ "'") with
      | (r, .error e) => (r, .error e)
      | (r, .ok mount) => (r, .ok (r.creation (withMount config mount)))

/-- The request that keeps a machine as it is, with the metadata of the release. -/
def restart (r : Resolver) (orig : Machine) : LaunchInput :=
  let config := r.stamp orig.config
  { id := some orig.id, region := orig.region, config := config,
    skipLaunch := skipsLaunch orig config }

/-- Whether a machine has to move to another host. -/
def movesHost (r : Resolver) (orig : Machine) : Bool :=
  r.app.hostDedicationId != "" && r.app.hostDedicationId != orig.config.hostDedicationId

/-- What becomes of a machine's mount: the configuration with the mount it gets, and whether the
machine has to be replaced for it. A mount without a name, as old machines have it, stays as it
is but for its growth; one of the desired name stays on its volume; any other takes a free
volume. -/
def reconcileMount (r : Resolver) (group : String) (orig : Machine) (config : Machine.Config) :
    Resolver × Except DeployError (Machine.Config × Bool) :=
  match orig.config.mounts.head?, config.mounts.head? with
  | none, none => (r, .ok (config, false))
  | some _, none => (r, .ok (config, true))
  -- The desired mount has no volume yet, so whatever stays comes from the old one.
  | some old, some desired =>
    if old.name = "" then (r, .ok (withMount config (growingLike old desired), false))
    else if old.name = desired.name then
      (r, .ok (withMount config (growingLike { old with path := desired.path } desired), false))
    else claimFresh desired
  | none, some desired => claimFresh desired
where
  /-- A free volume for the mount, and with it a new machine. -/
  claimFresh (desired : Machine.Mount) : Resolver × Except DeployError (Machine.Config × Bool) :=
    match r.claim desired orig.region ("machine in group '" ++ group ++ "'") with
    | (r, .error e) => (r, .error e)
    | (r, .ok mount) => (r, .ok (withMount config mount, true))

/-- Puts a machine that has to move onto the app's host. Its volume can't move with it. -/
def reconcileHost (r : Resolver) (orig : Machine) (config : Machine.Config) :
    Except DeployError Machine.Config :=
  if r.movesHost orig then
    if !orig.config.mounts.isEmpty && !config.mounts.isEmpty then
      .error (.configResolution ("can't move machine " ++ orig.id ++ " to dedicated host '"
        ++ r.app.hostDedicationId ++ "' because it has an attached volume; fork the volume onto "
        ++ "the new host first"))
    else .ok (onHost config r.app.hostDedicationId)
  else .ok config

/-- The request that moves a machine to the desired configuration. -/
def update (r : Resolver) (orig : Machine) : Resolver × Except DeployError LaunchInput :=
  let group := orig.processGroup
  match r.app.machineConfig group (some orig.config) r.image with
  | .error e => (r, .error e)
  | .ok config =>
    match r.reconcileMount group orig (r.stamp config) with
    | (r, .error e) => (r, .error e)
    | (r, .ok (config, remounts)) =>
      -- A volume that was claimed above stays claimed if the host is refused here.
      match r.reconcileHost orig config with
      | .error e => (r, .error e)
      | .ok config =>
        -- A machine that serves stands by for no other.
        let config := if config.services.isEmpty then config else { config with standbys := [] }
        (r, .ok {
          id := some orig.id, region := orig.region, config := config,
          skipLaunch := skipsLaunch orig config,
          requiresReplacement := r.movesHost orig || remounts })

/-- The request for an existing machine. -/
def resolve (r : Resolver) (orig : Machine) : Resolver × Except DeployError LaunchInput :=
  if r.restartOnly then (r, .ok (r.restart orig)) else r.update orig

/-- The request for the machine that runs the release command, before the command is put in. It
takes no volume. -/
def releaseCommand (r : Resolver) (orig : Option Machine) : Except DeployError LaunchInput :=
  match r.app.machineConfig Metadata.releaseCommandGroup (orig.map (·.config)) r.image with
  | .error e => .error e
  | .ok config =>
    let config := r.stamp { config with mounts := [] }
    let region :=
      match orig with
      | some m => if r.app.primaryRegion = "" then m.region else r.app.primaryRegion
      | none => r.app.primaryRegion
    .ok { id := orig.map (·.id), region := region, config := config }

end Resolver

end Rollout
