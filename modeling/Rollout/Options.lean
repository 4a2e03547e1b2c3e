/-!
# Options of a deployment

What a user asks of one deployment. Durations are in milliseconds, and zero stands for the
default.
-/

namespace Rollout

/-- Where the tool looks for its files. -/
structure Paths where
  settings : String := "machdeploy.json"
  app : String := "app.json"
deriving DecidableEq, Inhabited

/-- The options of a deployment. -/
structure Options where
  /-- The image to deploy, which a restart has none of. -/
  image : Option String := none
  /-- The name of the rollout strategy. -/
  strategy : Option String := none
  /-- Settings of environment variables, as `KEY=VALUE`. -/
  env : List String := []
  /-- The primary region. -/
  region : Option String := none
  /-- Don't wait for health checks. -/
  skipHealthChecks : Bool := false
  /-- Keep every machine's configuration and renew the release metadata only. -/
  restartOnly : Bool := false
  /-- How long each machine is waited for. -/
  waitTimeout : Nat := 120000
  /-- How long leases are taken for. -/
  leaseTimeout : Nat := 1800000
deriving DecidableEq, Inhabited

namespace Options

/-- How long each machine is waited for when the option is zero. -/
def defaultWaitTimeout : Nat := 120000

/-- How long leases are taken for when the option is zero. -/
def defaultLeaseTimeout : Nat := 1800000

/-- How long each machine is waited for. -/
def effectiveWaitTimeout (o : Options) : Nat :=
  if o.waitTimeout = 0 then defaultWaitTimeout else o.waitTimeout

/-- How long leases are taken for. -/
def effectiveLeaseTimeout (o : Options) : Nat :=
  if o.leaseTimeout = 0 then defaultLeaseTimeout else o.leaseTimeout

end Options

end Rollout
