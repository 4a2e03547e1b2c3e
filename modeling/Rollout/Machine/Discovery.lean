import Rollout.Machine.Basic

/-!
# Discovery of an app's machines

Which of the listed machines a deployment works on. Machines that something else deployed and
machines that are being destroyed are left alone. Of the rest, the first of the release command's
process group is the one to run it, further ones are left alone too, and all others are the app's.
-/

namespace Rollout.Machine

/-- Whether a machine was deployed to the platform of this tool. -/
def isOnPlatform (m : Machine) : Bool :=
  m.config.metadata.get? Metadata.platformVersion == some Metadata.platformV2

/-- Whether a machine is being destroyed, or has been. -/
def isLeaving (m : Machine) : Bool :=
  m.state == .destroying || m.state == .destroyed

/-- Whether a machine is for running release commands. -/
def runsReleaseCommand (m : Machine) : Bool :=
  m.processGroup == Metadata.releaseCommandGroup

/-- Whether a machine is one of the app's own. -/
def isAppMachine (m : Machine) : Bool :=
  m.isOnPlatform && !m.isLeaving && !m.runsReleaseCommand

/-- Whether a machine may run the release command. -/
def isReleaseCandidate (m : Machine) : Bool :=
  m.isOnPlatform && !m.isLeaving && m.runsReleaseCommand

/-- The machines of an app, and the one that runs its release command. -/
structure Roster where
  app : List Machine := []
  releaseCommand : Option Machine := none
deriving DecidableEq, Inhabited

/-- The roster of the listed machines. -/
def Roster.ofList (listed : List Machine) : Roster where
  app := listed.filter isAppMachine
  releaseCommand := listed.find? isReleaseCandidate

end Rollout.Machine
