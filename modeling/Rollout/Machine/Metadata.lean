/-!
# Metadata keys of machines

Part of a machine's free-form metadata belongs to the platform: which platform version and
release it runs, which process group it serves, and what deployed it.
-/

namespace Rollout.Metadata

/-- The platform version a machine was deployed with. -/
def platformVersion : String := "platform_version"

/-- The id of the release a machine runs. -/
def releaseId : String := "release_id"

/-- The version of the release a machine runs. -/
def releaseVersion : String := "release_version"

/-- The version of the tool that deployed a machine. -/
def toolVersion : String := "deployer_version"

/-- The process group a machine serves. -/
def processGroup : String := "process_group"

/-- The mark of machines of a managed database. -/
def managedPostgres : String := "managed-postgres"

/-- The platform version this tool deploys to. -/
def platformV2 : String := "v2"

/-- The process group of an app that names none. -/
def appGroup : String := "app"

/-- The process group of the machine that runs release commands. -/
def releaseCommandGroup : String := "release_command"

end Rollout.Metadata
