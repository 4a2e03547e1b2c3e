/-!
# Version

The version of this tool, which it records on every machine that it deploys.
-/

namespace Rollout

/-- The version of this tool. -/
def toolVersion : String := "0.1.0"

end Rollout
