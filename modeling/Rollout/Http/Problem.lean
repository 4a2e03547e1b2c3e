import Rollout.Json.Record

/-!
# Problem reports

What a remote service says about a request that it refused.
-/

namespace Rollout

/-- The body of a refusal. -/
structure Problem where
  error : String := ""
  status : Option String := none
deriving DecidableEq, Inhabited

namespace Problem

/-- The fields of `Problem`. -/
def record : Record Problem where
  blank := {}
  members := [
    .required "error" Codec.string (·.error) (fun v s => { s with error := v }),
    .nullable "status" Codec.string (·.status) (fun v s => { s with status := v })]

end Problem

end Rollout
