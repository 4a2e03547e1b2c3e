import Rollout.Remote.Call

/-!
# Scripts

A script says how a rehearsed control plane deals with calls. Each kind of call on each machine
has a key, and each key a list of outcomes: the n-th call of the key meets the n-th outcome, and
once the list is used up its last outcome for good.
-/

namespace Rollout.Rehearsal

/-- How one call is dealt with. -/
structure Outcome where
  /-- Cancel the deployment as the call comes in. -/
  cancels : Bool := false
  /-- Answer after so many milliseconds. -/
  delay : Nat := 0
  /-- Never answer. -/
  hangs : Bool := false
  /-- Fail, without any effect. -/
  error : Option ApiError := none
  /-- Fields of the machine to replace, as JSON. -/
  patch : List (String × Json) := []
  /-- The answer to a request for a lease. -/
  reply : Option Lease.Reply := none
  /-- The release to answer with. -/
  release : Option Release := none
deriving Inhabited

/-- Outcomes by key. -/
abbrev Script : Type := Dict (List Outcome)

/-- The key of a call. -/
def key : Call → String
  | .launch _ => "launch"
  | .update input _ => "update:" ++ input.id.getD ""
  | .destroy id _ => "destroy:" ++ id
  | .get id => "get:" ++ id
  | .list => "list"
  | .acquire id _ => "acquire:" ++ id
  | .release id _ => "release:" ++ id
  | .start id => "start:" ++ id
  | .wait machine state _ => "wait:" ++ machine.id ++ ":" ++ state.name
  | .volumes => "volumes"
  | .record _ => "create_release"

/-- The outcome of the n-th call of a key, counted from 0, and whether all later calls of the key
have the same. -/
def Script.outcome (s : Script) (key : String) (n : Nat) : Outcome × Bool :=
  match s.get? key with
  | none | some [] => ({}, true)
  | some (first :: rest) =>
    let outcomes := first :: rest
    (outcomes[n]?.getD (outcomes.getLastD first), outcomes.length ≤ n + 1)

end Rollout.Rehearsal
