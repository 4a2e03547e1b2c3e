import Rollout.Error
import Rollout.Lease.Grant
import Rollout.Text.Quoted
import Rollout.Time.Timestamp

/-!
# Leases

A lease is the right to change one machine for a while, proved by its nonce. It is *held* until
it expires by the local clock. It is *stale* once it has expired for longer than the two clocks
may differ: only then is the control plane sure to have dropped it.
-/

namespace Rollout

/-- A lease on a machine, or its absence: no nonce and no expiry. -/
structure Lease where
  nonce : String := ""
  expiresAt : Option Timestamp := none
deriving DecidableEq, Inhabited

namespace Lease

/-- How far the local clock and the control plane's may differ, in milliseconds. -/
def clockSkew : Int := 5000

/-- Whether the lease may be used at a time given in milliseconds. -/
def isHeldAt (l : Lease) (now : Int) : Bool :=
  l.nonce != "" && l.expiresAt.any (now < ·.millis)

/-- Whether the control plane has dropped the lease at a time given in milliseconds. -/
def isStaleAt (l : Lease) (now : Int) : Bool :=
  match l.expiresAt with
  | some e => clockSkew < now - e.millis
  | none => true

/-- The timestamp of a number of seconds, if there is one. -/
def expiry? (seconds : Int64) : Option Timestamp := Timestamp.ofMillis? (seconds.toInt * 1000)

/-- The lease that an answer to a request for one grants. -/
def ofReply (machine : String) (r : Reply) : Except DeployError Lease :=
  if r.status != "success" then
    .error (.lease machine ("did not acquire lease, status: " ++ r.status ++ " code: "
      ++ r.code.getD "" ++ " message: " ++ r.message.getD ""))
  else
    match r.data with
    | none => .error (.lease machine "missing data from lease response, assuming not successful")
    | some g =>
      match expiry? g.expiresAt with
      -- Without a nonce the lease could neither be used nor given up.
      | some e => if g.nonce == "" then malformed g else .ok ⟨g.nonce, some e⟩
      | none => malformed g
where
  /-- The refusal of a grant that names no lease. -/
  malformed (g : Grant) : Except DeployError Lease :=
    .error (.lease machine ("malformed lease data (nonce: " ++ Text.quoted g.nonce
      ++ ", expires_at: " ++ toString g.expiresAt.toInt ++ ")"))

end Lease

end Rollout
