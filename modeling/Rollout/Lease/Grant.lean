import Rollout.Json.Record

/-!
# Asking for a lease

The request for a lease on a machine and what the control plane answers to it.
-/

namespace Rollout.Lease

/-- A request for a lease. -/
structure Request where
  /-- How long the lease is wanted, in seconds. -/
  ttl : UInt64 := 0
deriving DecidableEq, Inhabited

/-- A lease that was granted. -/
structure Grant where
  nonce : String := ""
  /-- When the lease ends, in seconds since the start of 1970. -/
  expiresAt : Int64 := 0
  owner : Option String := none
deriving DecidableEq, Inhabited

/-- The answer to a request for a lease. -/
structure Reply where
  /-- `success` when the lease was granted. -/
  status : String := ""
  code : Option String := none
  message : Option String := none
  data : Option Grant := none
deriving DecidableEq, Inhabited

/-- The fields of `Request`. -/
def Request.record : Record Request where
  blank := {}
  members := [.required "ttl" Codec.uint64 (·.ttl) (fun v s => { s with ttl := v })]

/-- The fields of `Grant`. -/
def Grant.record : Record Grant where
  blank := {}
  members := [
    .required "nonce" Codec.string (·.nonce) (fun v s => { s with nonce := v }),
    .required "expires_at" Codec.int64 (·.expiresAt) (fun v s => { s with expiresAt := v }),
    .nullable "owner" Codec.string (·.owner) (fun v s => { s with owner := v })]

/-- The fields of `Reply`. -/
def Reply.record : Record Reply where
  blank := {}
  members := [
    .required "status" Codec.string (·.status) (fun v s => { s with status := v }),
    .nullable "code" Codec.string (·.code) (fun v s => { s with code := v }),
    .nullable "message" Codec.string (·.message) (fun v s => { s with message := v }),
    .nullable "data" Grant.record.codec (·.data) (fun v s => { s with data := v })]

end Rollout.Lease
