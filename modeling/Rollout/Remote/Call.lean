import Rollout.Error
import Rollout.Lease.Grant
import Rollout.Machine.Discovery
import Rollout.Release.Basic
import Rollout.Volume.Basic

/-!
# Calls to the remote services

What a deployment asks the control plane of machines and the release service for, and what each
of them answers when all goes well.
-/

namespace Rollout

/-- A call to a remote service. Times are in milliseconds, the term of a lease in seconds. -/
inductive Call where
  /-- Create a machine. -/
  | launch (input : LaunchInput)
  /-- Change a machine under the lease of a nonce. -/
  | update (input : LaunchInput) (nonce : String)
  /-- Destroy a machine under the lease of a nonce. -/
  | destroy (id nonce : String)
  /-- Fetch a machine. -/
  | get (id : String)
  /-- List the app's machines. -/
  | list
  /-- Take a lease on a machine. -/
  | acquire (id : String) (ttl : Nat)
  /-- Give a lease on a machine up. -/
  | release (id nonce : String)
  /-- Start a machine. -/
  | start (id : String)
  /-- Wait, for so long at most, until a machine is in a state. -/
  | wait (machine : Machine) (state : Machine.State) (timeout : Nat)
  /-- List the app's volumes. -/
  | volumes
  /-- Record a release. -/
  | record (draft : Release.Draft)
deriving Inhabited

namespace Call

/-- What a call is answered with. -/
abbrev Reply : Call → Type
  | launch _ | update .. | get _ => Machine
  | list => Machine.Roster
  | acquire .. => Lease.Reply
  | volumes => List Volume
  | record _ => Release
  | destroy .. | release .. | start _ | wait .. => Unit

/-- The answer to a call, or why there is none. -/
abbrev Outcome (c : Call) : Type := Except ApiError c.Reply

/-- The machine that a call names. -/
def machineId? : Call → Option String
  | update input _ => input.id
  | destroy id _ | get id | acquire id _ | release id _ | start id => some id
  | wait machine .. => some machine.id
  | launch _ | list | volumes | record _ => none

end Call

end Rollout
