import Rollout.Lease.Basic
import Rollout.Session.Fanout
import Rollout.Session.Poll
import Rollout.Session.Work
import Rollout.Time.Calendar

/-!
# Handles

A handle is what a deployment holds of one machine: the latest it knows of it, and the lease it
has on it, if any. A machine is updated and destroyed only under a lease that is held, and started
only without one.
-/

namespace Rollout

/-- A machine as it was last seen, and the lease that is held on it. -/
structure Handle where
  machine : Machine
  lease : Lease := {}
deriving DecidableEq, Inhabited

namespace Handle

variable {σ : Type}

/-- The id of the machine. -/
def id (h : Handle) : String := h.machine.id

/-! ## Leases -/

/-- Asks for a lease of a term in milliseconds, unless one is held. The term is asked for in whole
seconds, one at least. -/
def acquiring (h : Handle) (term : Nat) : Run σ (Errand (Handle × Except DeployError Unit)) := do
  if h.lease.isHeldAt (← Run.readClock) then return .done (h, .ok ())
  return .ask (.acquire h.id (max (term / 1000) 1)) fun
    | .error i => (h, .error (i.error "lease" h.id))
    | .ok (.error e) => (h, .error (.lease h.id e.text))
    | .ok (.ok reply) =>
      match Lease.ofReply h.id reply with
      | .error e => (h, .error e)
      | .ok lease => ({ h with lease := lease }, .ok ())

/-- Gives the lease up. One that the control plane has dropped already is only forgotten. The
lease is forgotten whatever the answer is, but not if time runs out first. -/
def releasing (h : Handle) : Run σ (Errand (Handle × Except DeployError Unit)) := do
  let without : Handle := { h with lease := {} }
  if h.lease.nonce = "" then return .done (without, .ok ())
  if h.lease.isStaleAt (← Run.readClock) then
    Run.drop h.id h.lease.nonce
    return .done (without, .ok ())
  return .ask (.release h.id h.lease.nonce) fun
    -- Out of time it is not known what became of the lease, so it is not forgotten.
    | .error .timedOut => (h, .error (Interruption.timedOut.error "lease release" h.id))
    | .error .canceled => (without, .error (Interruption.canceled.error "lease release" h.id))
    | .ok (.error e) => (without, .error (.lease h.id e.text))
    | .ok (.ok ()) => (without, .ok ())

/-- Takes a lease of a term in milliseconds, unless one is held. -/
def acquire (term : Nat) : Work σ Handle Unit := fun h => do
  Run.perform {} (← h.acquiring term)

/-- Gives the lease up. -/
def release : Work σ Handle Unit := fun h => do
  Run.perform {} (← h.releasing)

/-- The nonce of the lease, which has to be held. -/
def heldNonce : Work σ Handle String := do
  let h ← Work.value
  if h.lease.isHeldAt (← Work.lift Run.readClock) then return h.lease.nonce
  Work.fail (.precondition ("no current lease for machine " ++ h.id))

/-! ## Changes -/

/-- Updates the machine under the lease. -/
def update (input : LaunchInput) : Work σ Handle Unit := do
  let nonce ← heldNonce
  let h ← Work.value
  let machine ← Work.call (.update input nonce) "update" h.id
  Work.change ({ · with machine := machine })

/-- The handle of a machine that was destroyed, and its lease with it. -/
def destroyed (h : Handle) : Handle :=
  { machine := { h.machine with state := .destroyed }, lease := {} }

/-- Destroys the machine under the lease, which is gone with it. -/
def destroy : Work σ Handle Unit := do
  let nonce ← heldNonce
  let h ← Work.value
  Work.call (.destroy h.id nonce) "destroy" h.id
  Work.change destroyed

/-- When a lease ends, as it is told to the user. -/
def expiryText : Option Timestamp → String
  | some t => "Some(" ++ t.text ++ ")"
  | none => "None"

/-- Starts the machine, on which no lease may be held. -/
def start : Work σ Handle Unit := do
  let h ← Work.value
  if h.lease.isHeldAt (← Work.lift Run.readClock) then
    Work.fail (.precondition ("cannot start machine " ++ h.id
      ++ " because it has a lease expiring at " ++ expiryText h.lease.expiresAt))
  else Work.call (.start h.id) "start" h.id

/-! ## Waits -/

/-- Waits until the machine is in a state. -/
def waitForState (state : Machine.State) (timeout : Nat) : Work σ Handle Unit := fun h => do
  let result ← Run.poll timeout .poll
    (fun b left => Run.request b (.wait h.machine state left)) some
  return (h, result.verdict.mapError (·.error ("state " ++ state.name) h.id))

/-- Fetches the machine until it meets a condition. -/
def fetchUntil {α : Type} (what : String) (schedule : Backoff) (accept : Machine → Option α)
    (timeout : Nat) : Work σ Handle α := fun h => do
  let result ← Run.poll timeout schedule (fun b _ => Run.request b (.get h.id)) accept
  return ({ h with machine := result.last.getD h.machine },
    result.verdict.mapError (·.error what h.id))

/-- The longest interval that polls for health start from, in seconds. -/
def longestHealthInterval : Nat := 120

/-- The interval that polls for health start from, in nanoseconds: the shortest of the checks. -/
def healthInterval (c : Machine.Config) : Nat :=
  (c.shortestCheckInterval.elim longestHealthInterval (min ·.toNat longestHealthInterval))
    * Backoff.perSecond

/-- Waits until all checks of the machine pass. A machine without checks is healthy. -/
def waitForHealth (timeout : Nat) : Work σ Handle Unit := do
  let h ← Work.value
  -- Without checks there is nothing to fetch: what was last seen is believed.
  if h.machine.config.checks.isEmpty then return
  fetchUntil "health checks to pass" (.health (healthInterval h.machine.config))
    (fun m => if m.health.allPassing then some () else none) timeout

/-- Waits for an event of a kind after the latest event of another kind. -/
def waitForEvent (kind after : String) (timeout : Nat) : Work σ Handle Machine.Event :=
  fetchUntil (kind ++ " event") .poll (·.latestEventAfter? kind after) timeout

end Handle

end Rollout
