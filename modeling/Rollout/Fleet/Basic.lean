import Rollout.Fleet.Handle

/-!
# Fleets

The machines that a deployment works on. Leases on a fleet are taken all or none: if one machine
can't be leased, the leases on the others are given up again. Giving up leases survives the
cancellation of the deployment: it is granted a short while more.
-/

namespace Rollout

/-- The members of a fleet, in their places. -/
structure Fleet where
  members : List Handle := []
deriving DecidableEq, Inhabited

namespace Fleet

variable {σ α : Type}

/-- The fleet of machines, none of them leased. -/
def ofMachines (machines : List Machine) : Fleet := ⟨machines.map ({ machine := · })⟩

/-- The number of members. -/
def size (f : Fleet) : Nat := f.members.length

/-- Whether there is no member. -/
def isEmpty (f : Fleet) : Bool := f.members.isEmpty

/-- The fleet with one more member. -/
def push (f : Fleet) (h : Handle) : Fleet := ⟨f.members ++ [h]⟩

/-- The fleet with another member in a place. -/
def set (f : Fleet) (place : Nat) (h : Handle) : Fleet := ⟨f.members.set place h⟩

/-- Puts another member in a place. Gives the one that was there. -/
def replace? (f : Fleet) (place : Nat) (h : Handle) : Option (Handle × Fleet) :=
  f.members[place]?.map (·, f.set place h)

/-- Work on the member in a place, which fails if there is none. -/
def member (place : Nat) (missing : DeployError) (x : Work σ Handle α) : Work σ Fleet α := fun f =>
  match f.members[place]? with
  | none => return (f, .error missing)
  | some h => do
    let (h, r) ← x h
    return (f.set place h, r)

/-- The errors among results, in the order of the results. -/
def failures (results : List (Nat × Handle × Except DeployError Unit)) : List DeployError :=
  results.filterMap fun (_, _, r) => match r with
    | .error e => some e
    | .ok () => none

/-- The members that results leave, in their places. -/
def ofResults (results : List (Nat × Handle × Except DeployError Unit)) : Fleet :=
  ⟨(inPlace results).map (·.1)⟩

/-- How long leases may be given up after the deployment was canceled. -/
def gracePeriod : Nat := 500

/-- How giving up leases is bounded in a session: once the deployment is canceled, by the grace
period alone. -/
def releaseBounds (s : Session σ) : Bounds :=
  if s.isCanceled then
    { heedsCancel := false, deadline := some (s.now + gracePeriod), answerAtDeadline := true }
  else {}

/-- Gives up the leases on all members at once. Once the deployment is canceled, running out of
time is no failure. -/
def release : Work σ Fleet Unit := fun f => do
  let s ← Run.session
  let results ← Run.together (releaseBounds s) (f.members.map (·.releasing))
  -- Out of time is no failure only if the deployment was canceled before the release began.
  let failed := (failures results).filter (fun e => !(s.isCanceled && e.isInterrupted))
  match failed with
  | [] => return (ofResults results, .ok ())
  | first :: _ => return (ofResults results, .error (.fleetRelease failed.length first.text))

/-- Takes leases on all members at once. If one can't be taken, all are given up. -/
def acquire (term : Nat) : Work σ Fleet Unit := fun f => do
  let results ← Run.together {} (f.members.map (·.acquiring term))
  match failures results with
  | [] => return (ofResults results, .ok ())
  | first :: others =>
    -- What goes wrong now is not told: the first failure is the one that counts.
    let (leased, _) ← release (ofResults results)
    return (leased, .error (.fleetLease (others.length + 1) f.size first.text))

end Fleet

end Rollout
