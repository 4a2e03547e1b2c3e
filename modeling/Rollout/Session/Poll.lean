import Rollout.Session.Request

/-!
# Polls

A poll asks the control plane again and again, with growing delays between, until an answer meets
a condition. Errors that may pass are like answers that don't meet it; any other error ends the
poll, and so do cancellation and the deadline.
-/

namespace Rollout

/-- Why a poll failed. -/
inductive PollFailure where
  | interrupted (reason : Interruption)
  | refused (error : ApiError)
deriving DecidableEq, Inhabited

/-- The error of a poll that waited for something of a machine. -/
def PollFailure.error (f : PollFailure) (what machine : String) : DeployError :=
  match f with
  | interrupted i => i.error what machine
  | refused e => .poll machine e

/-- What a poll gave: the last answer, if there was one, and the value that met the condition. -/
structure PollResult (ρ α : Type) where
  last : Option ρ
  verdict : Except PollFailure α

/-- What one round of a poll says. -/
inductive PollRound (ρ α : Type) where
  /-- The poll is over. -/
  | over (result : PollResult ρ α)
  /-- The poll goes on. -/
  | undecided (last : Option ρ)

/-- Judges an answer to a poll by its condition. -/
def PollRound.judge {ρ α : Type} (accept : ρ → Option α) (last : Option ρ) :
    Except Interruption (Except ApiError ρ) → PollRound ρ α
  | .error i => .over ⟨last, .error (.interrupted i)⟩
  | .ok (.error e) => if e.isTransient then .undecided last else .over ⟨last, .error (.refused e)⟩
  | .ok (.ok reply) =>
    match accept reply with
    | some a => .over ⟨some reply, .ok a⟩
    | none => .undecided (some reply)

namespace Run

variable {σ ρ α : Type}

/-- The shortest time between two calls of a poll. -/
def shortestPause : Nat := 250

/-- Polls for so many rounds. `ask` makes one call, given the time that is left. -/
def pollFor (b : Bounds) (deadline : Nat)
    (ask : Bounds → Nat → Run σ (Except Interruption (Except ApiError ρ))) (accept : ρ → Option α) :
    (rounds : Nat) → Backoff → Option ρ → Run σ (PollResult ρ α)
  -- Not met by a poll, which is given more rounds than pauses fit before its deadline.
  | 0, _, _ => hang
  | rounds + 1, schedule, last => do
    let s ← session
    match PollRound.judge accept last (← ask b (deadline - s.now)) with
    | .over result => return result
    | .undecided last =>
      match ← pause b schedule with
      | .error i => return ⟨last, .error (.interrupted i)⟩
      | .ok after => pollFor b deadline ask accept rounds after last

/-- Polls until the condition is met or a timeout from now is over. No round is shorter than
`shortestPause`, so the rounds never run out before the timeout. -/
def poll (timeout : Nat) (schedule : Backoff)
    (ask : Bounds → Nat → Run σ (Except Interruption (Except ApiError ρ))) (accept : ρ → Option α) :
    Run σ (PollResult ρ α) := do
  let deadline ← deadlineAfter timeout
  pollFor { deadline := some deadline } deadline ask accept (timeout / shortestPause + 1) schedule
    none

end Run

end Rollout
