import Rollout.Backoff
import Rollout.Session.Basic

/-!
# Bounded requests and pauses

Whatever a program waits for ends in one of three ways: it comes, the deployment is canceled, or
a deadline passes. At one and the same time cancellation comes first, then the deadline. Before a
call is made it is checked that neither is in force already.
-/

namespace Rollout

/-- Why something that was waited for did not come. -/
inductive Interruption where
  | canceled
  | timedOut
deriving DecidableEq, Inhabited

/-- The error of an interruption while a machine was waited for. -/
def Interruption.error (i : Interruption) (what machine : String) : DeployError :=
  match i with
  | canceled => .canceled what machine
  | timedOut => .timeout what machine

/-- What limits a wait. -/
structure Bounds where
  /-- Whether cancellation ends the wait. -/
  heedsCancel : Bool := true
  /-- When the wait ends at the latest. -/
  deadline : Option Nat := none
  /-- Whether what comes at the very deadline still counts. -/
  answerAtDeadline : Bool := false
deriving DecidableEq, Inhabited

/-- How a wait ends. -/
inductive Waking where
  /-- What was waited for came at a time. -/
  | arrived (time : Nat)
  /-- The wait was cut short at a time. -/
  | interrupted (reason : Interruption) (time : Nat)
  /-- The wait has no end. -/
  | never
deriving DecidableEq, Inhabited

namespace Bounds

variable {σ : Type}

/-- The cancellation that ends a wait. -/
def cancelTime (b : Bounds) (s : Session σ) : Option Nat :=
  if b.heedsCancel then s.cancelAt else none

/-- What cuts a wait short, and when. -/
def cutoff (b : Bounds) (s : Session σ) : Option (Interruption × Nat) :=
  match b.cancelTime s, b.deadline with
  -- At one and the same time it is the cancellation that is told.
  | some c, some d => some (if c ≤ d then (.canceled, c) else (.timedOut, d))
  | some c, none => some (.canceled, c)
  | none, some d => some (.timedOut, d)
  | none, none => none

/-- The interruption that is in force already. -/
def interruption? (b : Bounds) (s : Session σ) : Option Interruption :=
  if (b.cancelTime s).any (· ≤ s.now) then some .canceled
  else if b.deadline.any (· ≤ s.now) then some .timedOut
  else none

/-- Whether something that comes at a time comes before a wait is cut short. -/
def beats (b : Bounds) (arrival : Nat) (cut : Interruption × Nat) : Bool :=
  arrival < cut.2 || (b.answerAtDeadline && arrival = cut.2)

/-- How a wait for something ends that comes at a time, or never. -/
def waking (b : Bounds) (s : Session σ) (arrival : Option Nat) : Waking :=
  match arrival, b.cutoff s with
  | some a, some c => if b.beats a c then .arrived a else .interrupted c.1 c.2
  | some a, none => .arrived a
  | none, some c => .interrupted c.1 c.2
  | none, none => .never

end Bounds

namespace Run

variable {σ : Type}

/-- A call that was made and not answered yet. -/
structure Pending (σ : Type) (call : Call) where
  /-- When the answer comes. -/
  arrival : Option Nat
  /-- Whether the answer came with the call. -/
  isImmediate : Bool
  /-- The answer, from the state of the services at the time. -/
  answer : σ → σ × call.Outcome

/-- Makes a call. -/
def send (call : Call) : Run σ (Pending σ call) := fun env s =>
  let x := env.receive call s.now s.remote
  let s := { s.log (.asked call s.now) with remote := x.remote }
  (.done ⟨x.delay.map (s.now + ·), x.delay == some 0, x.answer⟩, if x.cancels then s.cancel else s)

/-- Takes the answer to a call. -/
def collect {call : Call} (p : Pending σ call) : Run σ call.Outcome := fun _ s =>
  let (remote, outcome) := p.answer s.remote
  (.done outcome, { s.log (.answered call outcome) with remote := remote })

/-- Lets the time pass up to an instant. -/
def waitUntil (time : Nat) : Run σ Unit := change (·.passTo time)

/-- Makes a call within bounds. An answer that comes with the call counts even if the call
canceled the deployment. An interrupted call is never answered. -/
def request (b : Bounds) (call : Call) : Run σ (Except Interruption call.Outcome) := do
  match b.interruption? (← session) with
  | some i => return .error i
  | none =>
    let p ← send call
    -- Taken before anyone looks whether the call itself has canceled the deployment.
    if p.isImmediate then return .ok (← collect p)
    match b.waking (← session) p.arrival with
    | .arrived t => waitUntil t; return .ok (← collect p)
    | .interrupted i t => waitUntil t; return .error i
    | .never => hang

/-- Draws the next delay of a schedule, in milliseconds, and the schedule after it. -/
def drawDelay (schedule : Backoff) : Run σ (Nat × Backoff) := fun env s =>
  let (nanos, after) := schedule.next (.moved (env.jitter s.delays))
  -- Timers run in whole milliseconds; a part of one is waited out.
  (.done ((nanos + Backoff.perMilli - 1) / Backoff.perMilli, after),
    { s with delays := s.delays + 1 })

/-- Waits for the next delay of a schedule within bounds, and gives the schedule after it. -/
def pause (b : Bounds) (schedule : Backoff) : Run σ (Except Interruption Backoff) := do
  let (delay, after) ← drawDelay schedule
  let s ← session
  match b.interruption? s with
  | some i => return .error i
  | none =>
    match b.waking s (some (s.now + delay)) with
    | .arrived t => waitUntil t; return .ok after
    | .interrupted i t => waitUntil t; return .error i
    | .never => hang

end Run

end Rollout
