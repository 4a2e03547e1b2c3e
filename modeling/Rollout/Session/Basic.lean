import Rollout.Remote.Call

/-!
# Sessions

A deployment is a program whose only contact with the outside are calls to the remote services,
looks at the clock and waiting. All of it goes through an `Environment`, which settles in advance
how every call is taken, what the clock says and how delays are jittered; so a program is a
function of its environment, and what holds for every environment holds whatever the outside
does. A `Session` is where the program stands: the state of the remote services, the time that
has passed, when the deployment is canceled, and all that happened, the latest first.

Time is counted in milliseconds from the start of the session. It passes only while the program
waits.
-/

namespace Rollout

/-- The parts of the program that report errors. -/
inductive Reporter where
  | program
  | client
  | deployment
  | releaseCommand
deriving DecidableEq, Inhabited

/-- Something that happened in a session. -/
inductive Step where
  /-- A call was made at a time. -/
  | asked (call : Call) (time : Nat)
  /-- The answer to a call arrived. -/
  | answered (call : Call) (outcome : call.Outcome)
  /-- The clock was read. -/
  | looked (clock : Int)
  /-- An error was reported. -/
  | reported (reporter : Reporter) (message : String)
  /-- The lease of a nonce on a machine was forgotten without a call. -/
  | dropped (machine nonce : String)

/-- How the remote services take a call. -/
structure Exchange (σ : Type) (call : Call) where
  /-- The state of the services when the call has come in. -/
  remote : σ
  /-- How long the answer takes, none for a call that is never answered. -/
  delay : Option Nat
  /-- Whether the deployment is canceled as the call is made. -/
  cancels : Bool := false
  /-- The answer, from the state of the services at the time. -/
  answer : σ → σ × call.Outcome

/-- The outside of a program. -/
structure Environment (σ : Type) where
  /-- How a call made at a time is taken by services in a state. -/
  receive : (call : Call) → (now : Nat) → σ → Exchange σ call
  /-- What the clock says when it is read for the n-th time, and at what time of the session, in
  milliseconds since 1970. -/
  clock : (reading time : Nat) → Int
  /-- The jitter of the n-th delay, in nanoseconds. -/
  jitter : Nat → Int
  /-- How long the computer had been up when the session began. -/
  uptime : Nat

/-- The state of a session. -/
structure Session (σ : Type) where
  /-- The state of the remote services. -/
  remote : σ
  /-- The time that has passed. -/
  now : Nat := 0
  /-- When the deployment is canceled. -/
  cancelAt : Option Nat := none
  /-- How often the clock was read. -/
  readings : Nat := 0
  /-- How many delays were taken. -/
  delays : Nat := 0
  /-- What happened, the latest first. -/
  past : List Step := []

namespace Session

variable {σ : Type}

/-- Whether the deployment has been canceled. -/
def isCanceled (s : Session σ) : Bool := s.cancelAt.any (· ≤ s.now)

/-- The session with one more thing that happened. -/
def log (s : Session σ) (step : Step) : Session σ := { s with past := step :: s.past }

/-- The session at a later time. -/
def passTo (s : Session σ) (time : Nat) : Session σ := { s with now := max s.now time }

/-- The session with the deployment canceled, if it has not been. -/
def cancel (s : Session σ) : Session σ :=
  -- A deployment is canceled once: an earlier cancellation stays where it is.
  { s with cancelAt := some ((s.cancelAt.getD s.now).min s.now) }

end Session

/-- How a program ends. -/
inductive Ending (α : Type) where
  /-- With a result. -/
  | done (a : α)
  /-- It waits for something that never comes. -/
  | stuck
  /-- It asks for a time that the computer's clock cannot hold. -/
  | panicked
deriving Inhabited

/-- A program that runs in a session. -/
def Run (σ α : Type) : Type := Environment σ → Session σ → Ending α × Session σ

namespace Run

variable {σ α β : Type}

/-- Goes on with the result of a program that ended with one. -/
def andThen (x : Run σ α) (f : α → Run σ β) : Run σ β := fun env s =>
  match x env s with
  | (.done a, s) => f a env s
  | (.stuck, s) => (.stuck, s)
  | (.panicked, s) => (.panicked, s)

instance : Monad (Run σ) where
  pure a := fun _ s => (.done a, s)
  bind := andThen

theorem pure_run (a : α) (env : Environment σ) (s : Session σ) :
    (pure a : Run σ α) env s = (.done a, s) := rfl

theorem bind_run (x : Run σ α) (f : α → Run σ β) (env : Environment σ) (s : Session σ) :
    (x >>= f) env s = match x env s with
      | (.done a, s) => f a env s
      | (.stuck, s) => (.stuck, s)
      | (.panicked, s) => (.panicked, s) := rfl

instance : LawfulMonad (Run σ) := LawfulMonad.mk' (Run σ)
  (fun x => by
    funext env s
    show andThen x (fun a => pure (id a)) env s = x env s
    simp only [andThen, id]
    split <;> rename_i h <;> simp [h, pure_run])
  (fun _ _ => rfl)
  (fun x f g => by
    funext env s
    show andThen (andThen x f) g env s = andThen x (fun a => andThen (f a) g) env s
    simp only [andThen]
    cases h : x env s with
    | mk ending s' => cases ending <;> rfl)

/-- The state of the session. -/
def session : Run σ (Session σ) := fun _ s => (.done s, s)

/-- Changes the state of the session. -/
def change (f : Session σ → Session σ) : Run σ Unit := fun _ s => (.done (), f s)

/-- Waits for what never comes. -/
def hang : Run σ α := fun _ s => (.stuck, s)

/-- Reads the clock. -/
def readClock : Run σ Int := fun env s =>
  let time := env.clock s.readings s.now
  (.done time, { s.log (.looked time) with readings := s.readings + 1 })

/-- Reports an error. -/
def report (reporter : Reporter) (message : String) : Run σ Unit :=
  change (·.log (.reported reporter message))

/-- Tells that a lease was forgotten without a call. -/
def drop (machine nonce : String) : Run σ Unit := change (·.log (.dropped machine nonce))

/-- The greatest time of the computer's clock, in milliseconds. -/
def clockRange : Nat := Nat.pow 2 63 * 1000

/-- The time at which a timeout from now ends. -/
def deadlineAfter (timeout : Nat) : Run σ Nat := fun env s =>
  if env.uptime + s.now + timeout < clockRange then (.done (s.now + timeout), s) else (.panicked, s)

end Run

end Rollout
