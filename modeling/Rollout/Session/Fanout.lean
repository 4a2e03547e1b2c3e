import Rollout.Session.Request

/-!
# Errands side by side

An errand makes one call at most. Errands of several parties are run together: their calls are
made one after the other without waiting, and then their answers are taken as they come. What
needs no wait comes before what does, and answers that come at the same time are taken in the
order of the calls.
-/

namespace Rollout

/-- Something to be done with one call at most. -/
inductive Errand (α : Type) where
  /-- There is nothing to ask. -/
  | done (a : α)
  /-- What is made of the answer to a call, or of the interruption that kept it away. -/
  | ask (call : Call) (resume : Except Interruption call.Outcome → α)

/-- When a wait ends, none for one without an end. -/
def Waking.time? : Waking → Option Nat
  | .arrived t | .interrupted _ t => some t
  | .never => none

/-- Whether a wait ends no later than another. -/
def Waking.noLater (v w : Waking) : Bool :=
  match v.time?, w.time? with
  | _, none => true
  | none, some _ => false
  | some t, some u => t ≤ u

namespace Run

variable {σ α : Type}

/-- Does one errand within bounds. -/
def perform (b : Bounds) : Errand α → Run σ α
  | .done a => return a
  | .ask call resume => return resume (← request b call)

/-- An errand after its call was made. -/
inductive Started (σ α : Type) where
  | finished (a : α)
  | waiting (call : Call) (pending : Pending σ call)
      (resume : Except Interruption call.Outcome → α)

/-- Makes the call of an errand within bounds. -/
def start (b : Bounds) : Errand α → Run σ (Started σ α)
  | .done a => return .finished a
  | .ask call resume => do
    match b.interruption? (← session) with
    | some i => return .finished (resume (.error i))
    | none =>
      let p ← send call
      if p.isImmediate then return .finished (resume (.ok (← collect p)))
      return .waiting call p resume

/-- Makes the calls of errands one after the other. -/
def startAll (b : Bounds) : List (Run σ (Errand α)) → Run σ (List (Started σ α))
  | [] => return []
  | errand :: rest => do
    let first ← start b (← errand)
    return first :: (← startAll b rest)

/-- How the wait of an errand ends, none where there is nothing to wait for. -/
def Started.waking? (b : Bounds) (s : Session σ) : Started σ α → Option Waking
  | .finished _ => none
  | .waiting _ p _ => some (b.waking s p.arrival)

/-- Ends the wait of an errand. -/
def finish (b : Bounds) (s : Session σ) : Started σ α → Run σ α
  | .finished a => return a
  | .waiting _ p resume =>
    match b.waking s p.arrival with
    | .arrived t => do waitUntil t; return resume (.ok (← collect p))
    | .interrupted i t => do waitUntil t; return resume (.error i)
    | .never => hang

/-- Ends the waits of errands one after the other, each as it was to end in a session. -/
def finishAll (b : Bounds) (s : Session σ) : List (Nat × Started σ α) → Run σ (List (Nat × α))
  | [] => return []
  | (index, errand) :: rest => do
    let a ← finish b s errand
    return (index, a) :: (← finishAll b s rest)

/-- Whether one of two errands is to end no later than the other. What is finished comes before
whatever is still waited for. -/
def Started.noLater (b : Bounds) (s : Session σ) (d e : Started σ α) : Bool :=
  match d.waking? b s, e.waking? b s with
  | none, _ => true
  | some _, none => false
  | some v, some w => v.noLater w

/-- Runs errands side by side. Gives their results in the order in which they finished, each with
the place of its errand. -/
def together (b : Bounds) (errands : List (Run σ (Errand α))) : Run σ (List (Nat × α)) := do
  let started ← startAll b errands
  let s ← session
  let waits := started.mapIdx (fun index e => (index, e))
  -- The sort is stable, so answers that come together stay in the order of the calls.
  finishAll b s (waits.mergeSort (fun d e => d.2.noLater b s e.2))

end Run

/-- Results in the order of their places. -/
def inPlace {α : Type} (results : List (Nat × α)) : List α :=
  (results.mergeSort (fun a b => a.1 ≤ b.1)).map (·.2)

end Rollout
