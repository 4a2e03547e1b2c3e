import Rollout.Session.Request

/-!
# Work

Work on a value is a program that changes the value and may fail. What was changed before the
failure stays changed: a machine that was destroyed is destroyed, whatever fails afterwards.
-/

namespace Rollout

/-- Work on a value of type `τ`. -/
def Work (σ τ α : Type) : Type := τ → Run σ (τ × Except DeployError α)

namespace Work

variable {σ τ ρ α β : Type}

/-- Goes on with the result of work that did not fail. -/
def andThen (x : Work σ τ α) (f : α → Work σ τ β) : Work σ τ β := fun t => do
  match ← x t with
  | (t, .ok a) => f a t
  -- The value is the one the failed work leaves, not the one it found.
  | (t, .error e) => return (t, .error e)

instance : Monad (Work σ τ) where
  pure a := fun t => return (t, .ok a)
  bind := andThen

instance : LawfulMonad (Work σ τ) := LawfulMonad.mk' (Work σ τ)
  (fun x => by
    funext t env s
    show Run.andThen (x t) _ env s = x t env s
    simp only [Run.andThen]
    obtain ⟨⟨_, _ | _⟩ | _ | _, _⟩ := x t env s <;> rfl)
  (fun _ _ => rfl)
  (fun x f g => by
    funext t env s
    show Run.andThen (Run.andThen (x t) _) _ env s = Run.andThen (x t) _ env s
    simp only [Run.andThen]
    obtain ⟨⟨_, _ | _⟩ | _ | _, _⟩ := x t env s <;> rfl)

/-- Fails. -/
def fail (e : DeployError) : Work σ τ α := fun t => return (t, .error e)

/-- Goes on with a result, or fails with the error. -/
def ofExcept : Except DeployError α → Work σ τ α
  | .ok a => pure a
  | .error e => fail e

/-- A program that leaves the value alone. -/
def lift (x : Run σ α) : Work σ τ α := fun t => return (t, .ok (← x))

/-- The value that is worked on. -/
def value : Work σ τ τ := fun t => return (t, .ok t)

/-- Changes the value. -/
def change (f : τ → τ) : Work σ τ Unit := fun t => return (f t, .ok ())

/-- Gives the failure of work as its result. -/
def attempt (x : Work σ τ α) : Work σ τ (Except DeployError α) := fun t => do
  let (t, r) ← x t
  return (t, .ok r)

/-- Work with its failure put in other words. -/
def mapError (f : DeployError → DeployError) (x : Work σ τ α) : Work σ τ α := fun t => do
  let (t, r) ← x t
  return (t, r.mapError f)

/-- Work on a part of the value. -/
def within (part : τ → ρ) (put : τ → ρ → τ) (x : Work σ ρ α) : Work σ τ α := fun t => do
  let (p, r) ← x (part t)
  return (put t p, r)

/-- Makes a call for a machine. It ends early only when the deployment is canceled. -/
def call (c : Call) (what machine : String) : Work σ τ c.Reply := fun t => do
  match ← Run.request {} c with
  | .error i => return (t, .error (i.error what machine))
  | .ok (.error e) => return (t, .error (.api e))
  | .ok (.ok reply) => return (t, .ok reply)

end Work

end Rollout
