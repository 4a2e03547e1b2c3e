import Rollout.Proofs.Request

/-!
# Sessions in the order of time

A session only grows older: time does not go back, a deployment that was canceled stays canceled,
and what happened stays in the past. So whatever a session is still free of when a run ends, it
was free of all the while. What is claimed of runs that end like that may be shown one program
after the other.

## Main statements

- `Work.Triple.given`: what is known only of sessions that are free of something stays known.
-/

namespace Rollout

variable {σ τ α : Type} {env : Environment σ}

namespace Session

/-- A deployment is canceled if its cancellation is not still to come. -/
theorem isCanceled_iff {s : Session σ} :
    s.isCanceled = true ↔ ∃ c, s.cancelAt = some c ∧ c ≤ s.now := by
  simp [isCanceled, Option.any_eq_true]

/-- Whether a session is the same as another at an earlier time, or at the same. -/
structure Precedes (s s' : Session σ) : Prop where
  now : s.now ≤ s'.now
  canceled : s.isCanceled = true → s'.isCanceled = true
  past : s.past <:+ s'.past

namespace Precedes

variable {s s' s'' : Session σ}

/-- A session is as old as itself. -/
theorem refl (s : Session σ) : s.Precedes s := ⟨Nat.le_refl _, id, List.suffix_rfl⟩

/-- What is older than something older is older. -/
theorem trans (h : s.Precedes s') (h' : s'.Precedes s'') : s.Precedes s'' :=
  ⟨Nat.le_trans h.now h'.now, fun hs => h'.canceled (h.canceled hs), h.past.trans h'.past⟩

/-- A session that is not canceled was not before. -/
theorem isCanceled_eq_false (h : s.Precedes s') (hs : s'.isCanceled = false) :
    s.isCanceled = false :=
  Bool.eq_false_iff.mpr fun hs' => Bool.eq_false_iff.mp hs (h.canceled hs')

/-- A session that is canceled at the same time as an earlier one. -/
theorem of_cancelAt_eq (hnow : s.now ≤ s'.now) (hcancel : s'.cancelAt = s.cancelAt)
    (hpast : s.past <:+ s'.past) : s.Precedes s' := by
  refine ⟨hnow, fun h => ?_, hpast⟩
  -- The time of the cancellation is the same, and it is no later than before.
  obtain ⟨c, hc, hle⟩ := isCanceled_iff.mp h
  exact isCanceled_iff.mpr ⟨c, hcancel.trans hc, Nat.le_trans hle hnow⟩

/-- Time that passes makes a session older. -/
theorem passTo (s : Session σ) (time : Nat) : s.Precedes (s.passTo time) :=
  of_cancelAt_eq (Nat.le_max_left _ _) rfl List.suffix_rfl

/-- A cancellation is not taken back by another. -/
theorem cancel (s : Session σ) : s.Precedes s.cancel := by
  refine ⟨Nat.le_refl _, fun h => ?_, List.suffix_rfl⟩
  obtain ⟨c, hc, hle⟩ := isCanceled_iff.mp h
  refine isCanceled_iff.mpr ⟨_, rfl, ?_⟩
  -- Of two cancellations the earlier one counts.
  rw [hc]
  exact Nat.le_trans (Nat.min_le_left _ _) hle

end Precedes

end Session

/-! ## Programs -/

/-- A program leaves the session older than it found it, or the same. -/
def Run.Ages (x : Run σ α) : Prop :=
  ∀ (env : Environment σ) (s : Session σ), s.Precedes (x env s).2

namespace Run.Ages

/-- That a program ages the session, as a triple. -/
theorem triple {x : Run σ α} (h : x.Ages) (s : Session σ) :
    Run.Triple env (· = s) x ⟨fun _ s' => s.Precedes s', fun _ s' => s.Precedes s'⟩ := by
  intro s' hs'
  subst hs'
  have h := h env s'
  revert h
  rcases x env s' with ⟨_ | _ | _, s''⟩ <;> exact id

/-- Reading the clock adds to the past and changes nothing else that counts. -/
theorem readClock : (Run.readClock : Run σ Int).Ages :=
  fun _ _ => .of_cancelAt_eq (Nat.le_refl _) rfl (List.suffix_cons _ _)

/-- A call that is made may cancel the deployment, but never takes a cancellation back. -/
theorem send (c : Call) : (Run.send c : Run σ _).Ages := by
  intro env s
  have hasked : ∀ remote, s.Precedes { s.log (.asked c s.now) with remote := remote } :=
    fun _ => .of_cancelAt_eq (Nat.le_refl _) rfl (List.suffix_cons _ _)
  simp only [Run.send]
  split
  · exact (hasked _).trans (.cancel _)
  · exact hasked _

/-- An answer that is taken adds to the past. -/
theorem collect {c : Call} (p : Pending σ c) : (Run.collect p).Ages :=
  fun _ _ => .of_cancelAt_eq (Nat.le_refl _) rfl (List.suffix_cons _ _)

/-- A delay that is drawn leaves no trace. -/
theorem drawDelay (schedule : Backoff) : (Run.drawDelay schedule : Run σ _).Ages :=
  fun _ _ => .of_cancelAt_eq (Nat.le_refl _) rfl List.suffix_rfl

end Run.Ages

/-! ## Work -/

/-- Work leaves the session older than it found it, or the same. -/
def Work.Ages (x : Work σ τ α) : Prop := ∀ t, (x t).Ages

/-- What is to hold when work ends in a session of a kind. -/
def Work.Post.given (Q : Work.Post σ τ α) (G : Session σ → Prop) : Work.Post σ τ α where
  ok t a s := G s → Q.ok t a s
  error t e s := G s → Q.error t e s
  halts e s := G s → Q.halts e s

/-- What is known only of sessions that are free of something stays known: a session that is free
of it in the end was so before. -/
theorem Work.Triple.given {P : τ → Session σ → Prop} {G : Session σ → Prop} {x : Work σ τ α}
    {Q : Work.Post σ τ α} (hG : ∀ s s', s.Precedes s' → G s' → G s) (hx : x.Ages)
    (h : Work.Triple env P x (Q.given G)) :
    Work.Triple env (fun t s => G s → P t s) x (Q.given G) := by
  intro t s hs
  have hages := hx t env s
  have h := h t s
  revert h hages
  rcases x t env s with ⟨⟨t', e | a⟩ | _ | _, s'⟩ <;>
    exact fun hages h hend => h (hs (hG _ _ hages hend)) hend

end Rollout
