import Rollout.Session.Work

/-!
# Triples

A triple says how a program ends when it is started under a condition: with a result, waiting for
something that never comes, or beyond the range of the clock. Triples of work name the value that
is worked on as well, and tell success from failure.

The rules follow the ways in which programs are put together. The central ones are
`Run.Triple.bind` and `Work.Triple.bind`: what the first program leaves is what the second is
started with, and what it ends early with is what both end with.
-/

namespace Rollout

variable {σ τ ρ α β : Type} {env : Environment σ}

/-- The ways to end without a result. -/
inductive Halt where
  | stuck
  | panicked

/-! ## Programs -/

/-- What is to hold when a program ends. -/
structure Run.Post (σ α : Type) where
  done : α → Session σ → Prop
  halts : Halt → Session σ → Prop

/-- Whether a program that ended as it did satisfies a postcondition. -/
def Run.Post.Holds (Q : Run.Post σ α) : Ending α × Session σ → Prop
  | (.done a, s) => Q.done a s
  | (.stuck, s) => Q.halts .stuck s
  | (.panicked, s) => Q.halts .panicked s

/-- Whether a program ended with a result and a session that pass a check. On an ending that can be
computed this is decided by running the program. -/
def Run.endsWith (check : α → Session σ → Bool) : Ending α × Session σ → Bool
  | (.done a, s) => check a s
  | _ => false

/-- A check that is passed tells the result and the session. -/
theorem Run.exists_of_endsWith {check : α → Session σ → Bool} {ended : Ending α × Session σ}
    (h : Run.endsWith check ended = true) :
    ∃ a s, ended = (.done a, s) ∧ check a s = true := by
  -- Only an ending with a result passes a check.
  obtain ⟨a | _ | _, s⟩ := ended
  · exact ⟨a, s, rfl, h⟩
  · cases h
  · cases h

/-- A program that is started in a session with `P` ends with `Q`. -/
def Run.Triple (env : Environment σ) (P : Session σ → Prop) (x : Run σ α) (Q : Run.Post σ α) :
    Prop :=
  ∀ s, P s → Q.Holds (x env s)

namespace Run.Triple

variable {P P' : Session σ → Prop} {x : Run σ α} {f : α → Run σ β}

/-- A triple holds under a stronger condition and with weaker postconditions as well. -/
theorem mono {Q Q' : Run.Post σ α} (h : Run.Triple env P x Q) (hP : ∀ s, P' s → P s)
    (hdone : ∀ a s, Q.done a s → Q'.done a s) (hhalts : ∀ e s, Q.halts e s → Q'.halts e s) :
    Run.Triple env P' x Q' := by
  intro s hs
  have h := h s (hP s hs)
  revert h
  -- What is weakened depends on how the program ended.
  rcases x env s with ⟨_ | _ | _, s'⟩
  · exact hdone _ _
  · exact hhalts _ _
  · exact hhalts _ _

/-- A triple holds under a stronger condition. -/
theorem pre {Q : Run.Post σ α} (h : Run.Triple env P x Q) (hP : ∀ s, P' s → P s) :
    Run.Triple env P' x Q :=
  h.mono hP (fun _ _ hs => hs) fun _ _ hs => hs

/-- What two triples say of one program holds together. -/
theorem and {Q Q' : Run.Post σ α} (h : Run.Triple env P x Q) (h' : Run.Triple env P' x Q') :
    Run.Triple env (fun s => P s ∧ P' s) x
      ⟨fun a s => Q.done a s ∧ Q'.done a s, fun e s => Q.halts e s ∧ Q'.halts e s⟩ := by
  intro s hs
  have h := h s hs.1
  have h' := h' s hs.2
  revert h h'
  rcases x env s with ⟨_ | _ | _, s'⟩ <;> exact fun h h' => ⟨h, h'⟩

/-- What holds however a program ends holds of the session in which it ends. -/
theorem always {R : Session σ → Prop} (h : Run.Triple env P x ⟨fun _ => R, fun _ => R⟩)
    {s : Session σ} (hs : P s) : R (x env s).2 := by
  have h := h s hs
  revert h
  rcases x env s with ⟨_ | _ | _, s'⟩ <;> exact id

/-- What holds of a result holds of the one that a program ends with. -/
theorem of_done {Q : Run.Post σ α} (h : Run.Triple env P x Q) {s : Session σ} (hs : P s) {a : α}
    (ha : (x env s).1 = .done a) : Q.done a (x env s).2 := by
  have h := h s hs
  revert h ha
  rcases x env s with ⟨_ | _ | _, s'⟩
  · -- The two endings without a result are no results.
    rintro ⟨⟩
    exact id
  · exact nofun
  · exact nofun

/-- The past may be named beforehand. -/
theorem at_past {Q : Run.Post σ α}
    (h : ∀ p, Run.Triple env (fun s => P s ∧ s.past = p) x Q) : Run.Triple env P x Q :=
  fun s hs => h s.past s ⟨hs, rfl⟩

/-- The session may be named beforehand. -/
theorem at_session {Q : Run.Post σ α} (h : ∀ s, P s → Run.Triple env (· = s) x Q) :
    Run.Triple env P x Q :=
  fun s hs => h s hs s rfl

/-- What is known of the past is known beforehand. -/
theorem of_past {K : List Step → Prop} {Q : Run.Post σ α}
    (h : ∀ p, K p → Run.Triple env (·.past = p) x Q) : Run.Triple env (fun s => K s.past) x Q :=
  fun s hs => h s.past hs s rfl

/-- What is certain of something in the session may be named beforehand. -/
theorem of_exists {ι : Type} {P : ι → Session σ → Prop} {Q : Run.Post σ α}
    (h : ∀ i, Run.Triple env (P i) x Q) : Run.Triple env (fun s => ∃ i, P i s) x Q :=
  fun s hs => hs.elim fun i hs => h i s hs

/-- A fact beside the condition may be used beforehand. -/
theorem of_and {Q : Run.Post σ α} {p : Prop} (h : p → Run.Triple env P x Q) :
    Run.Triple env (fun s => p ∧ P s) x Q :=
  fun s hs => h hs.1 s hs.2

/-- A fact that has nothing to do with the session is known beforehand. -/
theorem extract {R : Session σ → Prop} {Q : Run.Post σ α} {p : Prop} (hP : ∀ s, P s → p ∧ R s)
    (h : p → Run.Triple env R x Q) : Run.Triple env P x Q :=
  (of_and h).pre hP

/-- A fact that has nothing to do with the session stays. -/
theorem fact {Q : Run.Post σ α} {p : Prop} (h : p → Run.Triple env P x Q) :
    Run.Triple env (fun s => p ∧ P s) x ⟨fun a s => p ∧ Q.done a s, Q.halts⟩ := by
  rintro s ⟨hp, hs⟩
  have h := h hp s hs
  revert h
  rcases x env s with ⟨_ | _ | _, s'⟩
  · exact fun h => ⟨hp, h⟩
  · exact id
  · exact id

/-- A program that only gives a result leaves the session alone. -/
theorem pure {Q : Run.Post σ α} {a : α} (h : ∀ s, P s → Q.done a s) :
    Run.Triple env P (Pure.pure a) Q :=
  fun s hs => h s hs

/-- One program after the other: what the first leaves is what the second is started with. If the
first ends without a result, so do both. -/
theorem bind {R : Run.Post σ α} {Q : Run.Post σ β} (hx : Run.Triple env P x R)
    (hf : ∀ a, Run.Triple env (R.done a) (f a) Q) (hhalts : ∀ e s, R.halts e s → Q.halts e s) :
    Run.Triple env P (x >>= f) Q := by
  intro s hs
  have h := hx s hs
  rw [bind_run]
  revert h
  -- The second program is run only if there is a result to run it on.
  rcases x env s with ⟨_ | _ | _, s'⟩
  · exact hf _ _
  · exact hhalts _ _
  · exact hhalts _ _

/-- A program may be looked at from one session at a time. -/
theorem session_bind {f : Session σ → Run σ β} {Q : Run.Post σ β}
    (h : ∀ s, P s → Run.Triple env (· = s) (f s) Q) : Run.Triple env P (session >>= f) Q :=
  fun s hs => h s hs s rfl

/-- A change of the session. -/
theorem change {Q : Run.Post σ Unit} {g : Session σ → Session σ}
    (h : ∀ s, P s → Q.done () (g s)) : Run.Triple env P (Run.change g) Q :=
  fun s hs => h s hs

/-- What never comes to an end holds what held before. -/
theorem hang {Q : Run.Post σ α} (h : ∀ s, P s → Q.halts .stuck s) :
    Run.Triple env P Run.hang Q :=
  fun s hs => h s hs

/-- Reading the clock leaves a trace of the time that was told. -/
theorem readClock {Q : Run.Post σ Int}
    (h : ∀ s time, P s →
      Q.done time { s.log (.looked time) with readings := s.readings + 1 }) :
    Run.Triple env P Run.readClock Q :=
  fun s hs => h s _ hs

end Run.Triple

/-! ## Work -/

/-- What is to hold when work on a value ends. -/
structure Work.Post (σ τ α : Type) where
  ok : τ → α → Session σ → Prop
  error : τ → DeployError → Session σ → Prop
  halts : Halt → Session σ → Prop

/-- The postcondition of work as one of the program that the work is. -/
def Work.Post.toRun (Q : Work.Post σ τ α) : Run.Post σ (τ × Except DeployError α) where
  done
    | (t, .ok a), s => Q.ok t a s
    | (t, .error e), s => Q.error t e s
  halts := Q.halts

/-- Work that is started on a value in a session with `P` ends with `Q`. -/
def Work.Triple (env : Environment σ) (P : τ → Session σ → Prop) (x : Work σ τ α)
    (Q : Work.Post σ τ α) : Prop :=
  ∀ t, Run.Triple env (P t) (x t) Q.toRun

namespace Work

variable {x : Work σ τ α} {t t' : τ} {s s' : Session σ}

/-- Work that did not fail is gone on from with the value that it leaves. -/
theorem bind_run {f : α → Work σ τ β} {a : α} (h : x t env s = (.done (t', .ok a), s')) :
    (x >>= f) t env s = f a t' env s' := by
  show Run.andThen (x t) _ env s = _
  unfold Run.andThen
  rw [h]

/-- An attempt ends as the work does, with the failure as its result. -/
theorem attempt_run {result : Except DeployError α} (h : x t env s = (.done (t', result), s')) :
    x.attempt t env s = (.done (t', .ok result), s') := by
  show Run.andThen (x t) _ env s = _
  unfold Run.andThen
  rw [h]
  rfl

/-- What goes on from an attempt depends on how the attempt ends only. -/
theorem attempt_bind_congr {y : Work σ τ α} {f : Except DeployError α → Work σ τ β}
    (h : x t env s = y t' env s') : (x.attempt >>= f) t env s = (y.attempt >>= f) t' env s' := by
  show Run.andThen (Run.andThen (x t) _) _ env s = Run.andThen (Run.andThen (y t') _) _ env s'
  unfold Run.andThen
  rw [h]

end Work

namespace Work.Triple

variable {P P' : τ → Session σ → Prop} {x : Work σ τ α} {f : α → Work σ τ β}

/-- A triple holds under a stronger condition and with weaker postconditions as well. -/
theorem mono {Q Q' : Work.Post σ τ α} (h : Work.Triple env P x Q)
    (hP : ∀ t s, P' t s → P t s) (hok : ∀ t a s, Q.ok t a s → Q'.ok t a s)
    (herror : ∀ t e s, Q.error t e s → Q'.error t e s)
    (hhalts : ∀ e s, Q.halts e s → Q'.halts e s) : Work.Triple env P' x Q' := by
  intro t
  refine (h t).mono (hP t) ?_ hhalts
  rintro ⟨t', e | a⟩ s
  · exact herror t' e s
  · exact hok t' a s

/-- A triple holds under a stronger condition. -/
theorem pre {Q : Work.Post σ τ α} (h : Work.Triple env P x Q) (hP : ∀ t s, P' t s → P t s) :
    Work.Triple env P' x Q :=
  h.mono hP (fun _ _ _ hs => hs) (fun _ _ _ hs => hs) fun _ _ hs => hs

/-- What holds however work ends holds of the session in which it ends. -/
theorem always {R : Session σ → Prop}
    (h : Work.Triple env P x ⟨fun _ _ s => R s, fun _ _ s => R s, fun _ s => R s⟩) {t : τ}
    {s : Session σ} (hs : P t s) : R (x t env s).2 := by
  have h := h t s hs
  revert h
  rcases x t env s with ⟨⟨_, _ | _⟩ | _ | _, s'⟩ <;> exact id

/-- What is certain of something may be named beforehand. -/
theorem of_exists {ι : Type} {P : ι → τ → Session σ → Prop} {Q : Work.Post σ τ α}
    (h : ∀ i, Work.Triple env (P i) x Q) : Work.Triple env (fun t s => ∃ i, P i t s) x Q :=
  fun t s hs => hs.elim fun i hs => h i t s hs

/-- A fact beside the condition may be used beforehand. -/
theorem of_and {Q : Work.Post σ τ α} {p : Prop} (h : p → Work.Triple env P x Q) :
    Work.Triple env (fun t s => p ∧ P t s) x Q :=
  fun t s hs => h hs.1 t s hs.2

/-- A fact that has nothing to do with the session is known beforehand. -/
theorem extract {R : τ → Session σ → Prop} {Q : Work.Post σ τ α} {p : Prop}
    (hP : ∀ t s, P t s → p ∧ R t s) (h : p → Work.Triple env R x Q) : Work.Triple env P x Q :=
  (of_and h).pre hP

/-- What two triples say of the same work holds together. -/
theorem and {Q Q' : Work.Post σ τ α} (h : Work.Triple env P x Q)
    (h' : Work.Triple env P' x Q') :
    Work.Triple env (fun t s => P t s ∧ P' t s) x
      ⟨fun t a s => Q.ok t a s ∧ Q'.ok t a s, fun t e s => Q.error t e s ∧ Q'.error t e s,
        fun e s => Q.halts e s ∧ Q'.halts e s⟩ := by
  intro t
  refine ((h t).and (h' t)).mono (fun _ hs => hs) ?_ (fun _ _ hs => hs)
  rintro ⟨t', e | a⟩ s hs <;> exact hs

/-- Work that only gives a result leaves the value and the session alone. -/
theorem pure {Q : Work.Post σ τ α} {a : α} (h : ∀ t s, P t s → Q.ok t a s) :
    Work.Triple env P (Pure.pure a) Q :=
  fun t s hs => h t s hs

/-- Work after work: a failure of the first is the failure of both, and nothing else is done then.
-/
theorem bind {R : Work.Post σ τ α} {Q : Work.Post σ τ β} (hx : Work.Triple env P x R)
    (hf : ∀ a, Work.Triple env (fun t s => R.ok t a s) (f a) Q)
    (herror : ∀ t e s, R.error t e s → Q.error t e s)
    (hhalts : ∀ e s, R.halts e s → Q.halts e s) : Work.Triple env P (x >>= f) Q := by
  intro t
  refine (hx t).bind ?_ hhalts
  rintro ⟨t', e | a⟩
  · exact Run.Triple.pure fun s hs => herror t' e s hs
  · exact hf a t'

/-- Work that fails does nothing else. -/
theorem fail {Q : Work.Post σ τ α} {e : DeployError} (h : ∀ t s, P t s → Q.error t e s) :
    Work.Triple env P (Work.fail e) Q :=
  fun t s hs => h t s hs

/-- Work that is decided already: it goes on with the result, or fails with the error. -/
theorem ofExcept {Q : Work.Post σ τ α} {r : Except DeployError α}
    (hok : ∀ a t s, r = .ok a → P t s → Q.ok t a s)
    (herror : ∀ e t s, r = .error e → P t s → Q.error t e s) :
    Work.Triple env P (Work.ofExcept r) Q := by
  cases r with
  | ok a => exact pure fun t s hs => hok a t s rfl hs
  | error e => exact fail fun t s hs => herror e t s rfl hs

/-- A program is work that leaves the value alone. -/
theorem lift {Q : Work.Post σ τ α} {y : Run σ α}
    (h : ∀ t, Run.Triple env (P t) y ⟨fun a s => Q.ok t a s, Q.halts⟩) :
    Work.Triple env P (Work.lift y) Q :=
  fun t => (h t).bind (fun _ => Run.Triple.pure fun _ hs => hs) fun _ _ hs => hs

/-- Work may be looked at from one value at a time. -/
theorem value_bind {f : τ → Work σ τ β} {Q : Work.Post σ τ β}
    (h : ∀ t, Work.Triple env (fun t' s => t' = t ∧ P t' s) (f t) Q) :
    Work.Triple env P (Work.value >>= f) Q :=
  fun t s hs => h t t s ⟨rfl, hs⟩

/-- Where the value is known, work on the value is work on that one. -/
theorem value_bind_of_eq {f : τ → Work σ τ β} {Q : Work.Post σ τ β} {t₀ : τ} {p : Session σ → Prop}
    (h : Work.Triple env (fun t s => t = t₀ ∧ p s) (f t₀) Q) :
    Work.Triple env (fun t s => t = t₀ ∧ p s) (Work.value >>= f) Q := by
  rintro t s ⟨rfl, hs⟩
  exact h t s ⟨rfl, hs⟩

/-- A change of the value leaves the session alone. -/
theorem change {Q : Work.Post σ τ Unit} {g : τ → τ} (h : ∀ t s, P t s → Q.ok (g t) () s) :
    Work.Triple env P (Work.change g) Q :=
  fun t s hs => h t s hs

/-- An attempt ends well both where the work does and where it fails. -/
theorem attempt {Q : Work.Post σ τ (Except DeployError α)}
    (h : Work.Triple env P x
      ⟨fun t a s => Q.ok t (.ok a) s, fun t e s => Q.ok t (.error e) s, Q.halts⟩) :
    Work.Triple env P x.attempt Q := by
  refine fun t => (h t).bind ?_ fun _ _ hs => hs
  rintro ⟨t', e | a⟩ <;> exact Run.Triple.pure fun _ hs => hs

/-- Whether an attempt succeeds or fails, it is gone on from there. -/
theorem attempt_bind {R : Work.Post σ τ α} {f : Except DeployError α → Work σ τ β}
    {Q : Work.Post σ τ β} (h : Work.Triple env P x R)
    (hok : ∀ a, Work.Triple env (fun t s => R.ok t a s) (f (.ok a)) Q)
    (herror : ∀ e, Work.Triple env (fun t s => R.error t e s) (f (.error e)) Q)
    (hhalts : ∀ e s, R.halts e s → Q.halts e s) : Work.Triple env P (x.attempt >>= f) Q := by
  have hattempt : Work.Triple env P x.attempt
      ⟨fun t result s => R.toRun.done (t, result) s, fun _ _ _ => False, R.halts⟩ :=
    attempt h
  refine bind hattempt (fun result => ?_) (fun _ _ _ h => h.elim) hhalts
  cases result with
  | ok a => exact hok a
  | error e => exact herror e

/-- Where work fails with other words, they are all that differs. -/
theorem mapError {Q : Work.Post σ τ α} {g : DeployError → DeployError}
    (h : Work.Triple env P x ⟨Q.ok, fun t e s => Q.error t (g e) s, Q.halts⟩) :
    Work.Triple env P (x.mapError g) Q := by
  refine fun t => (h t).bind ?_ fun _ _ hs => hs
  rintro ⟨t', e | a⟩ <;> exact Run.Triple.pure fun _ hs => hs

/-- Work on a part of a value: the rest of the value is the one that was there before. -/
theorem within {part : τ → ρ} {put : τ → ρ → τ} {y : Work σ ρ α} {Q : Work.Post σ τ α}
    (h : ∀ t, Run.Triple env (P t) (y (part t))
      (Work.Post.toRun ⟨fun p a s => Q.ok (put t p) a s, fun p e s => Q.error (put t p) e s,
        Q.halts⟩)) :
    Work.Triple env P (Work.within part put y) Q := by
  refine fun t => (h t).bind ?_ fun _ _ hs => hs
  rintro ⟨p, e | a⟩ <;> exact Run.Triple.pure fun _ hs => hs

end Work.Triple

end Rollout
