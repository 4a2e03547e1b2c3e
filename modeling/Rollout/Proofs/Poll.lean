import Rollout.Proofs.Request
import Rollout.Session.Poll

/-!
# What a poll does

A poll repeats one request until an answer is accepted. Whatever one request preserves, given the
last answer that was not accepted, the poll preserves; and if it succeeds, its last answer was
accepted at the end of its past. What is proved of polls by induction on their rounds takes one
round by `Run.Triple.pollFor_round`.
-/

namespace Rollout

namespace PollRound

variable {ρ α : Type} {accept : ρ → Option α} {last last' : Option ρ}
variable {r : Except Interruption (Except ApiError ρ)}

/-- A poll is over when it is interrupted, refused for good, or given a reply that it accepts. -/
theorem judge_over {result : PollResult ρ α} (h : judge accept last r = .over result) :
    (∃ i, r = .error i ∧ result = ⟨last, .error (.interrupted i)⟩) ∨
      (∃ e, r = .ok (.error e) ∧ result = ⟨last, .error (.refused e)⟩) ∨
      ∃ reply a, r = .ok (.ok reply) ∧ accept reply = some a ∧ result = ⟨some reply, .ok a⟩ := by
  rcases r with i | e | reply
  · exact .inl ⟨i, rfl, (PollRound.over.inj h).symm⟩
  · cases he : e.isTransient with
    | true => simp [judge, he] at h
    | false => exact .inr (.inl ⟨e, rfl, by simpa [judge, he] using h.symm⟩)
  · cases ha : accept reply with
    | none => simp [judge, ha] at h
    | some a => exact .inr (.inr ⟨reply, a, rfl, ha, by simpa [judge, ha] using h.symm⟩)

/-- A poll goes on after an error that may pass, or a reply that it does not accept. -/
theorem judge_undecided (h : judge accept last r = .undecided last') :
    (∃ e, r = .ok (.error e) ∧ last' = last) ∨
      ∃ reply, r = .ok (.ok reply) ∧ last' = some reply := by
  rcases r with i | e | reply
  · cases h
  · cases he : e.isTransient with
    | true => exact .inl ⟨e, rfl, by simpa [judge, he] using h.symm⟩
    | false => simp [judge, he] at h
  · cases ha : accept reply with
    | none => exact .inr ⟨reply, rfl, by simpa [judge, ha] using h.symm⟩
    | some a => simp [judge, ha] at h

end PollRound

namespace Run

variable {σ ρ α : Type} {env : Environment σ}
variable {ask : Bounds → Nat → Run σ (Except Interruption (Except ApiError ρ))}
variable {accept : ρ → Option α} {b : Bounds} {deadline : Nat}

namespace Triple

variable {K : Option ρ → List Step → Prop} {A : ρ → List Step → Prop} {H : List Step → Prop}

/-- What holds when a round of a poll has its answer. -/
def Answered (K : Option ρ → List Step → Prop) (A : ρ → List Step → Prop) (last : Option ρ) :
    Except Interruption (Except ApiError ρ) → Session σ → Prop
  | .ok (.ok reply), s => K (some reply) s.past ∧ A reply s.past
  | _, s => K last s.past

/-- What holds when a poll is over. -/
def Polled (K : Option ρ → List Step → Prop) (A : ρ → List Step → Prop) (accept : ρ → Option α)
    (result : PollResult ρ α) (s : Session σ) : Prop :=
  K result.last s.past ∧ ∀ a, result.verdict = .ok a →
    ∃ reply, result.last = some reply ∧ accept reply = some a ∧ A reply s.past

/-- One round of a poll and what comes after it. A round that does not decide is followed by a
pause, and the pause by the rest of the rounds unless it is cut short. -/
theorem pollFor_round {s : Session σ} {rounds : Nat} {schedule : Backoff} {last : Option ρ}
    {R : Except Interruption (Except ApiError ρ) → Session σ → Prop}
    {Q : Run.Post σ (PollResult ρ α)}
    (hask : Run.Triple env (· = s) (ask b (deadline - s.now)) ⟨R, Q.halts⟩)
    (hover : ∀ r result s₁, R r s₁ → PollRound.judge accept last r = .over result →
      Q.done result s₁)
    (hnext : ∀ r last' s₁, R r s₁ → PollRound.judge accept last r = .undecided last' →
      Run.Triple env (· = s₁) (Run.pause b schedule)
        ⟨fun paused s₂ =>
          (∀ i, paused = .error i → Q.done ⟨last', .error (.interrupted i)⟩ s₂) ∧
          ∀ after, paused = .ok after →
            Run.Triple env (· = s₂) (Run.pollFor b deadline ask accept rounds after last') Q,
          Q.halts⟩) :
    Run.Triple env (· = s) (Run.pollFor b deadline ask accept (rounds + 1) schedule last) Q := by
  refine session_bind fun s' hs' => ?_
  subst hs'
  refine bind hask (fun r => at_session fun s₁ hs₁ => ?_) (fun _ _ h => h)
  rcases hjudge : PollRound.judge accept last r with result | last'
  · exact pure fun s₂ hs₂ => hs₂ ▸ hover r result s₁ hs₁ hjudge
  · refine bind (hnext r last' s₁ hs₁ hjudge) (fun paused => ?_) (fun _ _ h => h)
    cases paused with
    | error i => exact pure fun _ hs₂ => hs₂.1 i rfl
    | ok after => exact at_session fun s₂ hs₂ => hs₂.2 after rfl

/-- What every round keeps, a poll keeps, and the reply that it accepts is the last. -/
theorem pollFor
    (hask : ∀ b last left, Run.Triple env (K last ·.past) (ask b left)
      ⟨Answered K A last, fun _ s => H s.past⟩)
    (hH : ∀ last p, K last p → H p) (rounds : Nat) (schedule : Backoff) (last : Option ρ) :
    Run.Triple env (K last ·.past) (Run.pollFor b deadline ask accept rounds schedule last)
      ⟨Polled K A accept, fun _ s => H s.past⟩ := by
  -- By induction on the rounds that are left; the schedule and the last reply change.
  induction rounds generalizing schedule last with
  | zero => exact hang fun s hs => hH last s.past hs
  | succ rounds ih =>
    refine at_session fun s hs => pollFor_round ((hask b last _).pre fun s' hs' => hs' ▸ hs)
      (fun r result s₁ hs₁ hjudge => ?_) (fun r last' s₁ hs₁ hjudge => ?_)
    · rcases PollRound.judge_over hjudge with
        ⟨i, rfl, rfl⟩ | ⟨e, rfl, rfl⟩ | ⟨reply, a, rfl, haccept, rfl⟩
      · exact ⟨hs₁, nofun⟩
      · exact ⟨hs₁, nofun⟩
      · refine ⟨hs₁.1, fun a' ha => ?_⟩
        obtain rfl := Except.ok.inj ha
        exact ⟨reply, rfl, haccept, hs₁.2⟩
    · have hlast : K last' s₁.past := by
        rcases PollRound.judge_undecided hjudge with ⟨e, rfl, rfl⟩ | ⟨reply, rfl, rfl⟩
        · exact hs₁
        · exact hs₁.1
      -- A pause keeps what holds, and so does what comes after it.
      refine (pause (K := K last')).mono (fun _ h => h ▸ hlast)
        (fun paused s₂ hs₂ => ⟨fun i _ => ⟨hs₂, nofun⟩, fun after _ => ?_⟩)
        (fun _ s₂ hs₂ => hH last' s₂.past hs₂)
      exact (ih after last').pre fun _ h => h ▸ hs₂

/-- What every round keeps, a poll keeps that starts without a reply. -/
theorem poll {timeout : Nat} {schedule : Backoff}
    (hask : ∀ b last left, Run.Triple env (K last ·.past) (ask b left)
      ⟨Answered K A last, fun _ s => H s.past⟩)
    (hH : ∀ last p, K last p → H p) :
    Run.Triple env (K none ·.past) (Run.poll timeout schedule ask accept)
      ⟨Polled K A accept, fun _ s => H s.past⟩ := by
  refine bind (R := ⟨fun _ s => K none s.past, fun _ s => H s.past⟩) ?_
    (fun deadline => pollFor hask hH _ _ _) (fun _ _ h => h)
  intro s hs
  simp only [Run.deadlineAfter]
  split
  · exact hs
  · exact hH none s.past hs

end Triple

/-- A poll makes no calls but those of its rounds. -/
theorem Calls.poll {φ : Call → Prop} {timeout : Nat} {schedule : Backoff}
    (hask : ∀ b left, (ask b left).Calls φ) : (Run.poll timeout schedule ask accept).Calls φ := by
  refine of_triple fun env p => ?_
  refine (Triple.poll (K := fun _ p' => Adds φ p p') (A := fun _ _ => True)
    (H := fun p' => Adds φ p p') (fun b last left => ?_) (fun _ _ h => h)).mono
    (fun s hs => ?_) (fun _ _ h => h.1) (fun _ _ h => h)
  · -- Each round adds its own calls.
    refine ((hask b left).triple).mono (fun _ h => h) ?_ ?_
    · rintro (i | e | reply) s ⟨s₀, h₀, h⟩
      · exact h₀.trans h
      · exact h₀.trans h
      · exact ⟨h₀.trans h, trivial⟩
    · rintro e s ⟨s₀, h₀, h⟩
      exact h₀.trans h
  · exact Adds.refl.of_eq hs

end Run

end Rollout
