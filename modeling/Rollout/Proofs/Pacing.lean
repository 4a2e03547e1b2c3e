import Rollout.Proofs.Deciding

/-!
# The pace of a wait

A wait for a machine ends by its timeout, even if a call is never answered, and keeps its calls a
quarter of a second apart at least. So it makes so many calls at most as there are quarters begun
in its timeout, whatever checks the machine has and however the delays are jittered.

## Main statements

- `Handle.Paced`: what the pace of a wait is.
- `Handle.paced_wait`: the waits for a state, for health and for an event end and keep it.
-/

namespace Rollout.Handle

variable {σ ρ α : Type} {env : Environment σ}

/-- Whether a wait that was started in a session ended by its timeout and kept its calls apart. -/
structure Paced (timeout : Nat) (s s' : Session σ) : Prop where
  inTime : s'.now ≤ s.now + timeout
  calls : ∃ new, s'.past = new ++ s.past ∧
    (callTimesIn new).Pairwise (fun a b => a + 250 ≤ b) ∧
    (∀ time ∈ callTimesIn new, s.now ≤ time ∧ time < s.now + timeout) ∧
    (callTimesIn new).length ≤ (timeout + 249) / 250

variable {s s' : Session σ} {timeout : Nat}

/-- A wait that calls nothing and takes no time is paced. -/
theorem Paced.refl (s : Session σ) : Paced timeout s s :=
  ⟨Nat.le_add_right _ _, [], rfl, .nil, nofun, Nat.zero_le _⟩

/-- The calls that a poll leaves in the past are those of its course. -/
theorem Paced.of_course {q : Question ρ} {accept : ρ → Option α} {longest : Nat}
    {rounds : List (Round ρ)} {pending : Option Nat}
    (h : PollCourse env q accept longest timeout s s' rounds pending) : Paced timeout s s' := by
  refine ⟨h.overBy, q.past rounds pending, h.past, ?_⟩
  rw [q.callTimesIn_past]
  exact ⟨h.apart, h.called, length_le_of_apart (by decide) h.apart h.called⟩

/-- The waits for a state, for health and for an event end by their timeout and keep their pace. -/
theorem paced_wait (h : Handle) (env : Environment σ) (s : Session σ) (timeout : Nat)
    (hrange : env.uptime + s.now + timeout < Run.clockRange) :
    (∀ state, ∃ result s', waitForState state timeout h env s = (.done result, s') ∧
      Paced timeout s s') ∧
    (∃ result s', waitForHealth timeout h env s = (.done result, s') ∧ Paced timeout s s') ∧
    ∀ kind after, ∃ result s', waitForEvent kind after timeout h env s = (.done result, s') ∧
      Paced timeout s s' := by
  refine ⟨fun state => ?_, ?_, fun kind after => ?_⟩
  · -- Each wait is a poll, but for one that has no checks to wait for.
    obtain ⟨result, s', rounds, pending, hrun, hdecided⟩ :=
      waitForState_decided (h := h) state s hrange
    exact ⟨_, s', hrun, .of_course hdecided.toPollCourse⟩
  · cases hchecks : h.machine.config.checks.isEmpty with
    | true => exact ⟨_, s, waitForHealth_unchecked hchecks, .refl s⟩
    | false =>
      obtain ⟨result, s', rounds, pending, hrun, hdecided⟩ := waitForHealth_decided hchecks s hrange
      exact ⟨_, s', hrun, .of_course hdecided.toPollCourse⟩
  · obtain ⟨result, s', rounds, pending, hrun, hdecided⟩ := fetchUntil_decided (h := h)
      (kind ++ " event") Backoff.poll_steady (·.latestEventAfter? kind after) s hrange
    exact ⟨_, s', hrun, .of_course hdecided.toPollCourse⟩

/-- An outside where no request gets through, and all delays are as short as they may be. -/
def unreachable : Environment Unit :=
  { Environment.obliging with
    receive := fun _ _ st =>
      { remote := st, delay := some 0, answer := (·, .error (.transport "connection refused")) }
    jitter := fun _ => -1000000000 }

set_option maxRecDepth 2000 in
/-- With the shortest delays the calls are still so far apart. -/
theorem paced_wait_unreachable :
    let run := waitForState .started 1000 { machine := { id := "web" } } unreachable
      { remote := () }
    unreachable.uptime + 0 + 1000 < Run.clockRange ∧
    callTimesIn run.2.past = [0, 250, 750] ∧ run.2.now = 1000 ∧
    Paced 1000 { remote := () } run.2 := by
  have hrange : unreachable.uptime + 0 + 1000 < Run.clockRange := by decide
  obtain ⟨result, s', hrun, hpaced⟩ :=
    (paced_wait { machine := { id := "web" } } unreachable { remote := () } 1000 hrange).1 .started
  refine ⟨hrange, by decide, by decide, ?_⟩
  rw [hrun]
  exact hpaced

end Rollout.Handle
