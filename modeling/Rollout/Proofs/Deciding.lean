import Rollout.Proofs.Events
import Rollout.Proofs.HealthGate
import Rollout.Proofs.Liveness
import Rollout.Proofs.Polling

/-!
# What decides a wait

A wait for a machine polls until an answer decides it: a reply that meets the condition, or an error
that does not pass. Errors that may pass and replies that don't meet the condition let it go on.
Where the cancellation or the deadline comes before an answer that decides, the wait ends with it,
and if both are in force it is the cancellation that is told.

## Main statements

- `Handle.Decided`: what is certain of a wait that is over.
- `Handle.decisive_wait`: this holds of the waits for a state, for health and for an event, and the
  waits that fetch the machine leave it as it was fetched last.
-/

namespace Rollout

variable {σ ρ α : Type} {env : Environment σ}

/-- Errors that may pass are those of the transport and the statuses 408, 429 and 500 and above. -/
theorem ApiError.isTransient_iff (e : ApiError) : e.isTransient = true ↔
    (∃ message, e = .transport message) ∨
      ∃ code message, e = .status code message ∧ (code = 408 ∨ code = 429 ∨ 500 ≤ code) := by
  cases e <;> simp [isTransient, or_assoc]

/-! ## The errors of a wait -/

/-- A result is one whatever its errors are called. -/
theorem mapError_eq_ok_iff {ε ε' : Type} {f : ε → ε'} {x : Except ε α} {a : α} :
    x.mapError f = .ok a ↔ x = .ok a := by
  cases x <;> simp [Except.mapError]

/-- A failure is told by its error. -/
theorem PollFailure.error_inj {f f' : PollFailure} {what id : String} :
    f.error what id = f'.error what id ↔ f = f' := by
  rcases f with (_ | _) | _ <;> rcases f' with (_ | _) | _ <;>
    simp [error, Interruption.error]

/-- The error tells the failure that it stands for. -/
theorem PollFailure.mapError_eq_error_iff {x : Except PollFailure α} {f : PollFailure}
    {what id : String} :
    x.mapError (·.error what id) = .error (f.error what id) ↔ x = .error f := by
  cases x <;> simp [Except.mapError, error_inj]

/-! ## How a poll is settled -/

/-- Whether a wait ended with an interruption: right with the cancellation, if it was not canceled
at the start already, or at its deadline without having been canceled. -/
def Interruption.Ends (i : Interruption) (deadline : Nat) (s s' : Session σ) : Prop :=
  match i with
  | .canceled => ∃ t, s'.cancelAt = some t ∧ s'.now = max s.now t
  | .timedOut => s'.isCanceled = false ∧ s'.now = deadline

/-- It is the cancellation that a wait ended with exactly if it was canceled. -/
theorem Interruption.Ends.eq_canceled_iff {i : Interruption} {deadline : Nat} {s s' : Session σ}
    (h : i.Ends deadline s s') : i = .canceled ↔ s'.isCanceled = true := by
  cases i with
  | canceled =>
    obtain ⟨t, ht, hnow⟩ := h
    exact iff_of_true rfl (Session.isCanceled_iff.mpr ⟨t, ht, by omega⟩)
  | timedOut =>
    rw [h.1]
    simp

/-- How a poll was settled: by its last answer, which is the first one that decides it, or by an
interruption when no answer had decided it. -/
def Settled (accept : ρ → Option α) (deadline : Nat) (s s' : Session σ) (rounds : List (Round ρ))
    (pending : Option Nat) (verdict : Except PollFailure α) : Prop :=
  (∃ before r, rounds = before ++ [r] ∧ pending = none ∧ (∀ x ∈ before, x.verdict? accept = none) ∧
    r.verdict? accept = some verdict ∧ s'.now = r.answered) ∨
  ∃ i, verdict = .error (.interrupted i) ∧ (∀ x ∈ rounds, x.verdict? accept = none) ∧
    i.Ends deadline s s'

namespace Settled

variable {accept : ρ → Option α} {deadline : Nat} {s s' : Session σ} {rounds : List (Round ρ)}
variable {pending : Option Nat} {verdict : Except PollFailure α}

/-- What was in force at the start settles a poll before it has asked. -/
theorem of_interruption? {i : Interruption} {timeout : Nat}
    (h : Bounds.interruption? { deadline := some (s.now + timeout) } s = some i) :
    Settled (ρ := ρ) accept (s.now + timeout) s s [] none (.error (.interrupted i)) := by
  refine .inr ⟨i, rfl, nofun, ?_⟩
  have hforce := Bounds.inForce_of_interruption? h
  cases i with
  | canceled =>
    -- A cancellation is in force: it came before the poll.
    obtain ⟨t, ht, hle⟩ := Session.isCanceled_iff.mp hforce.2
    exact ⟨t, ht, (Nat.max_eq_left hle).symm⟩
  | timedOut =>
    -- A deadline is reported only where there is no cancellation.
    obtain ⟨d, hd, hle⟩ := hforce
    obtain rfl := Option.some.inj hd
    refine ⟨?_, by omega⟩
    by_contra hcanceled
    rw [Bounds.interruption?_of_isCanceled rfl (by simpa using hcanceled)] at h
    cases h

/-- A poll that took a course was settled. -/
theorem of_polling {longest : Nat} (h : Polling deadline s'.cancelAt longest accept s.now rounds
    pending verdict s'.now) : Settled accept deadline s s' rounds pending verdict := by
  refine h.settles.imp_right fun ⟨i, hverdict, hall, hstrikes⟩ => ⟨i, hverdict, hall, ?_⟩
  have hle := h.le_ended
  cases i with
  | canceled => exact ⟨s'.now, hstrikes.1, (Nat.max_eq_right hle).symm⟩
  | timedOut =>
    refine ⟨?_, hstrikes.1⟩
    -- Had it been canceled by then, the cancellation would have struck first.
    by_contra hcanceled
    obtain ⟨t, ht, hbefore⟩ := Session.isCanceled_iff.mp (by simpa using hcanceled)
    have hlater := hstrikes.2 t ht
    have hnow := hstrikes.1
    omega

variable (h : Settled accept deadline s s' rounds pending verdict)
include h

/-- An answer that decides a poll gives its verdict, and is the last there is. -/
theorem of_decides {before behind : List (Round ρ)} {r : Round ρ} {v : Except PollFailure α}
    (hrounds : rounds = before ++ r :: behind) (hdecides : r.verdict? accept = some v) :
    verdict = v ∧ behind = [] ∧ pending = none ∧ s'.now = r.answered := by
  rcases h with ⟨before', r', hrounds', hpending, hbefore, hdecides', hnow⟩ | ⟨i, -, hall, -⟩
  · -- None of the answers before the last one decides.
    have hlast : r ∉ before' := by
      intro hmem
      rw [hbefore r hmem] at hdecides
      cases hdecides
    obtain ⟨rfl, rfl⟩ : behind = [] ∧ r = r' := by
      rcases List.eq_nil_or_concat behind with rfl | ⟨behind, x, rfl⟩
      · exact ⟨rfl, List.singleton_inj.mp (List.append_inj' (hrounds.symm.trans hrounds') rfl).2⟩
      · have heq : before ++ r :: behind ++ [x] = before' ++ [r'] := by
          rw [← hrounds', hrounds]
          simp
        have hbefore' := (List.append_inj' heq rfl).1
        exact absurd (hbefore' ▸ by simp) hlast
    exact ⟨Option.some.inj (hdecides'.symm.trans hdecides), rfl, hpending, hnow⟩
  · -- A poll that is interrupted had no answer that decides.
    have hnone := hall r (by simp [hrounds])
    rw [hdecides] at hnone
    cases hnone

/-- A verdict that is no interruption is what an answer decides. -/
theorem verdict_iff {v : Except PollFailure α} (hv : ∀ i, v ≠ .error (.interrupted i)) :
    verdict = v ↔ ∃ r ∈ rounds, r.verdict? accept = some v := by
  constructor
  · rintro rfl
    -- The last answer gives the verdict.
    rcases h with ⟨before, r, rfl, -, -, hdecides, -⟩ | ⟨i, hverdict, -, -⟩
    · exact ⟨r, by simp, hdecides⟩
    · exact absurd hverdict (hv i)
  · rintro ⟨r, hr, hdecides⟩
    obtain ⟨before, behind, hrounds⟩ := List.append_of_mem hr
    exact (h.of_decides hrounds hdecides).1

/-- An interruption settles a poll exactly if no answer decides it. -/
theorem interrupted_iff {i : Interruption} : verdict = .error (.interrupted i) ↔
    (∀ r ∈ rounds, r.verdict? accept = none) ∧ (i = .canceled ↔ s'.isCanceled = true) := by
  rcases h with ⟨before, r, rfl, -, -, hdecides, -⟩ | ⟨i', rfl, hall, hends⟩
  · constructor
    · rintro rfl
      -- An answer never decides for an interruption.
      obtain ⟨e, he, -⟩ := Round.verdict?_eq_error_iff.mp hdecides
      cases he
    · rintro ⟨hall, -⟩
      rw [hall r (by simp)] at hdecides
      cases hdecides
  · have hcanceled := hends.eq_canceled_iff
    constructor
    · intro heq
      obtain rfl : i' = i := by simpa using heq
      exact ⟨hall, hcanceled⟩
    · rintro ⟨-, hcanceled'⟩
      -- There are two interruptions only, so to be the cancellation settles which.
      have hiff : i' = .canceled ↔ i = .canceled := hcanceled.trans hcanceled'.symm
      cases i <;> cases i' <;> simp_all

/-- A poll that no answer decides is over when an interruption strikes. -/
theorem undecided (hall : ∀ r ∈ rounds, r.verdict? accept = none) :
    (∃ t, s'.cancelAt = some t ∧ s'.now = max s.now t) ∨
      s'.isCanceled = false ∧ s'.now = deadline := by
  rcases h with ⟨before, r, rfl, -, -, hdecides, -⟩ | ⟨i, -, -, hends⟩
  · rw [hall r (by simp)] at hdecides
    cases hdecides
  · cases i with
    | canceled => exact .inl hends
    | timedOut => exact .inr hends

end Settled

/-! ## The course of a poll -/

/-- The course that a poll took which was started in a session, given its rounds and a call that was
left without an answer. -/
structure PollCourse (env : Environment σ) (q : Question ρ) (accept : ρ → Option α)
    (longest timeout : Nat) (s s' : Session σ) (rounds : List (Round ρ)) (pending : Option Nat) :
    Prop where
  /-- What happened are the rounds and the call that was left. -/
  past : s'.past = q.past rounds pending ++ s.past
  /-- The answers are those of the outside, and it had none for the call that was left. -/
  hears : q.Hears env s'.now s.outside rounds pending s'.outside
  /-- The first call is made at once, unless the poll is over at once. -/
  begins : (Polling.firstCall? rounds pending).getD s'.now = s.now
  /-- An answer that decides nothing does not end the poll: another call follows within the longest
  pause, unless the poll is over before for another reason. -/
  goesOn : ∀ before r behind, rounds = before ++ r :: behind → r.verdict? accept = none →
    (Polling.firstCall? behind pending).getD s'.now ≤ r.answered + longest
  /-- Every answer came before the deadline and before the cancellation. -/
  inTime : ∀ r ∈ rounds, r.InTime (s.now + timeout) s'.cancelAt
  apart : (Polling.calls rounds pending).Pairwise (fun a b => a + Run.shortestPause ≤ b)
  /-- No call is made at the deadline or later. -/
  called : ∀ time ∈ Polling.calls rounds pending, s.now ≤ time ∧ time < s.now + timeout
  overBy : s'.now ≤ s.now + timeout

/-- A poll takes a course and is settled, and tells the last reply. -/
theorem PollCourse.of_poll {q : Question ρ} {accept : ρ → Option α} {longest timeout : Nat}
    {s s' : Session σ} {result : PollResult ρ α}
    (h : (∃ i, Bounds.interruption? { deadline := some (s.now + timeout) } s = some i ∧
        result = ⟨none, .error (.interrupted i)⟩ ∧ s' = s) ∨
      ∃ rounds pending,
        q.Took env accept (s.now + timeout) longest none s result s' rounds pending) :
    ∃ rounds pending, PollCourse env q accept longest timeout s s' rounds pending ∧
      Settled accept (s.now + timeout) s s' rounds pending result.verdict ∧
      result.last = Round.last none rounds := by
  rcases h with ⟨i, hforce, rfl, rfl⟩ | ⟨rounds, pending, htook⟩
  · -- The poll was over before it asked.
    exact ⟨[], none, ⟨rfl, .nothing, rfl, by simp, by simp, .nil, nofun, by omega⟩,
      .of_interruption? hforce, rfl⟩
  · have hpolling := htook.polling
    refine ⟨rounds, pending, ⟨htook.past, htook.hears, ?_, fun _ _ _ => hpolling.goesOn,
      hpolling.inTime, hpolling.pairwise_calls, fun _ => hpolling.mem_calls, hpolling.ended_le⟩,
      .of_polling hpolling, htook.last⟩
    rw [hpolling.firstCall?_eq]
    rfl

/-! ## Waits for a machine -/

namespace Handle

variable {h : Handle} {s s' : Session σ} {timeout longest : Nat} {what id : String}
variable {q : Question ρ} {accept : ρ → Option α} {rounds : List (Round ρ)} {pending : Option Nat}

/-- How a wait went and what it gave, given its rounds and a call that was left without an
answer. -/
structure Decided (env : Environment σ) (q : Question ρ) (accept : ρ → Option α) (what id : String)
    (longest timeout : Nat) (s : Session σ) (result : Except DeployError α) (s' : Session σ)
    (rounds : List (Round ρ)) (pending : Option Nat) : Prop extends
    PollCourse env q accept longest timeout s s' rounds pending where
  /-- An answer that decides ends the wait when it comes. -/
  ends : ∀ before r behind, rounds = before ++ r :: behind → r.verdict? accept ≠ none →
    behind = [] ∧ pending = none ∧ s'.now = r.answered
  accepted : ∀ a, result = .ok a ↔
    ∃ r ∈ rounds, ∃ reply, r.reply = .ok reply ∧ accept reply = some a
  refused : ∀ e, result = .error (.poll id e) ↔
    ∃ r ∈ rounds, r.reply = .error e ∧ e.isTransient = false
  canceled : result = .error (.canceled what id) ↔
    (∀ r ∈ rounds, r.verdict? accept = none) ∧ s'.isCanceled = true
  timedOut : result = .error (.timeout what id) ↔
    (∀ r ∈ rounds, r.verdict? accept = none) ∧ s'.isCanceled = false
  /-- A wait that no answer decides ends at the moment of the cancellation, or at the deadline. -/
  undecided : (∀ r ∈ rounds, r.verdict? accept = none) →
    (∃ t, s'.cancelAt = some t ∧ s'.now = max s.now t) ∨
      s'.isCanceled = false ∧ s'.now = s.now + timeout

/-- The errors of a wait tell how its poll was settled. -/
theorem Decided.of_settled {verdict : Except PollFailure α}
    (hcourse : PollCourse env q accept longest timeout s s' rounds pending)
    (hsettled : Settled accept (s.now + timeout) s s' rounds pending verdict) (what id : String) :
    Decided env q accept what id longest timeout s (verdict.mapError (·.error what id)) s' rounds
      pending where
  toPollCourse := hcourse
  ends before r behind hrounds hdecides := by
    obtain ⟨v, hv⟩ := Option.ne_none_iff_exists'.mp hdecides
    exact (hsettled.of_decides hrounds hv).2
  accepted a := by
    rw [mapError_eq_ok_iff, hsettled.verdict_iff (by simp)]
    simp only [Round.verdict?_eq_ok_iff]
  refused e := by
    -- The texts of the three failures differ, so the error tells the failure.
    have herror : DeployError.poll id e = (PollFailure.refused e).error what id := rfl
    rw [herror, PollFailure.mapError_eq_error_iff, hsettled.verdict_iff (by simp)]
    simp only [Round.verdict?_eq_error_iff, PollFailure.refused.injEq, exists_eq_left']
  canceled := by
    have herror : DeployError.canceled what id =
        (PollFailure.interrupted .canceled).error what id := rfl
    rw [herror, PollFailure.mapError_eq_error_iff, hsettled.interrupted_iff]
    simp
  timedOut := by
    have herror : DeployError.timeout what id =
        (PollFailure.interrupted .timedOut).error what id := rfl
    rw [herror, PollFailure.mapError_eq_error_iff, hsettled.interrupted_iff]
    simp
  undecided := hsettled.undecided

/-! ### What the waits ask -/

/-- What a wait for a state asks: a call that is left the time up to the deadline. -/
def waiting (m : Machine) (state : Machine.State) (deadline : Nat) : Question Unit where
  call time := .wait m state (deadline - time)
  note time reply := .answered (.wait m state (deadline - time)) reply

/-- What a wait asks that fetches the machine. -/
def fetching (id : String) : Question Machine where
  call _ := .get id
  note _ reply := .answered (.get id) reply

/-- A request is not made where something is in force that interrupts it. -/
theorem request_barred {b : Bounds} {c : Call} {i : Interruption}
    (h : b.interruption? s = some i) : Run.request b c env s = (.done (.error i), s) := by
  simp only [Run.request, Run.bind_run, Run.session, h]
  rfl

/-- A round of a wait for a state asks for the time that is left. -/
theorem asksOf_waiting (m : Machine) (state : Machine.State) (deadline : Nat) :
    Run.Triple.AsksOf env (waiting m state deadline) deadline
      (fun b left => Run.request b (.wait m state left)) where
  asked s hfree := by
    refine (Run.Triple.request_round hfree).mono (fun _ hs => hs) (fun result s' hs' => ?_)
      (fun _ _ hs => hs)
    obtain ⟨hsince, hs'⟩ := hs'
    -- It is interrupted, or it is replied to in time.
    rcases result with i | reply
    · exact ⟨hsince, hs'⟩
    · obtain ⟨hpast, hanswers, hintime⟩ := hs'
      exact ⟨hsince, hpast, ⟨hanswers.arrives, hanswers.reply, hanswers.after⟩, hintime⟩
  barred _ _ _ := request_barred

/-- A round of a poll that fetches asks for the machine. -/
theorem asksOf_fetching (id : String) (deadline : Nat) :
    Run.Triple.AsksOf env (fetching id) deadline (fun b _ => Run.request b (.get id)) where
  asked _ := Run.Triple.request_round
  barred _ _ _ := request_barred

/-! ### What decides them -/

/-- The handle after a wait that fetched the machine: it holds the machine as it was last
fetched. -/
def fetched (h : Handle) (rounds : List (Round Machine)) : Handle :=
  { h with machine := (Round.last none rounds).getD h.machine }

/-- A wait for a state takes a course, and its result tells how it was decided. -/
theorem waitForState_decided (state : Machine.State) (s : Session σ)
    (hrange : env.uptime + s.now + timeout < Run.clockRange) :
    ∃ result s' rounds pending, waitForState state timeout h env s = (.done (h, result), s') ∧
      Decided env (waiting h.machine state (s.now + timeout)) some ("state " ++ state.name) h.id
        Backoff.poll.longest timeout s result s' rounds pending := by
  have hpoll : Run.Triple env (· = s) (Run.poll timeout .poll
      (fun b left => Run.request b (.wait h.machine state left)) some) _ :=
    Run.Triple.poll_took Backoff.poll_steady s (asksOf_waiting h.machine state _) hrange
  obtain ⟨result, s', hrun, hpost⟩ := hpoll.returns
  obtain ⟨rounds, pending, hcourse, hsettled, -⟩ := PollCourse.of_poll hpost
  refine ⟨_, s', rounds, pending, ?_, .of_settled hcourse hsettled _ _⟩
  simp only [waitForState, Run.bind_run, hrun]
  rfl

/-- A poll that fetches takes a course, and its result tells how it was decided. -/
theorem fetchUntil_decided (what : String) {schedule : Backoff} (hsteady : schedule.Steady)
    (accept : Machine → Option α) (s : Session σ)
    (hrange : env.uptime + s.now + timeout < Run.clockRange) :
    ∃ result s' rounds pending,
      fetchUntil what schedule accept timeout h env s = (.done (h.fetched rounds, result), s') ∧
      Decided env (fetching h.id) accept what h.id schedule.longest timeout s result s' rounds
        pending := by
  have hpoll : Run.Triple env (· = s) (Run.poll timeout schedule
      (fun b _ => Run.request b (.get h.id)) accept) _ :=
    Run.Triple.poll_took hsteady s (asksOf_fetching h.id _) hrange
  obtain ⟨result, s', hrun, hpost⟩ := hpoll.returns
  obtain ⟨rounds, pending, hcourse, hsettled, hlast⟩ := PollCourse.of_poll hpost
  refine ⟨_, s', rounds, pending, ?_, .of_settled hcourse hsettled _ _⟩
  simp only [fetchUntil, Run.bind_run, hrun, fetched, ← hlast]
  rfl

/-- Without checks a wait for health is over at once. -/
theorem waitForHealth_unchecked (hchecks : h.machine.config.checks.isEmpty = true) :
    waitForHealth timeout h env s = (.done (h, .ok ()), s) := by
  change (if h.machine.config.checks.isEmpty then pure () else
    fetchUntil _ _ _ timeout : Work σ Handle Unit) h env s = _
  rw [hchecks]
  rfl

/-- A wait for health that has checks to wait for is a poll that fetches. -/
theorem waitForHealth_decided (hchecks : h.machine.config.checks.isEmpty = false) (s : Session σ)
    (hrange : env.uptime + s.now + timeout < Run.clockRange) :
    ∃ result s' rounds pending,
      waitForHealth timeout h env s = (.done (h.fetched rounds, result), s') ∧
      Decided env (fetching h.id) (fun m => if m.health.allPassing then some () else none)
        "health checks to pass" h.id (Backoff.health (healthInterval h.machine.config)).longest
        timeout s result s' rounds pending := by
  have hsteady := Backoff.health_steady (perSecond_le_healthInterval h.machine.config)
  change ∃ result s' rounds pending, (if h.machine.config.checks.isEmpty then pure () else
    fetchUntil _ _ _ timeout : Work σ Handle Unit) h env s = _ ∧ _
  rw [hchecks]
  exact fetchUntil_decided _ hsteady _ s hrange

/-- A machine that is accepted is the one that was fetched last. -/
theorem Decided.accept_fetched {accept : Machine → Option α} {rounds : List (Round Machine)}
    {q : Question Machine} {result : Except DeployError α} {a : α}
    (hdecided : Decided env q accept what id longest timeout s result s' rounds pending)
    (hok : result = .ok a) : accept (h.fetched rounds).machine = some a := by
  obtain ⟨r, hr, m, hreply, haccept⟩ := (hdecided.accepted a).mp hok
  obtain ⟨before, behind, rfl⟩ := List.append_of_mem hr
  have hdecides := Round.verdict?_eq_ok_iff.mpr ⟨m, hreply, haccept⟩
  -- The answer that was accepted is the last one.
  obtain ⟨rfl, -, -⟩ := hdecided.ends before r behind rfl (by simp [hdecides])
  have hlast : Round.last none (before ++ [r]) = some m := by
    simp [Round.last, hreply, Except.toOption]
  rw [fetched, hlast]
  exact haccept

/-- The first answer that decides settles a wait for a state, for health or for an event. Errors
that may pass and replies that don't meet the condition let it go on, and where no answer decides it
ends with the cancellation or the deadline. The waits that fetch the machine leave it as it was
fetched last. -/
theorem decisive_wait (h : Handle) (env : Environment σ) (s : Session σ) (timeout : Nat)
    (hrange : env.uptime + s.now + timeout < Run.clockRange) :
    (∀ state, ∃ result s' rounds pending,
      waitForState state timeout h env s = (.done (h, result), s') ∧
      Decided env (waiting h.machine state (s.now + timeout)) some ("state " ++ state.name) h.id
        Backoff.poll.longest timeout s result s' rounds pending) ∧
    (h.machine.config.checks.isEmpty = false → ∃ result s' rounds pending,
      waitForHealth timeout h env s = (.done (h.fetched rounds, result), s') ∧
      Decided env (fetching h.id) (fun m => if m.health.allPassing then some () else none)
        "health checks to pass" h.id (Backoff.health (healthInterval h.machine.config)).longest
        timeout s result s' rounds pending) ∧
    (∀ kind after, ∃ result s' rounds pending,
      waitForEvent kind after timeout h env s = (.done (h.fetched rounds, result), s') ∧
      Decided env (fetching h.id) (·.latestEventAfter? kind after) (kind ++ " event") h.id
        Backoff.poll.longest timeout s result s' rounds pending ∧
      (∀ e, result = .ok e ↔ ∃ r ∈ rounds, ∃ m, r.reply = .ok m ∧
        Machine.Event.LatestAfter kind after m.events e) ∧
      ∀ e, result = .ok e →
        Machine.Event.LatestAfter kind after (h.fetched rounds).machine.events e) ∧
    ∀ e : ApiError, e.isTransient = true ↔ (∃ message, e = .transport message) ∨
      ∃ code message, e = .status code message ∧ (code = 408 ∨ code = 429 ∨ 500 ≤ code) := by
  refine ⟨fun state => waitForState_decided state s hrange,
    fun hchecks => waitForHealth_decided hchecks s hrange, fun kind after => ?_,
    fun e => e.isTransient_iff⟩
  obtain ⟨result, s', rounds, pending, hrun, hdecided⟩ := fetchUntil_decided (h := h)
    (kind ++ " event") Backoff.poll_steady (·.latestEventAfter? kind after) s hrange
  -- What the third wait accepts is the latest event of the kind after the other.
  have hlatest (m : Machine) (e : Machine.Event) : m.latestEventAfter? kind after = some e ↔
      Machine.Event.LatestAfter kind after m.events e :=
    Machine.Event.latestAfter?_eq_some_iff
  refine ⟨result, s', rounds, pending, hrun, hdecided, fun e => ?_, fun e hok => ?_⟩
  · rw [hdecided.accepted]
    simp only [hlatest]
  · exact (hlatest _ _).mp (hdecided.accept_fetched hok)

/-- An outside whose services fail at first, then show a machine that has not reported, and then one
that is well. -/
def wavering : Environment Nat where
  receive c _ n :=
    { remote := n + 1, delay := some (10 * n), answer := fun n => (n, match c, n with
      | .get _, 1 => .error (.status 503 "unavailable")
      | .get _, 2 => .ok (checked "alive" [])
      | .get _, _ => .ok (checked "alive" [{ name := "alive" }])
      | c, _ => Environment.oblige c) }
  clock _ _ := 0
  jitter _ := 0
  uptime := 0

set_option maxRecDepth 16000 in
/-- A wait that survives an error and a machine that has not reported. -/
theorem decisive_wait_wavering :
    let h : Handle := { machine := checked "alive" [] }
    let run := waitForHealth 600000 h wavering { remote := 0 }
    wavering.uptime + 0 + 600000 < Run.clockRange ∧ h.machine.config.checks.isEmpty = false ∧
    run.1 = .done ({ machine := checked "alive" [{ name := "alive" }] }, .ok ()) ∧
    callTimesIn run.2.past = [0, 60000, 180010] ∧
    ∃ rounds pending,
      Decided wavering (fetching "web") (fun m => if m.health.allPassing then some () else none)
        "health checks to pass" "web" (Backoff.health (healthInterval h.machine.config)).longest
        600000 { remote := 0 } (.ok ()) run.2 rounds pending := by
  have hrange : wavering.uptime + 0 + 600000 < Run.clockRange := by decide
  have hends : (waitForHealth 600000 { machine := checked "alive" [] } wavering
      { remote := 0 }).1 =
      .done ({ machine := checked "alive" [{ name := "alive" }] }, .ok ()) := by
    with_unfolding_all rfl
  refine ⟨hrange, by decide, hends, by decide, ?_⟩
  obtain ⟨result, s', rounds, pending, hrun, hdecided⟩ :=
    (decisive_wait { machine := checked "alive" [] } wavering { remote := 0 } 600000
      hrange).2.1 (by decide)
  rw [hrun] at hends ⊢
  obtain rfl : result = .ok () := (Prod.mk.inj (Ending.done.inj hends)).2
  exact ⟨rounds, pending, hdecided⟩

end Handle

end Rollout
