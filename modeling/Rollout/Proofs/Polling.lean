import Rollout.Proofs.Heeding
import Rollout.Proofs.Rounds

/-!
# Polls in sessions

Every poll takes the course that `Polling` describes, whatever the outside does: a request with a
deadline is answered in time or cut short when an interruption strikes, and so is a pause. What is
answered, and when, is what the outside has for the calls.

## Main statements

- `Run.Triple.request_round`: what a request of a poll leaves.
- `Run.Triple.pause_round`: what a pause leaves.
- `Run.Triple.poll_took`: what a poll comes to.
-/

namespace Rollout

variable {σ ρ α : Type} {env : Environment σ}

/-! ## The outside in a session -/

/-- How the outside stands in a session: the state of the services, and when the deployment is
canceled. -/
structure Outside (σ : Type) where
  remote : σ
  cancelAt : Option Nat

/-- How the outside stands. -/
def Session.outside (s : Session σ) : Outside σ := ⟨s.remote, s.cancelAt⟩

/-- When the answer comes to a call that was made at a time. -/
def Exchange.arrival {c : Call} (x : Exchange σ c) (time : Nat) : Option Nat :=
  x.delay.map (time + ·)

namespace Outside

variable {o : Outside σ} {c : Call} {time t : Nat}

/-- How the outside takes a call at a time. -/
def takes (o : Outside σ) (env : Environment σ) (c : Call) (time : Nat) : Exchange σ c :=
  env.receive c time o.remote

/-- How the outside stands when a call was made: if the call cancels the deployment, it does so at
once, unless the deployment was canceled before. -/
def asked (o : Outside σ) (env : Environment σ) (c : Call) (time : Nat) : Outside σ where
  remote := (o.takes env c time).remote
  cancelAt :=
    if (o.takes env c time).cancels then some (min (o.cancelAt.getD time) time) else o.cancelAt

/-- A call cancels the deployment now or not at all. -/
theorem cancelAt_asked (h : (o.asked env c time).cancelAt = some t) :
    o.cancelAt = some t ∨ t = time := by
  unfold asked at h
  dsimp only at h
  split at h
  · cases hcancel : o.cancelAt with
    | none =>
      rw [hcancel, Option.getD_none, Nat.min_self] at h
      exact .inr (Option.some.inj h).symm
    | some c =>
      rw [hcancel, Option.getD_some] at h
      -- The earlier of two cancellations counts.
      rcases Nat.le_total c time with hle | hle
      · rw [Nat.min_eq_left hle] at h
        exact .inl h
      · rw [Nat.min_eq_right hle] at h
        exact .inr (Option.some.inj h).symm
  · exact .inl h

end Outside

/-! ## Waits with a deadline -/

namespace Bounds

variable {s : Session σ} {deadline t : Nat} {i : Interruption}

/-- Nothing is in force before the cancellation and the deadline. -/
theorem interruption?_eq_none_iff :
    interruption? { deadline := some deadline } s = none ↔
      s.now < deadline ∧ ∀ t, s.cancelAt = some t → s.now < t := by
  simp only [interruption?, cancelTime, if_true, Option.any_some]
  cases s.cancelAt with
  | none => simp
  -- Whichever is in force first, the other side of the equivalence is arithmetic.
  | some c =>
    simp only [Option.any_some, decide_eq_true_eq, Option.some.injEq, forall_eq']
    split
    · simp; omega
    · split <;> simp <;> omega

/-- A wait with a deadline is cut short when the cancellation or the deadline comes. -/
theorem cutoff_strikes (deadline : Nat) (s : Session σ) :
    ∃ i t, cutoff { deadline := some deadline } s = some (i, t) ∧
      i.Strikes deadline s.cancelAt t := by
  simp only [cutoff, cancelTime, if_true]
  cases s.cancelAt with
  | none => exact ⟨.timedOut, deadline, rfl, rfl, nofun⟩
  | some c =>
    by_cases hle : c ≤ deadline
    · -- The cancellation wins a tie.
      exact ⟨.canceled, c, by simp only [if_pos hle], rfl, hle⟩
    · refine ⟨.timedOut, deadline, by simp only [if_neg hle], rfl, fun t ht => ?_⟩
      obtain rfl := Option.some.inj ht
      omega

/-- What is waited for with a deadline comes before the deadline and before the cancellation. -/
theorem lt_of_waking {arrival : Option Nat}
    (h : waking { deadline := some deadline } s arrival = .arrived t) :
    t < deadline ∧ ∀ c, s.cancelAt = some c → t < c := by
  obtain ⟨i, cut, hcut, hstrikes⟩ := cutoff_strikes deadline s
  have hbefore : t < cut := by simpa [beats] using (arrival_of_waking h).2 _ hcut
  have hdeadline := hstrikes.le_deadline
  refine ⟨by omega, fun c hc => ?_⟩
  have hle := hstrikes.le_cancel hc
  omega

/-- What cuts a wait with a deadline short strikes before what is waited for would have come. -/
theorem strikes_of_waking {arrival : Option Nat}
    (h : waking { deadline := some deadline } s arrival = .interrupted i t) :
    i.Strikes deadline s.cancelAt t ∧ ∀ a, arrival = some a → t ≤ a := by
  obtain ⟨hcutoff, hlate⟩ := cutoff_of_waking h
  obtain ⟨i', t', hcut, hstrikes⟩ := cutoff_strikes deadline s
  obtain ⟨rfl, rfl⟩ := Prod.mk.inj (Option.some.inj (hcutoff.symm.trans hcut))
  exact ⟨hstrikes, fun a ha => by simpa [beats] using hlate a ha⟩

/-- A wait with a deadline has an end. -/
theorem waking_deadline_ne_never {arrival : Option Nat} :
    waking { deadline := some deadline } s arrival ≠ .never := by
  intro h
  obtain ⟨i, t, hcut, -⟩ := cutoff_strikes deadline s
  cases hcut.symm.trans (eq_none_of_waking h).2

end Bounds

/-! ## Rounds in a past -/

/-- When a call was made, if a step is one. -/
def Step.callTime? : Step → Option Nat
  | .asked _ time => some time
  | _ => none

/-- When the calls among steps were made, the earliest first. -/
def callTimesIn (steps : List Step) : List Nat := (steps.filterMap Step.callTime?).reverse

/-- What a poll asks, by the time of the call, and how the answer is noted. -/
structure Question (ρ : Type) where
  call : Nat → Call
  note : Nat → Except ApiError ρ → Step
  /-- An answer is no call. -/
  note_answer : ∀ time reply, (note time reply).callTime? = none := by intros; rfl

namespace Question

/-- Asks with the same call each time. -/
def always (c : Call) : Question c.Reply where
  call _ := c
  note _ reply := .answered c reply

/-- What a round leaves in the past. -/
def told (q : Question ρ) (r : Round ρ) : List Step :=
  [q.note r.asked r.reply, .asked (q.call r.asked) r.asked]

/-- What a poll leaves in the past: its rounds, and a call without an answer if there is one. -/
def past (q : Question ρ) (rounds : List (Round ρ)) (pending : Option Nat) : List Step :=
  pending.toList.map (fun time => .asked (q.call time) time) ++ rounds.reverse.flatMap q.told

/-- The first round of a poll is the oldest in its past. -/
theorem past_cons (q : Question ρ) (r : Round ρ) (rounds : List (Round ρ)) (pending : Option Nat)
    (p : List Step) :
    q.past (r :: rounds) pending ++ p = q.past rounds pending ++ (q.told r ++ p) := by
  simp [past]

/-- The calls in the past of a poll are those of its rounds and the one that is left. -/
theorem callTimesIn_past (q : Question ρ) (rounds : List (Round ρ)) (pending : Option Nat) :
    callTimesIn (q.past rounds pending) = Polling.calls rounds pending := by
  -- By induction on the rounds, the oldest first.
  induction rounds with
  | nil => cases pending <;> rfl
  | cons r rounds ih =>
    have hsplit := q.past_cons r rounds pending []
    rw [List.append_nil, List.append_nil] at hsplit
    -- Of what a round leaves only the question is a call.
    have htold : (q.told r).filterMap Step.callTime? = [r.asked] := by
      rw [told, List.filterMap_cons, q.note_answer]
      rfl
    unfold callTimesIn at ih ⊢
    rw [hsplit, List.filterMap_append, List.reverse_append, ih, htold]
    rfl

/-- Whether the outside answers the call of a round so, and how it stands then. -/
structure Answers (env : Environment σ) (q : Question ρ) (o : Outside σ) (r : Round ρ)
    (o' : Outside σ) : Prop where
  arrives : (o.takes env (q.call r.asked) r.asked).arrival r.asked = some r.answered
  reply : q.note r.asked r.reply = .answered (q.call r.asked)
    ((o.takes env (q.call r.asked) r.asked).answer (o.asked env (q.call r.asked) r.asked).remote).2
  after : o' = { o.asked env (q.call r.asked) r.asked with
    remote := ((o.takes env (q.call r.asked) r.asked).answer
      (o.asked env (q.call r.asked) r.asked).remote).1 }

/-- Whether the outside leaves a call without an answer up to some time. -/
def Silent (env : Environment σ) (q : Question ρ) (o : Outside σ) (time ended : Nat) : Prop :=
  ∀ t, (o.takes env (q.call time) time).arrival time = some t → time < t ∧ ended ≤ t

/-- How the outside answers the calls of a poll that was over at some time, and how it stands
then. -/
inductive Hears (env : Environment σ) (q : Question ρ) (ended : Nat) :
    Outside σ → List (Round ρ) → Option Nat → Outside σ → Prop where
  | nothing {o : Outside σ} : Hears env q ended o [] none o
  | silence {o : Outside σ} {time : Nat} (hsilent : q.Silent env o time ended) :
      Hears env q ended o [] (some time) (o.asked env (q.call time) time)
  | answer {o m o' : Outside σ} {r : Round ρ} {rounds : List (Round ρ)} {pending : Option Nat}
      (hanswers : q.Answers env o r m) (hrest : Hears env q ended m rounds pending o') :
      Hears env q ended o (r :: rounds) pending o'

/-- What is left when a call was made in a session: an answer in time, or none when an interruption
struck. -/
def Asked (env : Environment σ) (q : Question ρ) (deadline : Nat) (s : Session σ) :
    Run.Post σ (Except Interruption (Except ApiError ρ)) where
  done result s' := (∀ t, s'.cancelAt = some t → s.cancelAt = some t ∨ t = s.now) ∧
    match result with
    | .error i => s'.past = .asked (q.call s.now) s.now :: s.past ∧ s.now ≤ s'.now ∧
        s'.outside = s.outside.asked env (q.call s.now) s.now ∧
        q.Silent env s.outside s.now s'.now ∧ i.Strikes deadline s'.cancelAt s'.now
    | .ok reply => s'.past = q.told ⟨s.now, s'.now, reply⟩ ++ s.past ∧
        q.Answers env s.outside ⟨s.now, s'.now, reply⟩ s'.outside ∧
        (⟨s.now, s'.now, reply⟩ : Round ρ).InTime deadline s'.cancelAt
  halts _ _ := False

/-- What a poll has come to that was started in a session with a call due, and what it leaves in
the past. -/
structure Took (env : Environment σ) (q : Question ρ) (accept : ρ → Option α)
    (deadline longest : Nat) (before : Option ρ) (s : Session σ) (result : PollResult ρ α)
    (s' : Session σ) (rounds : List (Round ρ)) (pending : Option Nat) : Prop where
  since : ∀ t, s'.cancelAt = some t → s.cancelAt = some t ∨ s.now ≤ t
  polling : Polling deadline s'.cancelAt longest accept s.now rounds pending result.verdict s'.now
  hears : q.Hears env s'.now s.outside rounds pending s'.outside
  last : result.last = Round.last before rounds
  past : s'.past = q.past rounds pending ++ s.past

/-- A round and a pause before a poll make a longer poll. -/
theorem Took.again {q : Question ρ} {accept : ρ → Option α} {deadline longest : Nat}
    {before : Option ρ} {s s₁ s₂ : Session σ} {result : PollResult ρ α} {reply : Except ApiError ρ}
    {rounds : List (Round ρ)} {pending : Option Nat}
    (hsince : ∀ t, s₁.cancelAt = some t → s.cancelAt = some t ∨ s.now ≤ t)
    (hanswers : q.Answers env s.outside ⟨s.now, s₁.now, reply⟩ s₁.outside)
    (hintime : (⟨s.now, s₁.now, reply⟩ : Round ρ).InTime deadline s₁.cancelAt)
    (hundecided : Round.verdict? accept ⟨s.now, s₁.now, reply⟩ = none)
    (hpast : s₁.past = q.told ⟨s.now, s₁.now, reply⟩ ++ s.past)
    {m : Session σ} (hpast' : m.past = s₁.past) (houtside : m.outside = s₁.outside)
    (hshortest : s₁.now + Run.shortestPause ≤ m.now) (hlongest : m.now ≤ s₁.now + longest)
    (h : q.Took env accept deadline longest (Round.last before [⟨s.now, s₁.now, reply⟩]) m result
      s₂ rounds pending) :
    q.Took env accept deadline longest before s result s₂ (⟨s.now, s₁.now, reply⟩ :: rounds)
      pending := by
  have hle : s.now ≤ s₁.now := hintime.le
  have hcancel : m.cancelAt = s₁.cancelAt := congrArg Outside.cancelAt houtside
  -- Whatever is canceled in the end was canceled with the answer, or after the pause.
  have hlater : ∀ t, s₂.cancelAt = some t → s₁.cancelAt = some t ∨ s₁.now < t := by
    intro t ht
    rcases h.since t ht with heq | hmt
    · exact .inl (hcancel ▸ heq)
    · unfold Run.shortestPause at hshortest
      exact .inr (by omega)
  refine ⟨fun t ht => ?_, ?_, ?_, ?_, ?_⟩
  · rcases hlater t ht with heq | hlt
    · exact hsince t heq
    · exact .inr (by omega)
  · exact .again (hintime.later hlater) hundecided hshortest hlongest h.polling
  · exact .answer hanswers (houtside ▸ h.hears)
  · rw [h.last, Round.last_cons, Round.last_cons]
    rfl
  · rw [h.past, past_cons, hpast', hpast]

end Question

/-- A program that halts nowhere returns. -/
theorem Run.Triple.returns {x : Run σ α} {s : Session σ} {R : α → Session σ → Prop}
    (h : Run.Triple env (· = s) x ⟨R, fun _ _ => False⟩) :
    ∃ a s', x env s = (.done a, s') ∧ R a s' := by
  have hends := h s rfl
  revert hends
  rcases x env s with ⟨a | _ | _, s'⟩
  · exact fun hends => ⟨a, s', rfl, hends⟩
  · exact False.elim
  · exact False.elim

/-! ## Requests and pauses -/

/-- The longest delay of a schedule, in milliseconds. -/
def Backoff.longest (b : Backoff) : Nat := (b.greatest + perMilli - 1) / perMilli

/-- What is left when a call was made in a session, and what is known of its answer. -/
structure CallMade (env : Environment σ) (c : Call) (s : Session σ) (p : Run.Pending σ c)
    (s' : Session σ) : Prop where
  past : s'.past = .asked c s.now :: s.past
  now : s'.now = s.now
  outside : s'.outside = s.outside.asked env c s.now
  arrival : p.arrival = (s.outside.takes env c s.now).arrival s.now
  isImmediate : p.isImmediate = ((s.outside.takes env c s.now).delay == some 0)
  answer : p.answer = (s.outside.takes env c s.now).answer

namespace CallMade

variable {c : Call} {s s' : Session σ} {p : Run.Pending σ c} (h : CallMade env c s p s')
include h

/-- Only the call itself can have canceled the deployment in the meantime. -/
theorem since (t : Nat) (ht : s'.cancelAt = some t) : s.cancelAt = some t ∨ t = s.now :=
  Outside.cancelAt_asked ((congrArg Outside.cancelAt h.outside).symm.trans ht)

/-- An answer comes a delay after its call. -/
theorem arrival_eq {a : Nat} (ha : p.arrival = some a) :
    ∃ delay, (s.outside.takes env c s.now).delay = some delay ∧ s.now + delay = a :=
  Option.map_eq_some_iff.mp (h.arrival.symm.trans ha)

/-- An answer comes no earlier than its call. -/
theorem le_arrival {a : Nat} (ha : p.arrival = some a) : s.now ≤ a := by
  obtain ⟨delay, -, rfl⟩ := h.arrival_eq ha
  exact Nat.le_add_right _ _

/-- An answer that does not come with its call comes after it. -/
theorem lt_arrival (hlate : ¬p.isImmediate = true) {a : Nat} (ha : p.arrival = some a) :
    s.now < a := by
  obtain ⟨delay, hdelay, rfl⟩ := h.arrival_eq ha
  have hne : delay ≠ 0 := by
    rintro rfl
    rw [h.isImmediate, hdelay] at hlate
    exact hlate rfl
  omega

/-- An answer that comes with its call comes at the time of the call. -/
theorem arrival_of_isImmediate (himmediate : p.isImmediate = true) :
    p.arrival = some s.now := by
  rw [h.isImmediate, beq_iff_eq] at himmediate
  rw [h.arrival, Exchange.arrival, himmediate]
  rfl

end CallMade

/-- To wait for a time that is not past makes it now. -/
theorem Session.passTo_of_le {s : Session σ} {time : Nat} (hle : s.now ≤ time) :
    s.passTo time = { s with now := time } := by
  rw [Session.passTo, Nat.max_eq_right hle]

namespace Run.Triple

variable {c : Call} {deadline : Nat} {s : Session σ} {schedule : Backoff}

/-- To make a call takes no time. -/
theorem send_eq (s : Session σ) :
    Run.Triple env (· = s) (Run.send c) ⟨CallMade env c s, fun _ _ => False⟩ := by
  rintro s' rfl
  have houtside : (Run.send c env s').2.outside = s'.outside.asked env c s'.now := by
    simp only [Run.send, Outside.asked, Outside.takes, Session.outside, Session.cancel,
      Session.log]
    split <;> simp_all
  exact ⟨Session.past_send c env s', Session.now_send c env s', houtside, rfl, rfl, rfl⟩

/-- The answer to a call is taken when it comes, and nothing but time has passed since the call. -/
theorem taken_asked {p : Run.Pending σ c} {s₁ : Session σ} (hmade : CallMade env c s p s₁)
    {time : Nat} (htime : p.arrival = some time) (hbefore : time < deadline)
    (hcancel : ∀ t, s₁.cancelAt = some t → time < t ∨ s.now = t ∧ time = t) :
    ((Question.always c).Asked env deadline s).done (.ok (p.answer s₁.remote).2)
      (p.taken { s₁ with now := time }) := by
  -- Time passes for nobody else while an answer is on its way.
  have hremote : s₁.remote = (s.outside.asked env c s.now).remote :=
    congrArg Outside.remote hmade.outside
  have hcancelAt : s₁.cancelAt = (s.outside.asked env c s.now).cancelAt :=
    congrArg Outside.cancelAt hmade.outside
  refine ⟨hmade.since, ?_, ⟨hmade.arrival.symm.trans htime, ?_, ?_⟩, hmade.le_arrival htime,
    hbefore, hcancel⟩
  · show Step.answered c _ :: s₁.past = _
    rw [hmade.past]
    rfl
  · show Step.answered c (p.answer s₁.remote).2 = _
    rw [hmade.answer, hremote]
    rfl
  · show Outside.mk (p.answer s₁.remote).1 s₁.cancelAt = _
    rw [hmade.answer, hremote, hcancelAt]
    rfl

/-- A request of a poll is answered in time, or cut short when an interruption strikes. -/
theorem request_round
    (hfree : Bounds.interruption? { deadline := some deadline } s = none) :
    Run.Triple env (· = s) (Run.request { deadline := some deadline } c)
      ((Question.always c).Asked env deadline s) := by
  obtain ⟨hdeadline, hcancel⟩ := Bounds.interruption?_eq_none_iff.mp hfree
  refine request_steps (fun i hi => ?_) (fun _ => send_eq s)
    (fun p s₁ s₂ hmade hcomes => ?_) (fun p s₁ i t hmade hlate hwaking => ?_)
    (fun _ _ _ hnever => Bounds.waking_deadline_ne_never hnever)
  · cases hi.symm.trans hfree
  · cases hcomes with
    | immediate himmediate =>
      -- The answer came with the call, and counts even if the call itself canceled.
      have harrival := hmade.arrival_of_isImmediate himmediate
      have hnow : s₁ = { s₁ with now := s.now } := by rw [← hmade.now]
      rw [hnow]
      refine taken_asked hmade harrival hdeadline fun t ht => ?_
      rcases hmade.since t ht with hbefore | hcall
      · exact .inl (hcancel t hbefore)
      · exact .inr ⟨hcall.symm, hcall.symm⟩
    | awaited _ hwaking =>
      -- What is waited for comes before an interruption strikes.
      have htime := (Bounds.arrival_of_waking hwaking).1
      obtain ⟨hbefore, hcancel'⟩ := Bounds.lt_of_waking hwaking
      rw [Session.passTo_of_le (hmade.now ▸ hmade.le_arrival htime)]
      exact taken_asked hmade htime hbefore fun c hc => .inl (hcancel' c hc)
  · obtain ⟨hstrikes, hcut⟩ := Bounds.strikes_of_waking hwaking
    -- The interruption was not in force at the call, or the call itself canceled.
    have hle : s.now ≤ t := by
      cases i with
      | canceled =>
        rcases hmade.since t hstrikes.1 with hbefore | hcall
        · exact Nat.le_of_lt (hcancel t hbefore)
        · exact Nat.le_of_eq hcall.symm
      | timedOut => exact hstrikes.1 ▸ Nat.le_of_lt hdeadline
    have hsilent : (Question.always c).Silent env s.outside s.now t := fun a ha =>
      have harrival := hmade.arrival.trans ha
      ⟨hmade.lt_arrival (Bool.eq_false_iff.mp hlate) harrival, hcut a harrival⟩
    rw [Session.passTo_of_le (hmade.now ▸ hle)]
    exact ⟨hmade.since, hmade.past, hle, hmade.outside, hsilent, hstrikes⟩

/-- A delay that is drawn is no shorter than the shortest pause and no longer than the schedule
allows. It leaves the schedule with the next interval. -/
theorem drawDelay_eq (hsteady : schedule.Steady) (s : Session σ) :
    Run.Triple env (· = s) (Run.drawDelay schedule)
      ⟨fun drawn s' => Run.shortestPause ≤ drawn.1 ∧ drawn.1 ≤ schedule.longest ∧
        drawn.2 = schedule.advance ∧ s' = { s with delays := s.delays + 1 },
        fun _ _ => False⟩ := by
  rintro s' rfl
  have hgreatest := schedule.next_le (.moved (env.jitter s'.delays))
  exact ⟨hsteady.shortestPause_le _,
    Nat.div_le_div_right (Nat.sub_le_sub_right (Nat.add_le_add_right hgreatest _) _), rfl, rfl⟩

/-- A pause after an answer that came in time: it is over before an interruption strikes, or cut
short when one does. -/
theorem pause_round (hsteady : schedule.Steady) (hdeadline : s.now < deadline)
    (hcancel : ∀ t, s.cancelAt = some t → s.now ≤ t) :
    Run.Triple env (· = s) (Run.pause { deadline := some deadline } schedule)
      ⟨fun paused s' => s'.past = s.past ∧ s'.outside = s.outside ∧
          s'.now ≤ s.now + schedule.longest ∧
          match paused with
          | .error i => s.now ≤ s'.now ∧ i.Strikes deadline s'.cancelAt s'.now
          | .ok after => after = schedule.advance ∧ s.now + Run.shortestPause ≤ s'.now ∧
              Bounds.interruption? { deadline := some deadline } s' = none,
        fun _ _ => False⟩ := by
  refine pause_steps (drawDelay_eq hsteady s) ?skip ?pass ?cut
  case skip =>
    rintro drawn s₁ i ⟨-, -, -, rfl⟩ hi
    refine ⟨rfl, rfl, Nat.le_add_right _ _, Nat.le_refl _, ?_⟩
    -- Only the cancellation can be in force: it came with the answer.
    have hforce := Bounds.inForce_of_interruption? hi
    cases i with
    | canceled =>
      obtain ⟨t, ht, hle⟩ := Session.isCanceled_iff.mp hforce.2
      obtain rfl : t = s.now := Nat.le_antisymm hle (hcancel t ht)
      exact ⟨ht, Nat.le_of_lt hdeadline⟩
    | timedOut =>
      obtain ⟨d, hd, hle⟩ := hforce
      obtain rfl := Option.some.inj hd
      exact (Nat.not_le_of_lt hdeadline hle).elim
  case pass =>
    rintro drawn s₁ ⟨hshortest, hlongest, hafter, rfl⟩ - hwaking
    rw [Session.passTo_of_le (Nat.le_add_right _ _)]
    exact ⟨rfl, rfl, Nat.add_le_add_left hlongest _, hafter, Nat.add_le_add_left hshortest _,
      Bounds.interruption?_eq_none_iff.mpr (Bounds.lt_of_waking hwaking)⟩
  case cut =>
    rintro drawn s₁ i t ⟨-, hlongest, -, rfl⟩ hfree hwaking
    obtain ⟨hstrikes, hle⟩ := Bounds.strikes_of_waking hwaking
    -- The interruption is not in force yet, so it does not lie in the past.
    have hstart : s.now ≤ t := by
      cases i with
      | canceled =>
        obtain ⟨-, hcancel'⟩ := Bounds.interruption?_eq_none_iff.mp hfree
        exact Nat.le_of_lt (hcancel' t hstrikes.1)
      | timedOut => exact hstrikes.1 ▸ Nat.le_of_lt hdeadline
    rw [Session.passTo_of_le (s := { s with delays := s.delays + 1 }) hstart]
    exact ⟨rfl, rfl, Nat.le_trans (hle _ rfl) (Nat.add_le_add_left hlongest _), hstart, hstrikes⟩

/-! ## Polls -/

variable {ask : Bounds → Nat → Run σ (Except Interruption (Except ApiError ρ))}
variable {accept : ρ → Option α} {q : Question ρ}

/-- Whether a poll asks a question, if nothing is in force that keeps it from asking. -/
structure AsksOf (env : Environment σ) (q : Question ρ) (deadline : Nat)
    (ask : Bounds → Nat → Run σ (Except Interruption (Except ApiError ρ))) : Prop where
  asked : ∀ s, Bounds.interruption? { deadline := some deadline } s = none →
    Run.Triple env (· = s) (ask { deadline := some deadline } (deadline - s.now))
      (q.Asked env deadline s)
  barred : ∀ s left i, Bounds.interruption? { deadline := some deadline } s = some i →
    ask { deadline := some deadline } left env s = (.done (.error i), s)

/-- A poll whose first call may be made takes a course. Its rounds don't run out before the
deadline, since none is shorter than the shortest pause. -/
theorem pollFor_took (hask : AsksOf env q deadline ask) (rounds : Nat) (hsteady : schedule.Steady)
    (before : Option ρ) (s : Session σ)
    (hfree : Bounds.interruption? { deadline := some deadline } s = none)
    (hrounds : deadline < s.now + rounds * Run.shortestPause) :
    Run.Triple env (· = s)
      (Run.pollFor { deadline := some deadline } deadline ask accept rounds schedule before)
      ⟨fun result s' => ∃ rounds pending,
        q.Took env accept deadline schedule.longest before s result s' rounds pending,
        fun _ _ => False⟩ := by
  -- By induction on the rounds that are left, which are enough for the time that is left.
  induction rounds generalizing schedule before s with
  | zero =>
    -- There is always a round left: nothing would be free to be asked after the deadline.
    have hbefore := (Bounds.interruption?_eq_none_iff.mp hfree).1
    omega
  | succ rounds ih =>
    rw [Nat.succ_mul] at hrounds
    have hdue := (Bounds.interruption?_eq_none_iff.mp hfree).1
    have hlater : ∀ {s₁ : Session σ}, (∀ t, s₁.cancelAt = some t → s.cancelAt = some t ∨
        t = s.now) → ∀ t, s₁.cancelAt = some t → s.cancelAt = some t ∨ s.now ≤ t :=
      fun h t ht => (h t ht).imp_right fun heq => Nat.le_of_eq heq.symm
    refine pollFor_round (hask.asked s hfree) (fun result ended s₁ hs₁ hjudge => ?ended)
      (fun result last s₁ hs₁ hjudge => ?next)
    case ended =>
      obtain ⟨hsince, hs₁⟩ := hs₁
      rcases result with i | reply
      · -- The call was not answered in time.
        obtain rfl := PollRound.over.inj hjudge
        obtain ⟨hpast, hle, houtside, hsilent, hstrikes⟩ := hs₁
        exact ⟨[], some s.now, hlater hsince, .unanswered hdue hle hstrikes,
          houtside ▸ .silence hsilent, rfl, hpast⟩
      · -- The answer decides.
        obtain ⟨hpast, hanswers, hintime⟩ := hs₁
        obtain ⟨hverdict, hlast⟩ := PollRound.verdict_of_over ⟨s.now, s₁.now, reply⟩ hjudge
        exact ⟨[_], none, hlater hsince, .decided hintime hverdict, .answer hanswers .nothing,
          hlast, hpast⟩
    case next =>
      obtain ⟨hsince, hs₁⟩ := hs₁
      rcases result with i | reply
      · cases hjudge
      obtain ⟨hpast, hanswers, hintime⟩ := hs₁
      obtain ⟨hverdict, rfl⟩ := PollRound.verdict_of_undecided ⟨s.now, s₁.now, reply⟩ hjudge
      refine (pause_round hsteady hintime.beforeDeadline fun t ht => hintime.le_cancel ht).mono
        (fun _ h => h) (fun paused s₂ hs₂ => ?_) (fun _ _ h => h)
      obtain ⟨hpast₂, houtside₂, hlongest, hs₂⟩ := hs₂
      refine ⟨?_, ?_⟩
      · -- The pause was cut short.
        rintro i rfl
        obtain ⟨hle, hstrikes⟩ := hs₂
        have hcancel₂ : s₂.cancelAt = s₁.cancelAt := congrArg Outside.cancelAt houtside₂
        exact ⟨[_], none, hcancel₂ ▸ hlater hsince,
          .stopped (hcancel₂ ▸ hintime) hverdict hle hlongest hstrikes,
          .answer hanswers (houtside₂ ▸ .nothing), rfl, hpast₂.trans hpast⟩
      · -- The next call may be made, later by the shortest pause: one round less will do.
        rintro after rfl
        obtain ⟨rfl, hshortest, hfree₂⟩ := hs₂
        have hle : s.now ≤ s₁.now := hintime.le
        refine (ih hsteady.advance _ s₂ hfree₂ (by omega)).mono
          (fun _ h => h) (fun result s₃ hs₃ => ?_) (fun _ _ h => h)
        obtain ⟨rounds, pending, htook⟩ := hs₃
        exact ⟨_, pending, htook.again (hlater hsince) hanswers hintime hverdict hpast hpast₂
          houtside₂ hshortest hlongest⟩

/-- A poll whose deadline the clock can hold comes to an end: what is in force at the start ends it
without a call, else it takes a course. -/
theorem poll_took {timeout : Nat} (hsteady : schedule.Steady) (s : Session σ)
    (hask : AsksOf env q (s.now + timeout) ask)
    (hrange : env.uptime + s.now + timeout < Run.clockRange) :
    Run.Triple env (· = s) (Run.poll timeout schedule ask accept)
      ⟨fun result s' =>
        (∃ i, Bounds.interruption? { deadline := some (s.now + timeout) } s = some i ∧
          result = ⟨none, .error (.interrupted i)⟩ ∧ s' = s) ∨
        ∃ rounds pending, q.Took env accept (s.now + timeout) schedule.longest none s result s'
          rounds pending,
        fun _ _ => False⟩ := by
  refine bind (R := ⟨fun deadline s' => deadline = s.now + timeout ∧ s' = s, fun _ _ => False⟩)
    (fun s' hs' => ?_) (fun deadline => of_and fun hdeadline => ?_) (fun _ _ h => h.elim)
  · subst hs'
    simp only [Run.deadlineAfter, if_pos hrange]
    exact ⟨rfl, rfl⟩
  · subst hdeadline
    cases hforce : Bounds.interruption? { deadline := some (s.now + timeout) } s with
    -- The question is barred from the start.
    | some i =>
      refine session_bind fun s' hs' => ?_
      subst hs'
      refine bind (R := ⟨fun result s'' => result = .error i ∧ s'' = s', fun _ _ => False⟩)
        (fun s'' hs'' => ?_) (fun result => of_and fun hresult => ?_) (fun _ _ h => h.elim)
      · subst hs''
        rw [hask.barred s'' _ i hforce]
        exact ⟨rfl, rfl⟩
      · subst hresult
        exact pure fun s'' hs'' => .inl ⟨i, rfl, rfl, hs''⟩
    | none =>
      -- The rounds of a poll are as many as there are shortest pauses in its timeout, and one more.
      have hrounds : timeout < (timeout / Run.shortestPause + 1) * Run.shortestPause := by
        rw [Nat.mul_comm]
        exact Nat.lt_mul_div_succ timeout (by decide)
      exact (pollFor_took hask _ hsteady none s hforce (by omega)).mono (fun _ h => h)
        (fun _ _ h => .inr h) (fun _ _ h => h)

end Run.Triple

end Rollout
