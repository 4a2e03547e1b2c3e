import Rollout.Proofs.Courses
import Rollout.Session.Poll

/-!
# The rounds of a poll

A poll goes through rounds: a call is made, its answer comes, and unless the answer decides the poll
there is a pause and another call. `Polling` says how that may go on with a deadline and with a
moment at which the deployment is canceled, if there is one. It tells of times and answers only, not
of sessions and programs.

## Main statements

- `Polling.settles`: a poll is settled by the first answer that decides it, or by the interruption
  that strikes before there is one.
- `Polling.goesOn`: while a poll is undecided, another call follows within the longest pause.
- `Polling.pairwise_calls`, `length_le_of_apart`: how far apart the calls are, and how many of them
  there are at most.
-/

namespace Rollout

variable {ρ α : Type}

/-! ## Rounds and interruptions -/

/-- A call of a poll and its answer. -/
structure Round (ρ : Type) where
  /-- When the call was made. -/
  asked : Nat
  /-- When the answer came. -/
  answered : Nat
  reply : Except ApiError ρ

namespace Round

variable {deadline : Nat} {canceled canceled' : Option Nat} {r : Round ρ}

/-- What an answer decides about a poll, none if it leaves the poll undecided. -/
def verdict? (accept : ρ → Option α) (r : Round ρ) : Option (Except PollFailure α) :=
  match r.reply with
  | .error e => if e.isTransient then none else some (.error (.refused e))
  | .ok reply => (accept reply).map .ok

/-- An answer decides for a poll if it is a reply that is accepted. -/
theorem verdict?_eq_ok_iff {accept : ρ → Option α} {a : α} :
    r.verdict? accept = some (.ok a) ↔ ∃ reply, r.reply = .ok reply ∧ accept reply = some a := by
  obtain ⟨asked, answered, e | reply⟩ := r
  · cases h : e.isTransient <;> simp [verdict?, h]
  · cases h : accept reply <;> simp [verdict?, h]

/-- An answer that decides against a poll is an error that does not pass. -/
theorem verdict?_eq_error_iff {accept : ρ → Option α} {f : PollFailure} :
    r.verdict? accept = some (.error f) ↔
      ∃ e, f = .refused e ∧ r.reply = .error e ∧ e.isTransient = false := by
  obtain ⟨asked, answered, e | reply⟩ := r
  · cases h : e.isTransient
    · simp [verdict?, h]
      exact eq_comm
    · simp [verdict?, h]
  · cases h : accept reply <;> simp [verdict?, h]

/-- Whether an answer came before the deadline and before the cancellation. An answer that comes
with its call may come with the cancellation as well, if it is the call that cancels. -/
structure InTime (deadline : Nat) (canceled : Option Nat) (r : Round ρ) : Prop where
  le : r.asked ≤ r.answered
  beforeDeadline : r.answered < deadline
  beforeCancel : ∀ t, canceled = some t → r.answered < t ∨ r.asked = t ∧ r.answered = t

/-- What was in time is so if the deployment was canceled then as it is now, or only later. -/
theorem InTime.later (h : r.InTime deadline canceled)
    (hsince : ∀ t, canceled' = some t → canceled = some t ∨ r.answered < t) :
    r.InTime deadline canceled' := by
  refine ⟨h.le, h.beforeDeadline, fun t ht => ?_⟩
  rcases hsince t ht with heq | hlt
  · exact h.beforeCancel t heq
  · exact .inl hlt

/-- An answer in time comes no later than the cancellation. -/
theorem InTime.le_cancel (h : r.InTime deadline canceled) {t : Nat} (ht : canceled = some t) :
    r.answered ≤ t :=
  (h.beforeCancel t ht).elim Nat.le_of_lt fun h => Nat.le_of_eq h.2

/-- The last reply that a poll was given, or one that was there before. -/
def last (before : Option ρ) (rounds : List (Round ρ)) : Option ρ :=
  (rounds.filterMap (·.reply.toOption)).getLast?.or before

/-- The first reply counts only until there is another. -/
theorem last_cons (before : Option ρ) (r : Round ρ) (rounds : List (Round ρ)) :
    last before (r :: rounds) = last (r.reply.toOption.or before) rounds := by
  unfold last
  rw [List.filterMap_cons]
  -- An error leaves the last reply as it is.
  cases r.reply.toOption with
  | none => rfl
  | some reply =>
    rw [List.getLast?_cons]
    cases (rounds.filterMap (·.reply.toOption)).getLast? <;> rfl

end Round

/-- A poll is over exactly if the answer decides it. -/
theorem PollRound.judge_ok (accept : ρ → Option α) (before : Option ρ) (r : Round ρ) :
    PollRound.judge accept before (.ok r.reply) =
      match r.verdict? accept with
      | some verdict => .over ⟨Round.last before [r], verdict⟩
      | none => .undecided (Round.last before [r]) := by
  -- An error decides unless it may pass, a reply if it is accepted.
  obtain ⟨asked, answered, e | reply⟩ := r
  · cases h : e.isTransient <;> simp [judge, Round.verdict?, h, Round.last, Except.toOption]
  · cases h : accept reply <;> simp [judge, Round.verdict?, h, Round.last, Except.toOption]

/-- An answer that ends a poll decides it, and is the last one of it. -/
theorem PollRound.verdict_of_over {accept : ρ → Option α} {before : Option ρ} (r : Round ρ)
    {result : PollResult ρ α} (h : judge accept before (.ok r.reply) = .over result) :
    r.verdict? accept = some result.verdict ∧ result.last = Round.last before [r] := by
  rw [judge_ok] at h
  split at h
  · rename_i hverdict
    obtain rfl := PollRound.over.inj h
    exact ⟨hverdict, rfl⟩
  · cases h

/-- An answer after which a poll goes on does not decide it, and is the last one so far. -/
theorem PollRound.verdict_of_undecided {accept : ρ → Option α} {before last : Option ρ}
    (r : Round ρ) (h : judge accept before (.ok r.reply) = .undecided last) :
    r.verdict? accept = none ∧ last = Round.last before [r] := by
  rw [judge_ok] at h
  split at h
  · cases h
  · rename_i hverdict
    exact ⟨hverdict, (PollRound.undecided.inj h).symm⟩

namespace Interruption

variable {deadline moment t : Nat} {canceled : Option Nat} {i : Interruption}

/-- Whether an interruption strikes at a moment: the cancellation up to the deadline, or the
deadline before the cancellation. -/
def Strikes (deadline : Nat) (canceled : Option Nat) (moment : Nat) : Interruption → Prop
  | .canceled => canceled = some moment ∧ moment ≤ deadline
  | .timedOut => moment = deadline ∧ ∀ t, canceled = some t → deadline < t

/-- Nothing strikes after the deadline. -/
theorem Strikes.le_deadline (h : i.Strikes deadline canceled moment) : moment ≤ deadline := by
  cases i with
  | canceled => exact h.2
  | timedOut => exact Nat.le_of_eq h.1

/-- Nothing strikes after the cancellation. -/
theorem Strikes.le_cancel (h : i.Strikes deadline canceled moment) (ht : canceled = some t) :
    moment ≤ t := by
  cases i with
  | canceled => exact Nat.le_of_eq (Option.some.inj (h.1.symm.trans ht))
  | timedOut =>
    rw [h.1]
    exact Nat.le_of_lt (h.2 t ht)

end Interruption

/-! ## How a poll goes on -/

/-- How a poll goes on from a time at which a call is due: its rounds, the call that is left without
an answer, its verdict, and when it is over. No pause is longer than a longest one. -/
inductive Polling (deadline : Nat) (canceled : Option Nat) (longest : Nat)
    (accept : ρ → Option α) :
    (due : Nat) → List (Round ρ) → Option Nat → Except PollFailure α → (ended : Nat) → Prop where
  /-- The answer decides the poll. -/
  | decided {r : Round ρ} {verdict : Except PollFailure α} (hintime : r.InTime deadline canceled)
      (hdecides : r.verdict? accept = some verdict) :
      Polling deadline canceled longest accept r.asked [r] none verdict r.answered
  /-- The call is not answered in time. -/
  | unanswered {due ended : Nat} {i : Interruption} (hdue : due < deadline) (hle : due ≤ ended)
      (hstrikes : i.Strikes deadline canceled ended) :
      Polling deadline canceled longest accept due [] (some due) (.error (.interrupted i)) ended
  /-- The pause is cut short. -/
  | stopped {r : Round ρ} {ended : Nat} {i : Interruption} (hintime : r.InTime deadline canceled)
      (hundecided : r.verdict? accept = none) (hle : r.answered ≤ ended)
      (hlongest : ended ≤ r.answered + longest) (hstrikes : i.Strikes deadline canceled ended) :
      Polling deadline canceled longest accept r.asked [r] none (.error (.interrupted i)) ended
  /-- Another call is due after a pause. -/
  | again {r : Round ρ} {due ended : Nat} {rounds : List (Round ρ)} {pending : Option Nat}
      {verdict : Except PollFailure α} (hintime : r.InTime deadline canceled)
      (hundecided : r.verdict? accept = none)
      (hshortest : r.answered + Run.shortestPause ≤ due) (hlongest : due ≤ r.answered + longest)
      (hrest : Polling deadline canceled longest accept due rounds pending verdict ended) :
      Polling deadline canceled longest accept r.asked (r :: rounds) pending verdict ended

namespace Polling

variable {deadline longest due ended : Nat} {canceled : Option Nat} {accept : ρ → Option α}
variable {rounds : List (Round ρ)} {pending : Option Nat} {verdict : Except PollFailure α}

/-- When the first call of a poll is made, given its rounds and the call that is left. -/
def firstCall? (rounds : List (Round ρ)) (pending : Option Nat) : Option Nat :=
  (rounds.head?.map (·.asked)).or pending

/-- When the calls of a poll are made, given its rounds and the call that is left. -/
def calls (rounds : List (Round ρ)) (pending : Option Nat) : List Nat :=
  rounds.map (·.asked) ++ pending.toList

/-- The first call is made when it is due. -/
theorem firstCall?_eq
    (h : Polling deadline canceled longest accept due rounds pending verdict ended) :
    firstCall? rounds pending = some due := by
  cases h <;> rfl

/-- All answers of a poll came in time. -/
theorem inTime (h : Polling deadline canceled longest accept due rounds pending verdict ended) :
    ∀ r ∈ rounds, r.InTime deadline canceled := by
  induction h with
  | unanswered => exact fun r hr => by cases hr
  | decided hintime | stopped hintime => exact fun r hr => List.mem_singleton.mp hr ▸ hintime
  | again hintime _ _ _ _ ih => exact List.forall_mem_cons.mpr ⟨hintime, ih⟩

/-- A poll is settled by the first answer that decides it, which is the last one, or by the
interruption that strikes before there is one. -/
theorem settles (h : Polling deadline canceled longest accept due rounds pending verdict ended) :
    (∃ before r, rounds = before ++ [r] ∧ pending = none ∧
        (∀ x ∈ before, x.verdict? accept = none) ∧ r.verdict? accept = some verdict ∧
        ended = r.answered) ∨
      ∃ i, verdict = .error (.interrupted i) ∧ (∀ x ∈ rounds, x.verdict? accept = none) ∧
        i.Strikes deadline canceled ended := by
  -- By induction on how the poll goes on, one case for each way it may end and one for another
  -- round.
  induction h with
  | @decided r verdict _ hdecides => exact .inl ⟨[], r, rfl, rfl, nofun, hdecides, rfl⟩
  | @unanswered due ended i _ _ hstrikes => exact .inr ⟨i, rfl, nofun, hstrikes⟩
  | @stopped r ended i _ hundecided _ _ hstrikes =>
    exact .inr ⟨i, rfl, fun x hx => List.mem_singleton.mp hx ▸ hundecided, hstrikes⟩
  | @again r due ended rounds pending verdict _ hundecided _ _ _ ih =>
    rcases ih with ⟨before, r', rfl, hpending, hbefore, hdecides, hover⟩ |
      ⟨i, hverdict, hall, hstrikes⟩
    · exact .inl ⟨r :: before, r', rfl, hpending, List.forall_mem_cons.mpr ⟨hundecided, hbefore⟩,
        hdecides, hover⟩
    · exact .inr ⟨i, hverdict, List.forall_mem_cons.mpr ⟨hundecided, hall⟩, hstrikes⟩

/-- A poll is over no sooner than its first call is due. -/
theorem le_ended (h : Polling deadline canceled longest accept due rounds pending verdict ended) :
    due ≤ ended := by
  induction h with
  | decided hintime => exact hintime.le
  | unanswered _ hle => exact hle
  | stopped hintime _ hle => exact Nat.le_trans hintime.le hle
  | again hintime _ hshortest _ _ ih =>
    -- The answer, the pause and the rest follow each other.
    have hle := hintime.le
    omega

/-- A poll is over by its deadline. -/
theorem ended_le (h : Polling deadline canceled longest accept due rounds pending verdict ended) :
    ended ≤ deadline := by
  rcases h.settles with ⟨before, r, rfl, -, -, -, rfl⟩ | ⟨i, -, -, hstrikes⟩
  · exact Nat.le_of_lt (h.inTime r (by simp)).beforeDeadline
  · exact hstrikes.le_deadline

/-- In a list of one the only element has nothing around it. -/
theorem eq_of_singleton_eq_append_cons {a b : α} {before behind : List α}
    (h : [a] = before ++ b :: behind) : before = [] ∧ a = b ∧ behind = [] := by
  cases before with
  | nil => exact ⟨rfl, (List.cons.inj h).1, (List.cons.inj h).2.symm⟩
  | cons c before => exact absurd (List.cons.inj h).2 (by simp)

/-- While a poll is undecided, another call follows within the longest pause, unless the poll is
over before. -/
theorem goesOn (h : Polling deadline canceled longest accept due rounds pending verdict ended)
    {before behind : List (Round ρ)} {r : Round ρ} (hrounds : rounds = before ++ r :: behind)
    (hundecided : r.verdict? accept = none) :
    (firstCall? behind pending).getD ended ≤ r.answered + longest := by
  -- By induction on how the poll goes on; the round is the first one or one of the rest.
  induction h generalizing before with
  | unanswered => simp at hrounds
  | @decided r' _ _ hdecides =>
    -- The round that decides is not undecided.
    obtain ⟨-, rfl, -⟩ := eq_of_singleton_eq_append_cons hrounds
    rw [hundecided] at hdecides
    cases hdecides
  | @stopped r' _ _ _ _ _ hlongest =>
    obtain ⟨-, rfl, rfl⟩ := eq_of_singleton_eq_append_cons hrounds
    exact hlongest
  | again _ _ _ hlongest hrest ih =>
    cases before with
    | nil =>
      obtain ⟨rfl, rfl⟩ := List.cons.inj hrounds
      rw [hrest.firstCall?_eq]
      exact hlongest
    | cons x before => exact ih (List.cons.inj hrounds).2

/-! ## How far apart the calls are -/

/-- No call is made before it is due, nor at the deadline or later. -/
theorem mem_calls (h : Polling deadline canceled longest accept due rounds pending verdict ended)
    {time : Nat} (htime : time ∈ calls rounds pending) : due ≤ time ∧ time < deadline := by
  induction h with
  | unanswered hdue =>
    obtain rfl : time = _ := by simpa [calls] using htime
    exact ⟨Nat.le_refl _, hdue⟩
  | decided hintime | stopped hintime =>
    obtain rfl : time = _ := by simpa [calls] using htime
    exact ⟨Nat.le_refl _, Nat.lt_of_le_of_lt hintime.le hintime.beforeDeadline⟩
  | again hintime _ hshortest _ _ ih =>
    have hle := hintime.le
    -- The first call is made when it is due, and the others after the pause.
    rcases List.mem_cons.mp htime with rfl | htime
    · exact ⟨Nat.le_refl _, Nat.lt_of_le_of_lt hle hintime.beforeDeadline⟩
    · have hrest := ih htime
      exact ⟨by omega, hrest.2⟩

/-- From one call to any later one it takes the shortest pause at least. -/
theorem pairwise_calls
    (h : Polling deadline canceled longest accept due rounds pending verdict ended) :
    (calls rounds pending).Pairwise (fun a b => a + Run.shortestPause ≤ b) := by
  induction h with
  | unanswered | decided | stopped => exact List.pairwise_singleton _ _
  | @again r _ _ _ _ _ hintime _ hshortest _ hrest ih =>
    -- Every later call is due after the pause.
    refine List.pairwise_cons.mpr ⟨fun time htime => ?_, ih⟩
    have hle := hintime.le
    have hdue := (hrest.mem_calls htime).1
    show r.asked + _ ≤ time
    omega

end Polling

/-- So many times at most that are a distance apart fit into a span. -/
theorem length_le_of_apart {times : List Nat} {distance start span : Nat} (hpos : 0 < distance)
    (hapart : times.Pairwise (fun a b => a + distance ≤ b))
    (hspan : ∀ time ∈ times, start ≤ time ∧ time < start + span) :
    times.length ≤ (span + distance - 1) / distance := by
  rw [Nat.le_div_iff_mul_le hpos]
  -- By induction on the times, the span getting shorter by a distance with each.
  induction times generalizing start span with
  | nil => simp
  | cons time times ih =>
    obtain ⟨hfirst, hrest⟩ := List.pairwise_cons.mp hapart
    obtain ⟨hstart, hend⟩ := hspan time List.mem_cons_self
    cases htimes : times with
    | nil => simp; omega
    | cons next times' =>
      -- The others are in what is left of the span after one distance.
      have hnext := hfirst next (by simp [htimes])
      have hnextEnd := (hspan next (by simp [htimes])).2
      have hrestSpan : ∀ t ∈ times, time + distance ≤ t ∧
          t < time + distance + (start + span - (time + distance)) := fun t ht => by
        have hlt := (hspan t (List.mem_cons_of_mem _ ht)).2
        exact ⟨hfirst t ht, by omega⟩
      have hle := ih hrest hrestSpan
      rw [← htimes, List.length_cons, Nat.succ_mul]
      omega

end Rollout
