import Rollout.Proofs.Poll
import Rollout.Session.Fanout

/-!
# Programs that return

A program may wait for an answer that never comes. It does not if every call is answered sooner
or later, or if the deployment is canceled at some time: then a wait that heeds cancellation ends,
and so does one with a deadline. A poll ends even though it has only so many rounds: no round is
shorter than the shortest pause, so the deadline is passed before the rounds run out.

What is left is a timeout that ends beyond the range of the clock.

## Main statements

- `Run.Triple.request_timed`: a request ends, and if it is answered, then before its deadline.
- `Run.Triple.poll_returns`: a poll ends.
- `Run.Returns.together`: errands side by side end.
-/

namespace Rollout

variable {σ τ ρ α β κ : Type} {env : Environment σ} {timeout : Nat}

/-- Whether whatever is waited for has an end: an answer, or the cancellation. -/
def Live (env : Environment σ) (s : Session σ) : Prop := env.Answers ∨ s.cancelAt.isSome

/-- The ways of not returning that are left: what is waited for has no end, or a timeout ends beyond
the clock's range. -/
def Ended (env : Environment σ) (timeout : Nat) : Halt → Session σ → Prop
  | .stuck, s => ¬ Live env s
  | .panicked, s => Run.clockRange ≤ env.uptime + s.now + timeout

/-! ## Bounds -/

namespace Bounds

variable {b : Bounds} {s : Session σ} {arrival : Option Nat} {time deadline : Nat}

/-- Whether a wait is limited by the cancellation or by a deadline. -/
def Limited (b : Bounds) : Prop := b.heedsCancel = true ∨ b.deadline.isSome

/-- A deadline cuts a wait short some time. -/
theorem cutoff_isSome_of_deadline (hd : b.deadline.isSome) : (b.cutoff s).isSome := by
  obtain ⟨d, hd⟩ := Option.isSome_iff_exists.mp hd
  unfold cutoff
  rw [hd]
  cases b.cancelTime s <;> rfl

/-- What limits a wait cuts it short, if it comes at all. -/
theorem cutoff_isSome (hb : b.Limited) (hs : s.cancelAt.isSome) : (b.cutoff s).isSome := by
  rcases hb with hheeds | hdeadline
  · obtain ⟨c, hc⟩ := Option.isSome_iff_exists.mp hs
    unfold cutoff cancelTime
    rw [if_pos hheeds, hc]
    cases b.deadline <;> rfl
  · exact cutoff_isSome_of_deadline hdeadline

/-- What cuts a wait short comes no later than the deadline. -/
theorem cutoff_le {cut : Interruption × Nat} (h : b.cutoff s = some cut)
    (hd : b.deadline = some deadline) : cut.2 ≤ deadline := by
  unfold cutoff at h
  rw [hd] at h
  cases hc : b.cancelTime s with
  | none =>
    rw [hc] at h
    obtain rfl := Option.some.inj h
    exact Nat.le_refl _
  | some c =>
    rw [hc] at h
    obtain rfl := Option.some.inj h
    -- The earlier of the cancellation and the deadline cuts the wait short.
    by_cases hle : c ≤ deadline
    · rw [if_pos hle]
      exact hle
    · exact Nat.le_of_eq (congrArg Prod.snd (if_neg hle))

/-- A limited wait ends where everything has an end. -/
theorem waking_ne_never (hb : b.Limited) (hlive : Live env s)
    (harrival : env.Answers → arrival.isSome) : b.waking s arrival ≠ .never := by
  intro h
  obtain ⟨rfl, hcutoff⟩ := eq_none_of_waking h
  -- Either the answer comes, or the cancellation.
  rcases hlive with hanswers | hcancel
  · cases harrival hanswers
  · have hsome := cutoff_isSome hb hcancel
    rw [hcutoff] at hsome
    cases hsome

/-- A wait that is cut short at a time ends by then. -/
theorem waking_le {cut : Interruption × Nat} (hcut : b.cutoff s = some cut)
    (arrival : Option Nat) : ∃ time, (b.waking s arrival).time? = some time ∧ time ≤ cut.2 := by
  rcases b.waking_cases s arrival with ⟨t, hwaking, -, hbeats⟩ | ⟨i, t, hwaking, hcutoff, -⟩ |
    ⟨-, -, hcutoff⟩
  · -- What arrives is no later than what would have cut it short.
    have hbeats := hbeats cut hcut
    simp only [beats, Bool.or_eq_true, Bool.and_eq_true, decide_eq_true_eq] at hbeats
    exact ⟨t, congrArg Waking.time? hwaking, by omega⟩
  · obtain rfl := Option.some.inj (hcut.symm.trans hcutoff)
    exact ⟨t, congrArg Waking.time? hwaking, Nat.le_refl _⟩
  · cases hcut.symm.trans hcutoff

/-- What arrives, arrives by the deadline. -/
theorem waking_arrived_le (h : b.waking s arrival = .arrived time)
    (hd : b.deadline = some deadline) : time ≤ deadline := by
  obtain ⟨cut, hcut⟩ := Option.isSome_iff_exists.mp
    (cutoff_isSome_of_deadline (b := b) (s := s) (by rw [hd]; rfl))
  obtain ⟨time', htime, hle⟩ := waking_le hcut arrival
  rw [h] at htime
  obtain rfl : time = time' := Option.some.inj htime
  exact Nat.le_trans hle (cutoff_le hcut hd)

end Bounds

/-! ## Requests and pauses -/

namespace Run.Triple

variable {b : Bounds} {c : Call}

/-- A limited request ends. It takes no time back, and if it is answered, it is by the deadline. -/
theorem request_timed (start : Nat) (hb : b.Limited) :
    Run.Triple env (fun s => start ≤ s.now ∧ ∀ d, b.deadline = some d → s.now ≤ d)
      (Run.request b c)
      ⟨fun r s => start ≤ s.now ∧ ∀ o, r = .ok o → ∀ d, b.deadline = some d → s.now ≤ d,
        Ended env timeout⟩ := by
  refine at_session fun s hs => ?_
  obtain ⟨hstart, hintime⟩ := hs
  refine request_steps (fun i _ => ⟨hstart, nofun⟩) (fun _ => send_sent s)
    (fun p s₁ s₂ hsent hcomes => ?_) (fun p s₁ i time hsent _ _ => ⟨?_, nofun⟩)
    (fun p s₁ hsent hnever => ?_)
  · cases hcomes with
    | immediate _ =>
      -- The answer came with the call.
      show start ≤ s₁.now ∧ ∀ _, _ → ∀ d, b.deadline = some d → s₁.now ≤ d
      rw [hsent.now]
      exact ⟨hstart, fun _ _ => hintime⟩
    | @awaited time _ hwaking =>
      -- What is waited for comes by the deadline.
      show start ≤ max s₁.now time ∧ ∀ _, _ → ∀ d, b.deadline = some d → max s₁.now time ≤ d
      rw [hsent.now]
      exact ⟨Nat.le_trans hstart (Nat.le_max_left _ _), fun _ _ d hd =>
        Nat.max_le.mpr ⟨hintime d hd, Bounds.waking_arrived_le hwaking hd⟩⟩
  · show start ≤ max s₁.now time
    rw [hsent.now]
    exact Nat.le_trans hstart (Nat.le_max_left _ _)
  · -- A limited wait has an end.
    exact fun hlive => Bounds.waking_ne_never hb hlive hsent.arrives hnever

end Run.Triple

namespace Backoff

/-- Whether the interval of a schedule is twice the shortest pause at least. -/
def Steady (b : Backoff) : Prop :=
  2 * Run.shortestPause * perMilli ≤ b.current ∧ 2 * Run.shortestPause * perMilli ≤ b.greatest

/-- A schedule whose interval is long enough stays so. -/
theorem Steady.advance {b : Backoff} (h : b.Steady) : b.advance.Steady := by
  obtain ⟨hcurrent, hgreatest⟩ := h
  refine ⟨?_, hgreatest⟩
  show _ ≤ b.grown
  rw [grown_eq_min]
  omega

/-- The jitter takes away half of the interval at most, which leaves the shortest pause, also in
the whole milliseconds that are slept. -/
theorem Steady.shortestPause_le {b : Backoff} (h : b.Steady) (offset : Int) :
    Run.shortestPause ≤ ((b.next (.moved offset)).1 + perMilli - 1) / perMilli := by
  obtain ⟨hcurrent, hgreatest⟩ := h
  have hhalf := b.current_le_movedBy offset
  rw [next_moved, Nat.le_div_iff_mul_le (by decide)]
  simp only [Run.shortestPause, perMilli] at *
  omega

/-- The schedule of the polls starts out long enough. -/
theorem poll_steady : Backoff.poll.Steady := by
  unfold Steady Backoff.poll jittered
  decide

end Backoff

namespace Run.Triple

variable {start deadline : Nat}

/-- A pause ends. Unless it is interrupted, it lasts for the shortest pause at least, ends before
the deadline and leaves the schedule with the next interval. -/
theorem pause_timed {schedule : Backoff} (hsteady : schedule.Steady) :
    Run.Triple env (fun s => start ≤ s.now ∧ s.now ≤ deadline)
      (Run.pause { deadline := some deadline } schedule)
      ⟨fun r s => ∀ after, r = .ok after → after = schedule.advance ∧
        start + Run.shortestPause ≤ s.now ∧ s.now ≤ deadline, Ended env timeout⟩ := by
  refine at_session fun s hs => ?_
  have hdraw : Run.Triple env (· = s) (Run.drawDelay schedule) ⟨fun drawn s' =>
      start ≤ s'.now ∧ Run.shortestPause ≤ drawn.1 ∧ drawn.2 = schedule.advance,
      fun _ _ => False⟩ := by
    rintro _ rfl
    exact ⟨hs.1, hsteady.shortestPause_le _, rfl⟩
  refine pause_steps hdraw (fun _ _ _ _ _ => nofun) (fun drawn s₁ hdrawn _ hwaking => ?_)
    (fun _ _ _ _ _ _ _ => nofun)
  obtain ⟨hstart, hdelay, hafter⟩ := hdrawn
  rintro _ ⟨⟩
  -- The pause is over when its delay has passed.
  have hle := Bounds.waking_arrived_le hwaking rfl
  refine ⟨hafter, ?_⟩
  show start + Run.shortestPause ≤ max s₁.now (s₁.now + drawn.1) ∧
    max s₁.now (s₁.now + drawn.1) ≤ deadline
  omega

end Run.Triple

/-! ## Programs -/

/-- A program returns unless it waits for what has no end. -/
def Run.Returns (env : Environment σ) (timeout : Nat) (x : Run σ α) : Prop :=
  Run.Triple env (fun _ => True) x ⟨fun _ _ => True, Ended env timeout⟩

namespace Run.Returns

variable {x : Run σ α} {f : α → Run σ β} {b : Bounds}

/-- A value is there at once. -/
theorem pure (a : α) : (Pure.pure a : Run σ α).Returns env timeout :=
  Triple.pure fun _ hs => hs

/-- Programs that return may follow each other. -/
theorem bind (hx : x.Returns env timeout) (hf : ∀ a, (f a).Returns env timeout) :
    (x >>= f).Returns env timeout :=
  Triple.bind hx hf fun _ _ hs => hs

/-- A change of the session returns. -/
theorem change (g : Session σ → Session σ) : (Run.change g).Returns env timeout :=
  Triple.change fun _ _ => trivial

/-- A report returns. -/
theorem report (r : Reporter) (message : String) :
    (Run.report r message : Run σ Unit).Returns env timeout :=
  change _

/-- So does a note that a lease was dropped. -/
theorem drop (machine nonce : String) :
    (Run.drop machine nonce : Run σ Unit).Returns env timeout :=
  change _

/-- The clock answers at once. -/
theorem readClock : (Run.readClock : Run σ Int).Returns env timeout :=
  Triple.readClock fun _ _ hs => hs

/-- A limited request without a deadline returns. -/
theorem request {c : Call} (hb : b.Limited) (hnone : b.deadline = none) :
    (Run.request b c).Returns env timeout := by
  refine (Triple.request_timed 0 hb).mono (fun s _ => ⟨Nat.zero_le _, ?_⟩)
    (fun _ _ _ => trivial) (fun _ _ hs => hs)
  rw [hnone]
  intro d hd
  cases hd

end Run.Returns

/-! ## Polls -/

namespace Run.Triple

variable {ask : Bounds → Nat → Run σ (Except Interruption (Except ApiError ρ))}
variable {accept : ρ → Option α} {deadline : Nat}

/-- Whether the rounds of a poll end, and are answered by the deadline. -/
def Asks (env : Environment σ) (timeout : Nat)
    (ask : Bounds → Nat → Run σ (Except Interruption (Except ApiError ρ))) : Prop :=
  ∀ start deadline left, Run.Triple env (fun s => start ≤ s.now ∧ s.now ≤ deadline)
    (ask { deadline := some deadline } left)
    ⟨fun r s => start ≤ s.now ∧ (∀ o, r = .ok o → s.now ≤ deadline), Ended env timeout⟩

/-- The rounds of a poll don't run out before its deadline, since none is shorter than the
shortest pause. -/
theorem pollFor_returns (hask : Asks env timeout ask) (rounds : Nat) (schedule : Backoff)
    (hsteady : schedule.Steady) (last : Option ρ) :
    Run.Triple env (fun s => s.now ≤ deadline ∧ deadline < s.now + rounds * Run.shortestPause)
      (Run.pollFor { deadline := some deadline } deadline ask accept rounds schedule last)
      ⟨fun _ _ => True, Ended env timeout⟩ := by
  -- By induction on the rounds that are left, which are enough for the time that is left.
  induction rounds generalizing schedule last with
  | zero =>
    -- There is always a round left: the deadline is not over while the rounds could last.
    refine hang fun s hs => ?_
    obtain ⟨hle, hlt⟩ := hs
    omega
  | succ rounds ih =>
    refine at_session fun s hs => ?_
    obtain ⟨hle, hlt⟩ := hs
    rw [Nat.succ_mul] at hlt
    refine pollFor_round ((hask s.now deadline _).pre fun s' hs' => ?_) (fun _ _ _ _ _ => trivial)
      (fun r last' s₁ hs₁ hjudge => ?_)
    · subst hs'
      exact ⟨Nat.le_refl _, hle⟩
    · have hanswered : s₁.now ≤ deadline := by
        rcases PollRound.judge_undecided hjudge with ⟨e, rfl, -⟩ | ⟨reply, rfl, -⟩
        · exact hs₁.2 _ rfl
        · exact hs₁.2 _ rfl
      -- A pause takes up one round of the time that is left.
      refine mono (P := fun s' => s.now ≤ s'.now ∧ s'.now ≤ deadline) (pause_timed hsteady)
        (fun s' hs' => ?_)
        (fun paused s₂ hs₂ => ⟨fun _ _ => trivial, fun after hafter => ?_⟩) (fun _ _ h => h)
      · subst hs'
        exact ⟨hs₁.1, hanswered⟩
      obtain ⟨rfl, hpaused, hle'⟩ := hs₂ after hafter
      refine (ih schedule.advance hsteady.advance last').pre fun s₃ hs₃ => ?_
      subst hs₃
      exact ⟨hle', by omega⟩

/-- A poll ends, unless its timeout ends beyond the range of the clock. -/
theorem poll_returns (hask : Asks env timeout ask) {schedule : Backoff}
    (hsteady : schedule.Steady) : (Run.poll timeout schedule ask accept).Returns env timeout := by
  refine bind (R := ⟨fun deadline s => s.now ≤ deadline ∧
    deadline < s.now + (timeout / Run.shortestPause + 1) * Run.shortestPause,
    Ended env timeout⟩) ?_ (fun deadline => pollFor_returns hask _ schedule hsteady none)
    (fun _ _ h => h)
  intro s _
  simp only [Run.deadlineAfter]
  split
  · -- The rounds are more than fit into the timeout.
    have hrounds : timeout < (timeout / Run.shortestPause + 1) * Run.shortestPause := by
      rw [Nat.mul_comm]
      exact Nat.lt_mul_div_succ timeout (by decide)
    exact ⟨Nat.le_add_right _ _, by omega⟩
  · -- The clock cannot hold the deadline.
    rename_i hrange
    exact Nat.le_of_not_lt hrange

end Run.Triple

/-! ## Errands side by side -/

/-- Whether the answer to a started errand comes if every call is answered. -/
def Run.Started.Arrives (env : Environment σ) : Run.Started σ α → Prop
  | .finished _ => True
  | .waiting _ p _ => env.Answers → p.arrival.isSome

namespace Run.Returns

variable {b : Bounds}

/-- To start an errand takes no time. -/
private theorem start_returns (e : Errand α) :
    Run.Triple env (fun _ => True) (Run.start b e)
      ⟨fun st _ => st.Arrives env, Ended env timeout⟩ := by
  cases e with
  | done a => exact Triple.pure fun _ _ => trivial
  | ask c resume =>
    exact Triple.at_session fun s _ => Triple.start_steps (fun _ _ => trivial)
      (fun _ => Triple.send_sent s) (fun _ _ _ => trivial) (fun _ _ hsent => hsent.arrives)

/-- To start all errands takes what their parts before the calls take. -/
private theorem startAll_returns (errands : List (Run σ (Errand α)))
    (herrands : ∀ e ∈ errands, e.Returns env timeout) :
    Run.Triple env (fun _ => True) (Run.startAll b errands)
      ⟨fun sts _ => ∀ st ∈ sts, st.Arrives env, Ended env timeout⟩ := by
  -- By induction on the errands, in the order in which they are started.
  induction errands with
  | nil => exact Triple.pure fun s hs => by simp
  | cons errand rest ih =>
    rw [List.forall_mem_cons] at herrands
    refine Triple.bind herrands.1 (fun e => ?_) (fun _ _ h => h)
    refine Triple.bind (start_returns e) (fun first => ?_) (fun _ _ h => h)
    refine Triple.extract (fun _ hfirst => ⟨hfirst, trivial⟩) fun hfirst => ?_
    refine Triple.bind (ih herrands.2) (fun sts => Triple.pure fun s hs => ?_) (fun _ _ h => h)
    exact List.forall_mem_cons.mpr ⟨hfirst, hs⟩

/-- While errands are waited for, the deployment is canceled when it was to be. -/
private theorem finish_returns {s₀ : Session σ} (hb : b.Limited) {st : Run.Started σ α}
    (hst : st.Arrives env) :
    Run.Triple env (·.cancelAt = s₀.cancelAt) (Run.finish b s₀ st)
      ⟨fun _ s => s.cancelAt = s₀.cancelAt, Ended env timeout⟩ := by
  cases st with
  | finished a => exact Triple.pure fun _ hs => hs
  | waiting c p resume =>
    refine Triple.at_session fun s hs => Triple.finish_steps (fun _ _ => hs) (fun _ _ _ => hs)
      (fun hnever hlive => ?_)
    -- The wait has an end if anything does, now as when it was settled.
    have hlive₀ : Live env s₀ := hlive.imp id fun h => hs ▸ h
    exact Bounds.waking_ne_never hb hlive₀ hst hnever

/-- To wait for all errands comes to an end. -/
private theorem finishAll_returns {s₀ : Session σ} (hb : b.Limited)
    (waits : List (Nat × Run.Started σ α)) (hwaits : ∀ x ∈ waits, x.2.Arrives env) :
    Run.Triple env (·.cancelAt = s₀.cancelAt) (Run.finishAll b s₀ waits)
      ⟨fun _ s => s.cancelAt = s₀.cancelAt, Ended env timeout⟩ := by
  induction waits with
  | nil => exact Triple.pure fun _ hs => hs
  | cons x waits ih =>
    rw [List.forall_mem_cons] at hwaits
    refine Triple.bind (finish_returns hb hwaits.1) (fun a => ?_) (fun _ _ h => h)
    exact Triple.bind (ih hwaits.2) (fun results => Triple.pure fun _ hs => hs) (fun _ _ h => h)

/-- Errands side by side end if their waits are limited. -/
theorem together (hb : b.Limited) (errands : List (Run σ (Errand α)))
    (herrands : ∀ e ∈ errands, e.Returns env timeout) :
    (Run.together b errands).Returns env timeout := by
  refine Triple.bind (startAll_returns errands herrands) (fun sts => ?_) (fun _ _ h => h)
  refine Triple.session_bind fun s₀ harrive => ?_
  refine (finishAll_returns hb _ fun x hx => ?_).mono (fun s hs => congrArg _ hs)
    (fun _ _ _ => trivial) (fun _ _ h => h)
  -- Those that are waited for are those that were started, in another order.
  rw [List.mem_mergeSort, List.mem_mapIdx] at hx
  obtain ⟨i, hi, rfl⟩ := hx
  exact harrive _ (List.getElem_mem hi)

end Run.Returns

/-! ## Work -/

/-- Work on a value of a kind returns unless it waits for what has no end, and leaves a value of the
kind. -/
def Work.Returns (env : Environment σ) (timeout : Nat) (I : τ → Prop) (x : Work σ τ α) : Prop :=
  ∀ t, I t → Run.Triple env (fun _ => True) (x t) ⟨fun r _ => I r.1, Ended env timeout⟩

namespace Work.Returns

variable {I : τ → Prop} {x : Work σ τ α} {f : α → Work σ τ β}

/-- Work that gives a value returns. -/
theorem pure (a : α) : (Pure.pure a : Work σ τ α).Returns env timeout I :=
  fun _ ht => Run.Triple.pure fun _ _ => ht

/-- Work that fails returns. -/
theorem fail (e : DeployError) : (Work.fail e : Work σ τ α).Returns env timeout I :=
  fun _ ht => Run.Triple.pure fun _ _ => ht

/-- Work that has a result returns. -/
theorem ofExcept (r : Except DeployError α) :
    (Work.ofExcept r : Work σ τ α).Returns env timeout I := by
  cases r with
  | ok a => exact pure a
  | error e => exact fail e

/-- Work that returns may follow each other, on what is left of the value. -/
theorem bind (hx : x.Returns env timeout I) (hf : ∀ a, (f a).Returns env timeout I) :
    (x >>= f).Returns env timeout I := by
  refine fun t ht => Run.Triple.bind (hx t ht) ?_ (fun _ _ h => h)
  rintro ⟨t', e | a⟩
  · exact Run.Triple.pure fun s hs => hs
  · exact Run.Triple.extract (fun _ ht' => ⟨ht', trivial⟩) fun ht' => hf a t' ht'

/-- Work may look at the value that it works on. -/
theorem value_bind {f : τ → Work σ τ β} (h : ∀ t, I t → (f t).Returns env timeout I) :
    (Work.value >>= f).Returns env timeout I :=
  fun t ht => h t ht t ht

/-- A program that returns may be part of work. -/
theorem lift {y : Run σ α} (h : y.Returns env timeout) :
    (Work.lift y : Work σ τ α).Returns env timeout I :=
  fun _ ht => Run.Triple.bind h (fun _ => Run.Triple.pure fun _ _ => ht) fun _ _ h => h

/-- A change that stays within the kind returns. -/
theorem change {g : τ → τ} (h : ∀ t, I t → I (g t)) :
    (Work.change g : Work σ τ Unit).Returns env timeout I :=
  fun t ht => Run.Triple.pure fun _ _ => h t ht

/-- To look at a failure is to return. -/
theorem attempt (h : x.Returns env timeout I) : x.attempt.Returns env timeout I :=
  fun t ht => (h t ht).bind (fun _ => Run.Triple.pure fun _ hs => hs) fun _ _ h => h

/-- So is to rename it. -/
theorem mapError {g : DeployError → DeployError} (h : x.Returns env timeout I) :
    (x.mapError g).Returns env timeout I :=
  fun t ht => (h t ht).bind (fun _ => Run.Triple.pure fun _ hs => hs) fun _ _ h => h

/-- Work on a part of a value. -/
theorem within {part : τ → ρ} {put : τ → ρ → τ} {y : Work σ ρ α} {J : ρ → Prop}
    (hpart : ∀ t, I t → J (part t)) (hput : ∀ t p, I t → J p → I (put t p))
    (hy : y.Returns env timeout J) : (Work.within part put y).Returns env timeout I :=
  fun t ht => (hy (part t) (hpart t ht)).bind
    (fun _ => Run.Triple.pure fun _ hp => hput t _ ht hp) fun _ _ h => h

/-- A call of work heeds the cancellation, so it returns. -/
theorem call (c : Call) (what machine : String) :
    (Work.call c what machine : Work σ τ _).Returns env timeout I := by
  refine fun t ht => Run.Triple.bind (Run.Returns.request (.inl rfl) rfl) (fun r => ?_)
    (fun _ _ h => h)
  split <;> exact Run.Triple.pure fun _ _ => ht

end Work.Returns

end Rollout
