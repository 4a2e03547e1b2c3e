import Rollout.Proofs.Ages
import Rollout.Proofs.Returns

/-!
# Heeding the cancellation

A session gets on by calls, answers, waits and looks at the clock. A program heeds the cancellation
if on its way through the session leases are given up and no other call is made once the deployment
is canceled, and if only so much time passes from then on.

No call and no wait takes any time once the deployment is canceled. So programs that follow each
other take no more time than each by itself.

## Main statements

- `Session.Heeds.trans`: the times that pass after the cancellation add up.
- `Run.Heeds.request`, `Run.Heeds.pause`: a wait that heeds the cancellation ends with it.
- `Run.Heeds.together`, `Run.together_overstays`: so do errands side by side, unless they have a
  deadline of their own.
-/

namespace Rollout

variable {σ τ ρ α β : Type} {env : Environment σ}

/-! ## Sessions -/

namespace Session

/-- Whether a call may be made in a session. Once the deployment is canceled, leases are given up
and nothing else is called. -/
def Admits (s : Session σ) (c : Call) : Prop :=
  s.isCanceled = true → ∃ id nonce, c = .release id nonce

/-- Whether a session gets from one state to another, step by step, and admits every call on the
way when it is made. -/
inductive Leads (env : Environment σ) (s : Session σ) : Session σ → Prop where
  | start : Leads env s s
  | asks {m : Session σ} {c : Call} (h : Leads env s m) (hadmits : m.Admits c) :
      Leads env s (Run.send c env m).2
  | takes {m : Session σ} {c : Call} (h : Leads env s m) (p : Run.Pending σ c) :
      Leads env s (Run.collect p env m).2
  | waits {m : Session σ} (h : Leads env s m) (time : Nat) : Leads env s (m.passTo time)
  | looks {m : Session σ} (h : Leads env s m) : Leads env s (Run.readClock env m).2
  | draws {m : Session σ} (h : Leads env s m) (schedule : Backoff) :
      Leads env s (Run.drawDelay schedule env m).2
  | reports {m : Session σ} (h : Leads env s m) (r : Reporter) (message : String) :
      Leads env s (Run.report r message env m).2
  | drops {m : Session σ} (h : Leads env s m) (machine nonce : String) :
      Leads env s (Run.drop machine nonce env m).2

variable {s m s' : Session σ} {grace grace' t : Nat}

/-- Making a call takes no time. -/
theorem now_send (c : Call) (env : Environment σ) (s : Session σ) :
    (Run.send c env s).2.now = s.now := by
  simp only [Run.send]
  split <;> rfl

/-- A call that is made cancels the deployment right then, or leaves the cancellation as it is. -/
theorem cancelAt_send (c : Call) (env : Environment σ) (s : Session σ) :
    (Run.send c env s).2.cancelAt = s.cancelAt ∨ (Run.send c env s).2.cancelAt = some s.now := by
  simp only [Run.send]
  split
  · cases hcancel : s.cancelAt with
    | none =>
      right
      simp [cancel, log, hcancel]
    | some t =>
      simp only [cancel, log, hcancel, Option.getD_some]
      -- It was to be canceled already: the earlier of the two moments counts.
      rcases Nat.le_total t s.now with hle | hle
      · exact .inl (congrArg some (Nat.min_eq_left hle))
      · exact .inr (congrArg some (Nat.min_eq_right hle))
  · exact .inl rfl

/-- A call that is made is the latest thing that happened. -/
theorem past_send (c : Call) (env : Environment σ) (s : Session σ) :
    (Run.send c env s).2.past = .asked c s.now :: s.past := by
  simp only [Run.send]
  split <;> rfl

namespace Leads

/-- What leads on from where something led is led to from its beginning. -/
theorem trans (h : s.Leads env m) (h' : m.Leads env s') : s.Leads env s' := by
  -- By induction on the second part: its last step comes last.
  induction h' with
  | start => exact h
  | asks _ hadmits ih => exact ih.asks hadmits
  | takes _ p ih => exact ih.takes p
  | waits _ time ih => exact ih.waits time
  | looks _ ih => exact ih.looks
  | draws _ schedule ih => exact ih.draws schedule
  | reports _ r message ih => exact ih.reports r message
  | drops _ machine nonce ih => exact ih.drops machine nonce

/-- A session is older than what it led from. -/
theorem precedes (h : s.Leads env s') : s.Precedes s' := by
  induction h with
  | start => exact .refl s
  | asks _ _ ih => exact ih.trans (Run.Ages.send _ env _)
  | takes _ p ih => exact ih.trans (Run.Ages.collect p env _)
  | waits _ time ih => exact ih.trans (.passTo _ time)
  | looks _ ih => exact ih.trans (Run.Ages.readClock env _)
  | draws _ schedule ih => exact ih.trans (Run.Ages.drawDelay schedule env _)
  -- A note is all that is added.
  | reports _ r message ih | drops _ machine nonce ih =>
    exact ih.trans (.of_cancelAt_eq (Nat.le_refl _) rfl (List.suffix_cons _ _))

/-- A deployment is canceled when it was to be, or later than it came from. -/
theorem cancelAt_eq (h : s.Leads env s') (ht : s'.cancelAt = some t) :
    s.cancelAt = some t ∨ s.now ≤ t := by
  induction h generalizing t with
  | start => exact .inl ht
  -- Only a call can bring the cancellation about.
  | asks hleads _ ih =>
    rename_i m c _
    rcases cancelAt_send c env m with heq | heq
    · exact ih (heq.symm.trans ht)
    · obtain rfl := Option.some.inj (heq.symm.trans ht)
      exact .inr hleads.precedes.now
  | takes _ _ ih | waits _ _ ih | looks _ ih | draws _ _ ih | reports _ _ _ ih
    | drops _ _ _ ih => exact ih ht

/-- A deployment that is to be canceled stays so. -/
theorem cancelAt_isSome (h : s.Leads env s') (hs : s.cancelAt.isSome) : s'.cancelAt.isSome := by
  induction h with
  | start => exact hs
  | asks _ _ ih =>
    rename_i m c _ _
    rcases cancelAt_send c env m with heq | heq
    · rw [heq]
      exact ih
    · rw [heq]
      rfl
  | takes _ _ ih | waits _ _ ih | looks _ ih | draws _ _ ih | reports _ _ _ ih
    | drops _ _ _ ih => exact ih

end Leads

/-- What is known of the calls that were made since an earlier session: none is of a time that is
yet to come, and those since the cancellation gave up leases. -/
def CallsHeed (s s' : Session σ) : Prop :=
  ∃ new, s'.past = new ++ s.past ∧ ∀ c time, .asked c time ∈ new → time ≤ s'.now ∧
    ∀ t, s'.cancelAt = some t → t < time → ∃ id nonce, c = .release id nonce

namespace CallsHeed

/-- What is no call and leaves the cancellation as it is. -/
theorem quiet (h : s.CallsHeed m) (steps : List Step) (hpast : s'.past = steps ++ m.past)
    (hsteps : ∀ c time, .asked c time ∉ steps) (hnow : m.now ≤ s'.now)
    (hcancel : s'.cancelAt = m.cancelAt) : s.CallsHeed s' := by
  obtain ⟨new, hnew, hcalls⟩ := h
  refine ⟨steps ++ new, by rw [hpast, hnew, List.append_assoc], fun c time hmem => ?_⟩
  rcases List.mem_append.mp hmem with hmem | hmem
  · exact (hsteps c time hmem).elim
  · obtain ⟨hle, hrelease⟩ := hcalls c time hmem
    refine ⟨Nat.le_trans hle hnow, ?_⟩
    rw [hcancel]
    exact hrelease

/-- A call that is admitted keeps the calls in order. -/
theorem asks (h : s.CallsHeed m) {c : Call} (hadmits : m.Admits c) :
    s.CallsHeed (Run.send c env m).2 := by
  obtain ⟨new, hnew, hcalls⟩ := h
  have hnow := now_send c env m
  refine ⟨.asked c m.now :: new, by rw [past_send, hnew, List.cons_append], fun c' time hmem => ?_⟩
  rcases List.mem_cons.mp hmem with heq | hmem
  · obtain ⟨rfl, rfl⟩ : c' = c ∧ time = m.now := by
      cases heq
      exact ⟨rfl, rfl⟩
    refine ⟨Nat.le_of_eq hnow.symm, fun t ht hlt => ?_⟩
    -- A call that cancels the deployment itself is made before the cancellation.
    rcases cancelAt_send c' env m with hsame | hself
    · exact hadmits (isCanceled_iff.mpr ⟨t, hsame.symm.trans ht, Nat.le_of_lt hlt⟩)
    · have heq := Option.some.inj (hself.symm.trans ht)
      omega
  · -- An earlier call was made before the cancellation or gave a lease up, whether this one cancels
    -- or not.
    obtain ⟨hle, hrelease⟩ := hcalls c' time hmem
    refine ⟨hnow ▸ hle, fun t ht hlt => ?_⟩
    rcases cancelAt_send c env m with hsame | hself
    · exact hrelease t (hsame.symm.trans ht) hlt
    · have heq := Option.some.inj (hself.symm.trans ht)
      omega

end CallsHeed

/-- Where every call was admitted, those since the cancellation gave up leases. -/
theorem Leads.callsHeed (h : s.Leads env s') : s.CallsHeed s' := by
  -- By induction on the steps: only a call adds one to the calls.
  induction h with
  | start => exact ⟨[], rfl, fun _ _ hmem => by cases hmem⟩
  | asks _ hadmits ih => exact ih.asks hadmits
  | takes _ p ih => exact ih.quiet [_] rfl (by simp) (Nat.le_refl _) rfl
  | waits _ time ih => exact ih.quiet [] rfl (by simp) (Nat.le_max_left _ _) rfl
  | looks _ ih => exact ih.quiet [_] rfl (by simp) (Nat.le_refl _) rfl
  | draws _ schedule ih => exact ih.quiet [] rfl (by simp) (Nat.le_refl _) rfl
  | reports _ r message ih => exact ih.quiet [_] rfl (by simp) (Nat.le_refl _) rfl
  | drops _ machine nonce ih => exact ih.quiet [_] rfl (by simp) (Nat.le_refl _) rfl

/-- Whether a session gets from one state to another and heeds the cancellation: it admits every
call, and only so much time passes once the deployment is canceled. -/
structure Heeds (env : Environment σ) (grace : Nat) (s s' : Session σ) : Prop where
  leads : s.Leads env s'
  within : ∀ t, s'.cancelAt = some t → s'.now ≤ max s.now t + grace

namespace Heeds

/-- No time passes by itself. -/
theorem at_once (h : s.Leads env s') (hnow : s'.now = s.now) : s.Heeds env 0 s' :=
  ⟨h, fun t _ => by omega⟩

/-- Where nothing happens, no time is lost. -/
theorem refl (s : Session σ) : s.Heeds env 0 s := at_once .start rfl

/-- What loses so much time loses no more than more. -/
theorem mono (h : s.Heeds env grace s') (hle : grace ≤ grace') : s.Heeds env grace' s' :=
  ⟨h.leads, fun t ht => Nat.le_trans (h.within t ht) (Nat.add_le_add_left hle _)⟩

/-- The times that pass after the cancellation add up. -/
theorem trans (h : s.Heeds env grace m) (h' : m.Heeds env grace' s') :
    s.Heeds env (grace + grace') s' := by
  refine ⟨h.leads.trans h'.leads, fun t ht => ?_⟩
  have hlater := h'.within t ht
  -- The deployment was to be canceled then already, or it was not canceled before.
  rcases h'.leads.cancelAt_eq ht with hcancel | hle
  · have hbefore := h.within t hcancel
    omega
  · omega

/-- As long as the deployment is not canceled, no time is lost. -/
theorem of_isCanceled_eq_false (h : s.Leads env s') (hs : s'.isCanceled = false) :
    s.Heeds env 0 s' := by
  refine ⟨h, fun t ht => ?_⟩
  have hlt : ¬ t ≤ s'.now := fun hle =>
    Bool.eq_false_iff.mp hs (isCanceled_iff.mpr ⟨t, ht, hle⟩)
  omega

end Heeds

end Session

/-! ## Bounds -/

namespace Bounds

variable {b : Bounds} {s : Session σ}

/-- A wait that heeds the cancellation is cut off no later than it. -/
theorem cutoff_le_cancelAt {t : Nat} (hb : b.heedsCancel = true) (ht : s.cancelAt = some t) :
    ∃ cut, b.cutoff s = some cut ∧ cut.2 ≤ t := by
  unfold cutoff cancelTime
  rw [if_pos hb, ht]
  cases b.deadline with
  | none => exact ⟨_, rfl, Nat.le_refl _⟩
  -- The deadline may come first.
  | some d =>
    refine ⟨_, rfl, ?_⟩
    split
    · exact Nat.le_refl _
    · dsimp only
      omega

/-- A wait that heeds the cancellation is interrupted by one that came before. -/
theorem interruption?_of_isCanceled (hb : b.heedsCancel = true) (hs : s.isCanceled = true) :
    b.interruption? s = some .canceled := by
  unfold Session.isCanceled at hs
  unfold interruption? cancelTime
  rw [if_pos hb, if_pos hs]

/-- Where nothing interrupts, a wait that heeds the cancellation is not canceled. -/
theorem admits_of_heedsCancel (hb : b.heedsCancel = true) (hs : b.interruption? s = none)
    (c : Call) : s.Admits c := by
  intro hcanceled
  rw [interruption?_of_isCanceled hb hcanceled] at hs
  cases hs

end Bounds

/-! ## Programs -/

/-- A program that is started in a session heeds the cancellation, but for so much time. -/
def Run.HeedsFrom (env : Environment σ) (s : Session σ) (grace : Nat) (x : Run σ α) : Prop :=
  s.Heeds env grace (x env s).2

/-- A program heeds the cancellation, but for so much time. -/
def Run.Heeds (grace : Nat) (x : Run σ α) : Prop :=
  ∀ (env : Environment σ) (s : Session σ), x.HeedsFrom env s grace

namespace Run.HeedsFrom

variable {s : Session σ} {x : Run σ α} {f : α → Run σ β} {grace : Nat} {b : Bounds}

/-- To give a result takes no time. -/
theorem pure (a : α) : (Pure.pure a : Run σ α).HeedsFrom env s 0 := .refl s

/-- What never ends makes no call and lets no time pass. -/
theorem hang : (Run.hang : Run σ α).HeedsFrom env s 0 := .refl s

/-- That a program heeds the cancellation, as a triple. -/
theorem triple (h : x.HeedsFrom env s grace) :
    Run.Triple env (· = s) x ⟨fun _ => s.Heeds env grace, fun _ => s.Heeds env grace⟩ := by
  intro s' hs'
  subst hs'
  unfold HeedsFrom at h
  revert h
  rcases x env s' with ⟨_ | _ | _, s''⟩ <;> exact id

/-- What a program goes on with starts from where the program ended. -/
theorem bind (hx : x.HeedsFrom env s 0)
    (hf : ∀ a s', x env s = (.done a, s') → (f a).HeedsFrom env s' grace) :
    (x >>= f).HeedsFrom env s grace := by
  unfold HeedsFrom at hx
  rw [HeedsFrom, bind_run]
  revert hx hf
  rcases x env s with ⟨a | _ | _, s'⟩
  · -- What the first part loses is nothing.
    exact fun hx hf => (hx.trans (hf a s' rfl)).mono (Nat.le_of_eq (Nat.zero_add _))
  · exact fun hx _ => hx.mono (Nat.zero_le _)
  · exact fun hx _ => hx.mono (Nat.zero_le _)

/-- To look at the session takes no time. -/
theorem session_bind {f : Session σ → Run σ β} (h : (f s).HeedsFrom env s grace) :
    (session >>= f).HeedsFrom env s grace := h

/-- A call that is admitted may be made. -/
theorem send {c : Call} (h : s.Admits c) : (Run.send c).HeedsFrom env s 0 :=
  .at_once (.asks .start h) (Session.now_send c env s)

/-- A wait that heeds the cancellation ends with it. -/
theorem waitUntil (hb : b.heedsCancel = true) {arrival : Option Nat} {time : Nat}
    (h : (b.waking s arrival).time? = some time) :
    (Run.waitUntil time : Run σ Unit).HeedsFrom env s 0 := by
  refine ⟨.waits .start time, fun t ht => ?_⟩
  obtain ⟨cut, hcut, hle⟩ := Bounds.cutoff_le_cancelAt (s := s) hb ht
  obtain ⟨time', htime, hle'⟩ := Bounds.waking_le hcut arrival
  obtain rfl := Option.some.inj (h.symm.trans htime)
  show max s.now time ≤ _
  omega

end Run.HeedsFrom

namespace Run.Heeds

variable {x : Run σ α} {f : α → Run σ β} {grace : Nat} {b : Bounds}

/-- To give a result takes no time, wherever it is done. -/
theorem pure (a : α) : (Pure.pure a : Run σ α).Heeds 0 := fun _ _ => .pure a

/-- Programs that lose no time may come before one that is given some. -/
theorem bind (hx : x.Heeds 0) (hf : ∀ a, (f a).Heeds grace) : (x >>= f).Heeds grace :=
  fun env s => (hx env s).bind fun a s' _ => hf a env s'

/-- Reading the clock takes no time. -/
theorem readClock : (Run.readClock : Run σ Int).Heeds 0 :=
  fun _ _ => .at_once (.looks .start) rfl

/-- A report takes no time. -/
theorem report (r : Reporter) (message : String) : (Run.report r message : Run σ Unit).Heeds 0 :=
  fun _ _ => .at_once (.reports .start r message) rfl

/-- Taking an answer that is there takes no time. -/
theorem collect {c : Call} (p : Pending σ c) : (Run.collect p).Heeds 0 :=
  fun _ _ => .at_once (.takes .start p) rfl

/-- Drawing a delay takes no time. -/
theorem drawDelay (schedule : Backoff) : (Run.drawDelay schedule : Run σ _).Heeds 0 :=
  fun _ _ => .at_once (.draws .start schedule) rfl

/-- Fixing a deadline takes no time. -/
theorem deadlineAfter (timeout : Nat) : (Run.deadlineAfter timeout : Run σ Nat).Heeds 0 := by
  intro env s
  unfold HeedsFrom Run.deadlineAfter
  split <;> exact .refl s

/-- A request within bounds that heed the cancellation ends with it. -/
theorem request (hb : b.heedsCancel = true) (c : Call) :
    (Run.request b c : Run σ _).Heeds 0 := by
  intro env s
  refine .session_bind ?_
  split
  · -- It is interrupted before it begins.
    exact .pure _
  · rename_i hi
    have htake : ∀ p : Pending σ c, (do return .ok (← Run.collect p) :
        Run σ (Except Interruption c.Outcome)).Heeds 0 :=
      fun p => (collect p).bind fun _ => pure _
    refine (HeedsFrom.send (Bounds.admits_of_heedsCancel hb hi c)).bind fun p s₁ _ => ?_
    -- The answer came with the call, or it is waited for within the bounds.
    split
    · exact htake p env s₁
    · refine .session_bind ?_
      split
      · rename_i ht
        exact (HeedsFrom.waitUntil hb (congrArg Waking.time? ht)).bind fun _ s₂ _ =>
          htake p env s₂
      · rename_i ht
        exact (HeedsFrom.waitUntil hb (congrArg Waking.time? ht)).bind fun _ _ _ => .pure _
      · -- Without an answer and without an end nothing happens any more.
        exact .hang

/-- A pause within bounds that heed the cancellation ends with it. -/
theorem pause (hb : b.heedsCancel = true) (schedule : Backoff) :
    (Run.pause b schedule : Run σ _).Heeds 0 := by
  refine (drawDelay schedule).bind fun drawn env s => .session_bind ?_
  split
  · exact .pure _
  · split
    · rename_i ht
      exact (HeedsFrom.waitUntil hb (congrArg Waking.time? ht)).bind fun _ _ _ => .pure _
    · rename_i ht
      exact (HeedsFrom.waitUntil hb (congrArg Waking.time? ht)).bind fun _ _ _ => .pure _
    · exact .hang

variable {ask : Bounds → Nat → Run σ (Except Interruption (Except ApiError ρ))}
variable {accept : ρ → Option α}

/-- So does a poll, round after round. -/
theorem pollFor (hb : b.heedsCancel = true) (hask : ∀ left, (ask b left).Heeds 0)
    (deadline rounds : Nat) (schedule : Backoff) (last : Option ρ) :
    (Run.pollFor b deadline ask accept rounds schedule last).Heeds 0 := by
  -- By induction on the rounds that are left.
  induction rounds generalizing schedule last with
  | zero => exact fun _ _ => .hang
  | succ rounds ih =>
    -- A round is a call and a pause, and both end with the cancellation.
    refine fun env s => .session_bind ((hask _ env s).bind fun r s₁ _ => ?_)
    split
    · exact .pure _
    · refine (pause hb schedule env s₁).bind fun paused s₂ _ => ?_
      split
      · exact .pure _
      · exact ih _ _ env s₂

/-- A poll heeds the cancellation if its requests do. -/
theorem poll (hask : ∀ b left, b.heedsCancel = true → (ask b left).Heeds 0) (timeout : Nat)
    (schedule : Backoff) : (Run.poll timeout schedule ask accept).Heeds 0 :=
  (deadlineAfter timeout).bind fun _ => pollFor rfl (fun left => hask _ left rfl) _ _ _ _

end Run.Heeds

/-! ## Errands side by side -/

/-- Whether an errand may be started within bounds: they heed the cancellation, or it gives a lease
up. -/
def Errand.Heeds (b : Bounds) : Errand α → Prop
  | .done _ => True
  | .ask c _ => b.heedsCancel = true ∨ ∃ id nonce, c = .release id nonce

namespace Session

variable {s m s' : Session σ} {b : Bounds}

/-- Whether a session gets from one state to another in no time. -/
structure Instantly (env : Environment σ) (s s' : Session σ) : Prop where
  leads : s.Leads env s'
  now : s'.now = s.now

/-- What takes no time and what takes no time after it take none together. -/
theorem Instantly.trans (h : s.Instantly env m) (h' : m.Instantly env s') :
    s.Instantly env s' :=
  ⟨h.leads.trans h'.leads, h'.now.trans h.now⟩

/-- Whether waits that were bounded in a session have ended in another. -/
structure Awaits (env : Environment σ) (b : Bounds) (s s' : Session σ) : Prop where
  leads : s.Leads env s'
  cancelAt : s'.cancelAt = s.cancelAt
  now_le : ∀ cut, b.cutoff s = some cut → s'.now ≤ max s.now cut.2

/-- Before any wait has ended the session is the one they were bounded in. -/
theorem Awaits.refl (s : Session σ) : s.Awaits env b s :=
  ⟨.start, rfl, fun _ _ => Nat.le_max_left _ _⟩

/-- The end of one more wait is no later than the cutoff of all. -/
theorem Awaits.waits (h : s.Awaits env b m) {arrival : Option Nat} {time : Nat}
    (htime : (b.waking s arrival).time? = some time) : s.Awaits env b (m.passTo time) := by
  refine ⟨h.leads.waits time, h.cancelAt, fun cut hcut => ?_⟩
  obtain ⟨time', htime', hle⟩ := Bounds.waking_le hcut arrival
  obtain rfl := Option.some.inj (htime.symm.trans htime')
  have hbefore := h.now_le cut hcut
  show max m.now time ≤ _
  omega

/-- An answer that is taken ends no later. -/
theorem Awaits.takes (h : s.Awaits env b m) {c : Call} (p : Run.Pending σ c) :
    s.Awaits env b (Run.collect p env m).2 :=
  ⟨h.leads.takes p, h.cancelAt, h.now_le⟩

end Session

/-- A program prepares an errand in no time, and one that may be started. -/
def Run.Prepares (b : Bounds) (x : Run σ (Errand α)) : Prop :=
  ∀ (env : Environment σ) (s : Session σ), Run.Triple env (· = s) x
    ⟨fun e s' => s.Instantly env s' ∧ e.Heeds b, fun _ s' => s.Instantly env s'⟩

namespace Run.Prepares

variable {b : Bounds}

/-- An errand that is ready is prepared. -/
theorem pure {e : Errand α} (he : e.Heeds b) : (Pure.pure e : Run σ _).Prepares b := by
  intro env s
  refine Run.Triple.pure fun m hm => ?_
  subst hm
  exact ⟨⟨.start, rfl⟩, he⟩

/-- What is done in no time may come first. -/
theorem after {x : Run σ β} {f : β → Run σ (Errand α)}
    (hx : ∀ (env : Environment σ) (s : Session σ), ∃ a s', x env s = (.done a, s') ∧
      s.Instantly env s') (hf : ∀ a, (f a).Prepares b) : (x >>= f).Prepares b := by
  intro env s m hm
  subst hm
  obtain ⟨a, s', hrun, hinstantly⟩ := hx env m
  have hnext : Run.Triple env (· = s') (f a) ⟨fun e s'' => m.Instantly env s'' ∧ e.Heeds b,
      fun _ s'' => m.Instantly env s''⟩ :=
    (hf a env s').mono (fun _ hs => hs) (fun _ _ hs => ⟨hinstantly.trans hs.1, hs.2⟩)
      (fun _ _ hs => hinstantly.trans hs)
  rw [bind_run, hrun]
  exact hnext s' rfl

/-- The clock may be read before an errand is prepared. -/
theorem readClock_bind {f : Int → Run σ (Errand α)} (hf : ∀ now, (f now).Prepares b) :
    (Run.readClock >>= f).Prepares b :=
  after (fun _ _ => ⟨_, _, rfl, .looks .start, rfl⟩) hf

end Run.Prepares

namespace Run.Triple

variable {s : Session σ} {b : Bounds}

/-- An errand is started in no time. -/
theorem start_instantly {e : Errand α} (he : e.Heeds b) :
    Run.Triple env (s.Instantly env) (Run.start b e)
      ⟨fun _ => s.Instantly env, fun _ => s.Instantly env⟩ := by
  cases e with
  | done a => exact pure fun _ hs => hs
  | ask c resume =>
    refine at_session fun m hm => ?_
    refine start_steps (S := fun _ => s.Instantly env) (fun _ _ => hm) (fun hfree => ?_)
      (fun p _ hm' => ⟨hm'.leads.takes p, hm'.now⟩) (fun _ _ hm' => hm')
    -- The call is admitted: the bounds heed the cancellation, or it gives a lease up.
    have hadmits : m.Admits c := by
      rcases he with hb | hrelease
      · exact Bounds.admits_of_heedsCancel hb hfree c
      · exact fun _ => hrelease
    rintro _ rfl
    exact ⟨hm.leads.asks hadmits, (Session.now_send c env _).trans hm.now⟩

/-- All errands are started in no time. -/
theorem startAll_instantly {errands : List (Run σ (Errand α))}
    (herrands : ∀ x ∈ errands, x.Prepares b) :
    Run.Triple env (s.Instantly env) (Run.startAll b errands)
      ⟨fun _ => s.Instantly env, fun _ => s.Instantly env⟩ := by
  -- By induction on the errands.
  induction errands with
  | nil => exact pure fun _ hs => hs
  | cons x rest ih =>
    rw [List.forall_mem_cons] at herrands
    refine bind (R := ⟨fun e m => s.Instantly env m ∧ e.Heeds b, fun _ => s.Instantly env⟩)
      (at_session fun m hm => ?_) (fun e => ?_) (fun _ _ h => h)
    · exact (herrands.1 env m).mono (fun _ h => h) (fun _ _ h => ⟨hm.trans h.1, h.2⟩)
        (fun _ _ h => hm.trans h)
    · refine extract (fun _ h => And.symm h) fun he => ?_
      refine bind (start_instantly he) (fun first => ?_) (fun _ _ h => h)
      exact bind (ih herrands.2) (fun _ => pure fun _ h => h) (fun _ _ h => h)

/-- The wait for an errand ends by its bounds. -/
theorem finish_awaits (st : Run.Started σ α) :
    Run.Triple env (s.Awaits env b) (Run.finish b s st)
      ⟨fun _ => s.Awaits env b, fun _ => s.Awaits env b⟩ := by
  cases st with
  | finished a => exact pure fun _ hs => hs
  | waiting c p resume =>
    -- If the wait has no end, no time passes that is counted.
    exact at_session fun m hm => finish_steps
      (fun _ ht => (hm.waits (congrArg Waking.time? ht)).takes p)
      (fun _ _ ht => hm.waits (congrArg Waking.time? ht)) (fun _ => hm)

/-- The waits for all errands end by their bounds. -/
theorem finishAll_awaits (waits : List (Nat × Run.Started σ α)) :
    Run.Triple env (s.Awaits env b) (Run.finishAll b s waits)
      ⟨fun _ => s.Awaits env b, fun _ => s.Awaits env b⟩ := by
  -- The bounds are those of the moment when the waits began, so they stay for the next wait.
  induction waits with
  | nil => exact pure fun _ hs => hs
  | cons x waits ih =>
    refine bind (finish_awaits x.2) (fun a => ?_) (fun _ _ h => h)
    exact bind ih (fun _ => pure fun _ h => h) (fun _ _ h => h)

/-- Errands side by side are all started in no time, and then their waits end. -/
theorem together_awaits {errands : List (Run σ (Errand α))}
    (herrands : ∀ x ∈ errands, x.Prepares b) (s : Session σ) :
    Run.Triple env (· = s) (Run.together b errands)
      ⟨fun _ s' => ∃ m, s.Instantly env m ∧ m.Awaits env b s',
        fun _ s' => ∃ m, s.Instantly env m ∧ m.Awaits env b s'⟩ := by
  -- All calls are made in the session `m`, and the waits are bounded as of then.
  refine bind ((startAll_instantly herrands).pre fun s' hs' => ?_) (fun sts => ?_)
    (fun _ m hm => ⟨m, hm, .refl m⟩)
  · subst hs'
    exact ⟨.start, rfl⟩
  · refine session_bind fun m hm => ?_
    refine (finishAll_awaits _).mono (fun s' hs' => ?_) (fun _ s' hs' => ⟨m, hm, hs'⟩)
      (fun _ s' hs' => ⟨m, hm, hs'⟩)
    subst hs'
    exact .refl s'

end Run.Triple

namespace Run

variable {b : Bounds} {errands : List (Run σ (Errand α))}

/-- Errands side by side that heed the cancellation end with it. -/
theorem Heeds.together (hb : b.heedsCancel = true) (herrands : ∀ x ∈ errands, x.Prepares b) :
    (Run.together b errands).Heeds 0 := by
  intro env s
  obtain ⟨m, hm, hends⟩ := (Triple.together_awaits herrands s).always rfl
  refine ⟨hm.leads.trans hends.leads, fun t ht => ?_⟩
  -- Waits do not cancel, so the cancellation was to come when they began.
  obtain ⟨cut, hcut, hle⟩ := Bounds.cutoff_le_cancelAt hb (hends.cancelAt.symm.trans ht)
  have hnow := hends.now_le cut hcut
  have hstart := hm.now
  omega

/-- Errands side by side that have a deadline end with it. -/
theorem together_overstays {deadline : Nat} (hdeadline : b.deadline = some deadline)
    (herrands : ∀ x ∈ errands, x.Prepares b) (env : Environment σ) (s : Session σ) :
    s.Leads env (Run.together b errands env s).2 ∧
      (Run.together b errands env s).2.now ≤ max s.now deadline := by
  obtain ⟨m, hm, hends⟩ := (Triple.together_awaits herrands s).always rfl
  refine ⟨hm.leads.trans hends.leads, ?_⟩
  obtain ⟨cut, hcut⟩ : ∃ cut, b.cutoff m = some cut :=
    Option.isSome_iff_exists.mp (Bounds.cutoff_isSome_of_deadline (by rw [hdeadline]; rfl))
  have hnow := hends.now_le cut hcut
  have hle := Bounds.cutoff_le hcut hdeadline
  have hstart := hm.now
  omega

end Run

/-! ## Work that desists -/

/-- Once the deployment is canceled, a request that heeds it is not made. -/
theorem Run.Triple.request_canceled {b : Bounds} (hb : b.heedsCancel = true) (c : Call) :
    Run.Triple env (·.isCanceled = true) (Run.request b c)
      ⟨fun r _ => r = .error .canceled, fun _ _ => False⟩ := by
  refine session_bind fun s hs => ?_
  rw [Bounds.interruption?_of_isCanceled hb hs]
  exact pure fun _ _ => rfl

/-- Once the deployment is canceled, a poll ends before its first call. -/
theorem Run.Triple.poll_canceled
    {ask : Bounds → Nat → Run σ (Except Interruption (Except ApiError ρ))} {accept : ρ → Option α}
    (hask : ∀ b left, b.heedsCancel = true → Run.Triple env (·.isCanceled = true) (ask b left)
      ⟨fun r _ => r = .error .canceled, fun _ _ => False⟩) (timeout : Nat) (schedule : Backoff) :
    Run.Triple env (·.isCanceled = true) (Run.poll timeout schedule ask accept)
      ⟨fun result _ => result.verdict = .error (.interrupted .canceled), fun _ _ => True⟩ := by
  refine bind (R := ⟨fun _ s => s.isCanceled = true, fun _ _ => True⟩) (fun s hs => ?_)
    (fun deadline => session_bind fun s hs => ?_) (fun _ _ _ => trivial)
  · -- A deadline may be out of the clock's range; else the first request finds the cancellation.
    simp only [Run.deadlineAfter]
    split
    · exact hs
    · trivial
  · refine bind ((hask _ _ rfl).pre fun s' hs' => hs' ▸ hs) (fun r => ?_) (fun _ _ h => h.elim)
    intro s' hr
    subst hr
    rfl

/-- Whether work does not succeed once the deployment is canceled. -/
def Work.Desists (x : Work σ τ α) : Prop :=
  ∀ env : Environment σ, Work.Triple env (fun _ s => s.isCanceled = true) x
    ⟨fun _ _ _ => False, fun _ _ _ => True, fun _ _ => True⟩

namespace Work.Desists

variable {x : Work σ τ α} {f : α → Work σ τ β}

/-- Work that fails desists. -/
theorem fail (e : DeployError) : (Work.fail e : Work σ τ α).Desists :=
  fun _ => Work.Triple.fail fun _ _ _ => trivial

/-- Work desists if its first part does. -/
theorem bind (hx : x.Desists) : (x >>= f).Desists :=
  fun env => Work.Triple.bind (hx env) (fun _ _ _ h => h.elim) (fun _ _ _ h => h) (fun _ _ h => h)

/-- A deployment stays canceled, so what comes next desists. -/
theorem bind_next (hx : x.Ages) (hf : ∀ a, (f a).Desists) : (x >>= f).Desists := by
  refine fun env t => Run.Triple.at_session fun s hs => ?_
  refine Run.Triple.bind ((hx t).triple s) ?_ (fun _ _ _ => trivial)
  rintro ⟨t', e | a⟩
  · exact Run.Triple.pure fun _ _ => trivial
  · exact (hf a env t').pre fun _ hm => hm.canceled hs

/-- The words of a failure are of no matter to it. -/
theorem mapError {g : DeployError → DeployError} (h : x.Desists) : (x.mapError g).Desists :=
  fun env => Work.Triple.mapError (h env)

/-- Work on a part desists as work on the whole. -/
theorem within {part : τ → ρ} {put : τ → ρ → τ} {y : Work σ ρ α} (h : y.Desists) :
    (Work.within part put y).Desists :=
  fun env => Work.Triple.within fun t => h env (part t)

end Work.Desists

/-! ## Work -/

/-- Work heeds the cancellation, but for so much time if it succeeds and so much if it fails. -/
def Work.Post.heeding (env : Environment σ) (s : Session σ) (ok error : Nat) : Work.Post σ τ α where
  ok _ _ := s.Heeds env ok
  error _ _ := s.Heeds env error
  halts _ := s.Heeds env error

/-- Work heeds the cancellation wherever it is started. -/
def Work.Heeds (ok error : Nat) (x : Work σ τ α) : Prop :=
  ∀ (env : Environment σ) (s : Session σ),
    Work.Triple env (fun _ m => m = s) x (.heeding env s ok error)

namespace Work.Heeds

variable {x : Work σ τ α} {f : α → Work σ τ β} {ok error : Nat} {s : Session σ}

/-- Work that follows something adds its time. -/
theorem after (h : x.Heeds ok error) (env : Environment σ) (s : Session σ) (grace : Nat) :
    Work.Triple env (fun _ m => s.Heeds env grace m) x
      (.heeding env s (grace + ok) (grace + error)) := by
  refine fun t => Run.Triple.at_session fun m hm => ?_
  refine (h env m t).mono (fun _ hs => hs) ?_ (fun _ _ hs => hm.trans hs)
  -- The time before is added whether the work succeeds or fails.
  rintro ⟨t', e | a⟩ s' hs
  · exact hm.trans hs
  · exact hm.trans hs

/-- Work that loses so much time may be given more. -/
theorem mono {ok' error' : Nat} (h : x.Heeds ok error) (hok : ok ≤ ok') (herror : error ≤ error') :
    x.Heeds ok' error' :=
  fun env s => Work.Triple.mono (h env s) (fun _ _ hs => hs) (fun _ _ _ hs => hs.mono hok)
    (fun _ _ _ hs => hs.mono herror) (fun _ _ hs => hs.mono herror)

/-- Work that loses no time may stand where failure is given some. -/
theorem prompt (h : x.Heeds 0 0) : x.Heeds 0 error := h.mono (Nat.le_refl _) (Nat.zero_le _)

/-- A program as work, where the value is of no matter. -/
theorem of_run {x : Work σ τ α} (h : ∀ t, (x t).Heeds 0) : x.Heeds 0 0 := by
  intro env s t m hm
  subst hm
  have h := h t env m
  unfold Run.HeedsFrom at h
  revert h
  rcases x t env m with ⟨⟨t', e | a⟩ | _ | _, s'⟩ <;> exact id

/-- Work that heeds the cancellation as a program. -/
theorem run (h : x.Heeds 0 0) (t : τ) : (x t).Heeds 0 := by
  intro env s
  have h := h env s t s rfl
  unfold Run.HeedsFrom
  revert h
  rcases x t env s with ⟨⟨t', e | a⟩ | _ | _, s'⟩ <;> exact id

/-- Work that heeds the cancellation ages the session. -/
theorem ages (h : x.Heeds ok error) : x.Ages := by
  intro t env s
  have h := h env s t s rfl
  revert h
  rcases x t env s with ⟨⟨t', e | a⟩ | _ | _, s'⟩ <;> exact fun h => h.leads.precedes

/-- Work that gives a result takes no time. -/
theorem pure (a : α) : (Pure.pure a : Work σ τ α).Heeds 0 0 := of_run fun _ => .pure _

/-- Work that fails takes no time. -/
theorem fail (e : DeployError) : (Work.fail e : Work σ τ α).Heeds 0 0 := of_run fun _ => .pure _

/-- Work that is decided already takes no time. -/
theorem ofExcept (r : Except DeployError α) : (Work.ofExcept r : Work σ τ α).Heeds 0 0 := by
  cases r with
  | ok a => exact pure a
  | error e => exact fail e

/-- Looking at the value takes no time. -/
theorem value : (Work.value : Work σ τ τ).Heeds 0 0 := of_run fun _ => .pure _

/-- Changing the value takes no time. -/
theorem change (g : τ → τ) : (Work.change g : Work σ τ Unit).Heeds 0 0 := of_run fun _ => .pure _

/-- A program that heeds the cancellation is work that does. -/
theorem lift {y : Run σ α} (h : y.Heeds 0) : (Work.lift y : Work σ τ α).Heeds 0 0 :=
  of_run fun _ => h.bind fun _ => .pure _

/-- What follows success without delay has all the time, and failure leaves as much. -/
theorem bind (hx : x.Heeds 0 error) (hf : ∀ a, (f a).Heeds ok error) :
    (x >>= f).Heeds ok error := by
  refine fun env s => Work.Triple.bind (hx env s) (fun a => ?_) (fun _ _ _ h => h) (fun _ _ h => h)
  exact ((hf a).after env s 0).mono (fun _ _ h => h)
    (fun _ _ _ h => h.mono (Nat.le_of_eq (Nat.zero_add _)))
    (fun _ _ _ h => h.mono (Nat.le_of_eq (Nat.zero_add _)))
    (fun _ _ h => h.mono (Nat.le_of_eq (Nat.zero_add _)))

/-- What comes last without delay takes no more time. -/
theorem bind_prompt {grace : Nat} (hx : x.Heeds grace grace) (hf : ∀ a, (f a).Heeds 0 0) :
    (x >>= f).Heeds grace grace :=
  fun env s => Work.Triple.bind (hx env s) (fun a => (hf a).after env s grace)
    (fun _ _ _ h => h) (fun _ _ h => h)

/-- An attempt takes the time of the work, however that ends. -/
theorem attempt {grace : Nat} (h : x.Heeds grace grace) : x.attempt.Heeds grace grace :=
  fun env s => Work.Triple.attempt (h env s)

/-- The words of a failure take no time. -/
theorem mapError {g : DeployError → DeployError} (h : x.Heeds ok error) :
    (x.mapError g).Heeds ok error :=
  fun env s => Work.Triple.mapError (h env s)

/-- Work on a part takes the time of the work. -/
theorem within {part : τ → ρ} {put : τ → ρ → τ} {y : Work σ ρ α} (h : y.Heeds ok error) :
    (Work.within part put y).Heeds ok error :=
  fun env s => Work.Triple.within fun t => h env s (part t)

/-- A call of work is a request that heeds the cancellation. -/
theorem call (c : Call) (what machine : String) :
    (Work.call c what machine : Work σ τ _).Heeds 0 0 := by
  refine of_run fun t => (Run.Heeds.request rfl c).bind fun r => ?_
  split <;> exact .pure _

/-- What comes next fails once the deployment is canceled. Where it succeeds, no time was lost. -/
theorem after_desists {grace : Nat} (h : x.Heeds 0 0) (hdesists : x.Desists)
    (env : Environment σ) (s : Session σ) :
    Work.Triple env (fun _ m => s.Heeds env grace m) x (.heeding env s 0 grace) := by
  refine fun t => Run.Triple.at_session fun m hm => ?_
  -- Canceled before, it fails. Otherwise no time was lost up to now.
  cases hcanceled : m.isCanceled with
  | true =>
    refine ((h.after env s grace t).and (hdesists env t)).mono (fun m' hm' => ?_) ?_
      (fun _ _ hs => hs.1)
    · subst hm'
      exact ⟨hm, hcanceled⟩
    · rintro ⟨t', e | a⟩ s' hs
      · exact hs.1
      · exact hs.2.elim
  | false =>
    refine (h.after env s 0 t).mono (fun m' hm' => ?_) ?_ (fun _ _ hs => hs.mono (Nat.zero_le _))
    · subst hm'
      exact .of_isCanceled_eq_false hm.leads hcanceled
    · rintro ⟨t', e | a⟩ s' hs
      · exact hs.mono (Nat.zero_le _)
      · exact hs

/-- What may take time and then desists has lost none where it succeeds. -/
theorem bind_desists {grace : Nat} (hx : x.Heeds grace grace) (hf : ∀ a, (f a).Heeds 0 0)
    (hdesists : ∀ a, (f a).Desists) : (x >>= f).Heeds 0 grace :=
  fun env s => Work.Triple.bind (hx env s) (fun a => (hf a).after_desists (hdesists a) env s)
    (fun _ _ _ h => h) (fun _ _ h => h)

/-- A failure that is dealt with without delay and stays a failure. -/
theorem attempt_bind {f : Except DeployError α → Work σ τ β} {grace : Nat} (hx : x.Heeds 0 grace)
    (hok : ∀ a, (f (.ok a)).Heeds 0 grace) (herror : ∀ e, (f (.error e)).Heeds 0 0)
    (hdesists : ∀ e, (f (.error e)).Desists) : (x.attempt >>= f).Heeds 0 grace := by
  refine fun env s => Work.Triple.attempt_bind (hx env s) (fun a => ?_)
    (fun e => (herror e).after_desists (hdesists e) env s) (fun _ _ h => h)
  have hafter := (hok a).after env s 0
  rw [Nat.zero_add, Nat.zero_add] at hafter
  exact hafter

end Work.Heeds

end Rollout
