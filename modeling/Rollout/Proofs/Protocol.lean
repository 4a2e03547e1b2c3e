import Rollout.Proofs.LeaseCourses

/-!
# The protocol of a handle

Whatever is done with a handle, in whatever order and with whatever answers, its lease has a nonce
exactly if it has an expiry, and the calls that need a lease, or need that there is none, are made
right after the clock told that this is so. Four of the operations are one call behind such a gate
(`Handle.gated`). `Operation.Leaves` says once in which ways an operation returns; what is kept by
all of them is read off its cases.

## Main statements

- `Handle.acquire_eq`, `Handle.update_eq`, `Handle.destroy_eq`, `Handle.start_eq`: the operations
  that are one call behind a gate.
- `Handle.Operation.leaves`: the ways in which an operation returns.
- `Handle.performAll_abides`: every operation on a handle abides by the protocol.
-/

namespace Rollout

variable {σ α : Type} {env : Environment σ}

/-! ## Requests and errands -/

/-- The call of a request is made first thing. -/
theorem Run.request_first (env : Environment σ) (b : Bounds) (c : Call) (s : Session σ) :
    CallsSince s.past (Run.request b c env s).2.past fun before c' => before = s.past ∧ c' = c := by
  have hasked : ∀ time, CallsSince s.past (.asked c time :: s.past)
      fun before c' => before = s.past ∧ c' = c :=
    fun time => CallsSince.refl.asked time ⟨rfl, rfl⟩
  refine Run.Triple.always (P := (·.past = s.past)) (R := fun s' =>
    CallsSince s.past s'.past fun before c' => before = s.past ∧ c' = c) ?_ rfl
  apply Run.Triple.request (K := (· = s.past))
    (Q := fun _ p => CallsSince s.past p fun before c' => before = s.past ∧ c' = c)
    (H := fun p => CallsSince s.past p fun before c' => before = s.past ∧ c' = c)
  · -- Nothing was called when the request began.
    rintro _ _ rfl
    exact CallsSince.refl
  · rintro _ time _ rfl
    exact hasked time
  · rintro _ time _ rfl -
    exact (hasked time).skip rfl
  · rintro time _ rfl
    exact hasked time

/-- How a request ends that is begun in a session: as an errand fares, and what keeps its answer
away is in force. Unless that is so from the start, the call is made. -/
def Run.Faring (b : Bounds) (c : Call) (resume : Except Interruption c.Outcome → α)
    (s : Session σ) : Run.Post σ (Except Interruption c.Outcome) where
  done r s' := ∃ fate, (Errand.ask c resume).Fares fate ∧ fate.result? = some (resume r) ∧
    (∀ i, fate.reason? = some i → b.InForce i s') ∧
    ((∃ i, fate.reason? = some i ∧ s' = s) ∨ (.asked c s.now :: s.past) <:+ s'.past)
  halts _ s' := (.asked c s.now :: s.past) <:+ s'.past

/-- A request fares like the errand that it is the call of. -/
theorem Run.Triple.request_fares (b : Bounds) (c : Call)
    (resume : Except Interruption c.Outcome → α) (s : Session σ) :
    Run.Triple env (· = s) (Run.request b c) (Run.Faring b c resume s) := by
  refine request_steps (fun i hi => ?_) (fun _ => send_sent s)
    (fun pending s₁ s₂ hsent hcomes => ?_) (fun pending s₁ i time hsent _ hwaking => ?_)
    (fun pending s₁ hsent _ => ?_)
  · -- What is in force from the start keeps the call from being made.
    refine ⟨_, .skipped i, rfl, fun j hj => ?_, .inl ⟨i, rfl, rfl⟩⟩
    obtain rfl := Option.some.inj hj
    exact Bounds.inForce_of_interruption? hi
  · -- The answer is noted after the call.
    refine ⟨_, .answered _, rfl, nofun, .inr ?_⟩
    show _ <:+ .answered c _ :: s₂.past
    rw [hcomes.past, hsent.past]
    exact List.suffix_cons _ _
  · -- The wait for the answer is cut short.
    refine ⟨_, .abandoned i, rfl, fun j hj => ?_, .inr (hsent.past ▸ List.suffix_rfl)⟩
    obtain rfl := Option.some.inj hj
    exact Bounds.inForce_of_waking hwaking rfl
  · show _ <:+ s₁.past
    exact hsent.past ▸ List.suffix_rfl

/-- What is made of a result leaves the session as it is. -/
theorem Run.bind_pure_session {β : Type} (x : Run σ α) (f : α → β) (env : Environment σ)
    (s : Session σ) : ((x >>= fun a => return f a) env s).2 = (x env s).2 := by
  rw [Run.bind_run]
  cases x env s with
  | mk ending s' => cases ending <;> rfl

/-- A request without a deadline makes its call unless the deployment has been canceled. -/
theorem Run.request_asks (env : Environment σ) (c : Call) {s : Session σ}
    (hcanceled : s.isCanceled = false) :
    (.asked c s.now :: s.past) <:+ (Run.request {} c env s).2.past := by
  have hasks : Run.Triple env (· = s) (Run.request {} c)
      ⟨fun _ s' => (Step.asked c s.now :: s.past) <:+ s'.past,
        fun _ s' => (Step.asked c s.now :: s.past) <:+ s'.past⟩ := by
    refine (Run.Triple.request_fares {} c id s).mono (fun _ hs => hs) ?_ (fun _ _ hs => hs)
    -- Without a deadline only the cancellation could keep the call away.
    rintro r s' ⟨fate, -, -, hforce, ⟨i, hi, rfl⟩ | hasked⟩
    · exact absurd (hforce i hi) (Bounds.not_inForce rfl hcanceled)
    · exact hasked
  exact hasks.always rfl

/-- An errand that is done within bounds fares in one of the ways, and what keeps its answer away is
in force. -/
theorem Run.Triple.perform_fares {b : Bounds} (e : Errand α) :
    Run.Triple env (fun _ => True) (Run.perform b e)
      ⟨fun a s => ∃ fate, e.Fares fate ∧ fate.result? = some a ∧
        ∀ i, fate.reason? = some i → b.InForce i s, fun _ _ => True⟩ := by
  cases e with
  | done a => exact pure fun _ _ => ⟨.idle a, .idle a, rfl, fun _ h => by cases h⟩
  | ask c resume =>
    refine Run.Triple.at_session fun s _ => ?_
    refine bind (request_fares b c resume s) (fun r => pure fun s' hr => ?_) (fun _ _ _ => trivial)
    obtain ⟨fate, hfares, hresult, hforce, -⟩ := hr
    exact ⟨fate, hfares, hresult, hforce⟩

/-- The calls of an errand that is done within bounds. -/
theorem Run.Calls.perform {b : Bounds} {φ : Call → Prop} {R : α → Prop} {e : Errand α}
    (h : e.Yields φ R) : (Run.perform b e : Run σ α).Calls φ := by
  cases e with
  | done a => exact Run.Calls.pure a
  | ask c resume => exact (Run.Calls.request h.1).bind fun _ => Run.Calls.pure _

namespace Lease

/-- Whether a lease has both a nonce and an expiry, or neither. -/
def Whole (l : Lease) : Prop := l.nonce = "" ↔ l.expiresAt = none

/-- The lease of a new handle is whole. -/
theorem empty_whole : Whole {} := ⟨fun _ => rfl, fun _ => rfl⟩

/-- A lease that is granted has both. -/
theorem whole_of_ofReply {machine : String} {r : Reply} {lease : Lease}
    (h : ofReply machine r = .ok lease) : lease.Whole := by
  have hnonce := ofReply_nonce_ne h
  suffices hexpiry : lease.expiresAt ≠ none from
    ⟨fun h => absurd h hnonce, fun h => absurd h hexpiry⟩
  -- A reply without an expiry, or with one that is out of range, grants nothing.
  simp only [ofReply] at h
  split at h
  · cases h
  · split at h
    · cases h
    · split at h
      · split at h
        · cases h
        · obtain rfl := Except.ok.inj h
          simp
      · cases h

end Lease

namespace Handle

variable {h h' : Handle} {r : Except DeployError Unit} {s : Session σ}

/-! ## Calls behind a gate -/

/-- A call that is made right after the clock told that the lease is held, or that it is not,
whichever is needed. -/
def gated (h : Handle) (needed : Bool) (otherwise : Handle × Except DeployError Unit) (c : Call)
    (resume : Except Interruption c.Outcome → Handle × Except DeployError Unit) :
    Run σ (Handle × Except DeployError Unit) := do
  if h.lease.isHeldAt (← Run.readClock) = needed then return resume (← Run.request {} c)
  else return otherwise

section Gated

variable {needed : Bool} {otherwise : Handle × Except DeployError Unit} {c : Call}
variable {resume : Except Interruption c.Outcome → Handle × Except DeployError Unit}

/-- A closed gate lets no call pass. -/
theorem gated_of_ne (hheld : h.lease.isHeldAt (env.clock s.readings s.now) ≠ needed) :
    h.gated needed otherwise c resume env s = (.done otherwise, (Run.readClock env s).2) := by
  simp only [gated, Run.bind_run, Run.readClock, if_neg hheld, Run.pure_run]

/-- An open gate is no more than the request. -/
theorem gated_of_eq (hheld : h.lease.isHeldAt (env.clock s.readings s.now) = needed) :
    h.gated needed otherwise c resume env s =
      (Run.request {} c >>= fun r => return resume r) env (Run.readClock env s).2 := by
  simp only [gated, Run.bind_run, Run.readClock, if_pos hheld]

/-- Behind an open gate nothing happens but the request. -/
theorem gated_session (hheld : h.lease.isHeldAt (env.clock s.readings s.now) = needed) :
    (h.gated needed otherwise c resume env s).2 =
      (Run.request {} c env (Run.readClock env s).2).2 := by
  rw [gated_of_eq hheld, Run.bind_pure_session]

/-- An open gate lets the call pass unless the deployment has been canceled. -/
theorem gated_asks (hheld : h.lease.isHeldAt (env.clock s.readings s.now) = needed)
    (hcanceled : s.isCanceled = false) :
    (.asked c s.now :: .looked (env.clock s.readings s.now) :: s.past) <:+
      (h.gated needed otherwise c resume env s).2.past := by
  have hlooked : (Run.readClock env s).2.isCanceled = false := hcanceled
  rw [gated_session hheld]
  exact Run.request_asks env c hlooked

/-- What passes the gate is the call, and it passes right after the clock was read. -/
theorem gated_calls :
    CallsSince s.past (h.gated needed otherwise c resume env s).2.past fun before c' =>
      before = .looked (env.clock s.readings s.now) :: s.past ∧
        h.lease.isHeldAt (env.clock s.readings s.now) = needed ∧ c' = c := by
  have hlooked : ∀ φ, CallsSince s.past (Run.readClock env s).2.past φ :=
    fun φ => CallsSince.refl.skip rfl
  by_cases hheld : h.lease.isHeldAt (env.clock s.readings s.now) = needed
  · have hfirst := Run.request_first env {} c (Run.readClock env s).2
    rw [gated_session hheld]
    exact (hlooked _).trans (hfirst.mono fun before c' _ _ h => ⟨h.1, hheld, h.2⟩)
  · rw [gated_of_ne hheld]
    exact hlooked _

/-- What is made of the call, if it was made, is what the gate returns. -/
theorem gated_done {x : Handle × Except DeployError Unit}
    (hx : (h.gated needed otherwise c resume env s).1 = .done x) :
    x = otherwise ∨ ∃ reply, x = resume reply := by
  by_cases hheld : h.lease.isHeldAt (env.clock s.readings s.now) = needed
  · -- Behind an open gate the request has to have returned.
    rw [gated_of_eq hheld, Run.bind_run] at hx
    split at hx
    · exact .inr ⟨_, (Ending.done.inj hx).symm⟩
    · cases hx
    · cases hx
  · rw [gated_of_ne hheld] at hx
    exact .inl (Ending.done.inj hx).symm

end Gated

/-! ### The operations behind a gate -/

/-- What becomes of a handle as a change of its machine is answered. -/
def answered (h : Handle) {c : Call} (what : String) (changed : c.Reply → Handle) :
    Except Interruption c.Outcome → Handle × Except DeployError Unit
  | .error i => (h, .error (i.error what h.id))
  | .ok (.error e) => (h, .error (.api e))
  | .ok (.ok reply) => (changed reply, .ok ())

/-- What becomes of a handle as a request for a lease is answered. -/
def granted (h : Handle) :
    Except Interruption (Except ApiError Lease.Reply) → Handle × Except DeployError Unit
  | .error i => (h, .error (i.error "lease" h.id))
  | .ok (.error e) => (h, .error (.lease h.id e.text))
  | .ok (.ok reply) =>
    match Lease.ofReply h.id reply with
    | .error e => (h, .error e)
    | .ok lease => ({ h with lease := lease }, .ok ())

/-- The refusal of a change without a lease. -/
def unleased (h : Handle) : Handle × Except DeployError Unit :=
  (h, .error (.precondition ("no current lease for machine " ++ h.id)))

/-- The refusal of a start under a lease. -/
def leased (h : Handle) : Handle × Except DeployError Unit :=
  (h, .error (.precondition ("cannot start machine " ++ h.id
    ++ " because it has a lease expiring at " ++ expiryText h.lease.expiresAt)))

/-- A call of a piece of work, and the change that its reply makes. -/
theorem call_bind {c : Call} {what : String} {f : c.Reply → Work σ Handle Unit}
    {changed : c.Reply → Handle} (hf : ∀ reply, f reply h = pure (changed reply, .ok ())) :
    (Work.call c what h.id >>= f) h =
      Run.request {} c >>= fun r => pure (h.answered what changed r) := by
  show (Run.request {} c >>= _) >>= _ = _
  rw [bind_assoc]
  congr 1
  funext r
  -- The request was cut short, refused, or granted.
  match r with
  | .error i => rfl
  | .ok (.error e) => rfl
  | .ok (.ok reply) => exact hf reply

/-- A lease is asked for behind a gate that a held lease closes. -/
theorem acquire_eq (term : Nat) (h : Handle) : acquire (σ := σ) term h =
    h.gated false (h, .ok ()) (.acquire h.id (max (term / 1000) 1)) h.granted := by
  show (Run.readClock >>= _) >>= _ = Run.readClock >>= _
  rw [bind_assoc]
  refine bind_congr fun now => ?_
  -- A lease that is held leaves nothing to do.
  cases h.lease.isHeldAt now with
  | true => rfl
  | false =>
    rw [if_neg Bool.false_ne_true, if_pos rfl, pure_bind]
    refine bind_congr (m := Run σ) fun r => ?_
    match r with
    | .error i => rfl
    | .ok (.error e) => rfl
    | .ok (.ok reply) => rfl

/-- A machine is updated behind a gate that opens under a held lease. -/
theorem update_eq (input : LaunchInput) (h : Handle) : update (σ := σ) input h =
    h.gated true h.unleased (.update input h.lease.nonce)
      (h.answered "update" fun machine => { h with machine := machine }) := by
  refine (heldNonce_bind h _).trans (bind_congr fun now => ?_)
  -- Without a nonce that is held there is no call.
  cases h.lease.isHeldAt now with
  | true => exact call_bind fun _ => rfl
  | false => rfl

/-- So is it destroyed. -/
theorem destroy_eq (h : Handle) : destroy (σ := σ) h =
    h.gated true h.unleased (.destroy h.id h.lease.nonce)
      (h.answered "destroy" fun _ => h.destroyed) := by
  refine (heldNonce_bind h _).trans (bind_congr fun now => ?_)
  cases h.lease.isHeldAt now with
  | true =>
    rw [if_pos rfl, if_pos rfl]
    exact call_bind (c := .destroy h.id _) (f := fun _ => Work.change destroyed) fun _ => rfl
  | false => rfl

/-- A machine is started behind a gate that a held lease closes. -/
theorem start_eq (h : Handle) : start (σ := σ) h =
    h.gated false h.leased (.start h.id) (h.answered "start" fun _ => h) := by
  have hstart : start (σ := σ) h = Run.readClock >>= fun now =>
      (if h.lease.isHeldAt now then Work.ofExcept h.leased.2
        else Work.call (.start h.id) "start" h.id) h := rfl
  rw [hstart]
  refine bind_congr (m := Run σ) fun now => ?_
  cases h.lease.isHeldAt now with
  | true => rfl
  | false =>
    -- The work ends with the call, so there is no reply to go on from.
    have hcall : (Work.call (σ := σ) (.start h.id) "start" h.id >>= pure) h =
        Run.request {} (.start h.id) >>= fun r => pure (h.answered "start" (fun _ => h) r) :=
      call_bind fun _ => rfl
    rwa [bind_pure] at hcall

/-- A change behind a gate ends with the handle as it was and an error, or with what the reply made
of it. -/
theorem answered_done {needed : Bool} {refusal : DeployError} {c : Call} {what : String}
    {changed : c.Reply → Handle}
    (hdone : (h.gated needed (h, .error refusal) c (h.answered what changed) env s).1 =
      .done (h', r)) :
    (h' = h ∧ ∃ e, r = .error e) ∨ ∃ reply, h' = changed reply ∧ r = .ok () := by
  rcases gated_done hdone with heq | ⟨reply, heq⟩
  · cases heq
    exact .inl ⟨rfl, refusal, rfl⟩
  · -- The change was cut short, refused, or made.
    match reply with
    | .error i =>
      cases heq
      exact .inl ⟨rfl, _, rfl⟩
    | .ok (.error e) =>
      cases heq
      exact .inl ⟨rfl, _, rfl⟩
    | .ok (.ok reply) =>
      cases heq
      exact .inr ⟨reply, rfl, rfl⟩

/-- A request for a lease ends with the handle as it was and an error, or with the lease that the
answer grants. -/
theorem granted_cases (reply : Except Interruption (Except ApiError Lease.Reply)) :
    (∃ e, h.granted reply = (h, .error e)) ∨
      ∃ grant lease, Lease.ofReply h.id grant = .ok lease ∧
        h.granted reply = ({ h with lease := lease }, .ok ()) := by
  match reply with
  | .error i => exact .inl ⟨_, rfl⟩
  | .ok (.error e) => exact .inl ⟨_, rfl⟩
  | .ok (.ok grant) =>
    -- A grant may be malformed.
    cases hlease : Lease.ofReply h.id grant with
    | error e => exact .inl ⟨e, by simp only [granted, hlease]⟩
    | ok lease => exact .inr ⟨grant, lease, hlease, by simp only [granted, hlease]⟩

/-! ## Giving a lease up -/

/-- A handle whose lease was given up has none: without a deadline time does not run out. -/
theorem release_forgotten :
    Run.Triple env (fun _ => True) (release h)
      ⟨fun x _ => x.1 = { h with lease := {} }, fun _ _ => True⟩ := by
  refine Run.Triple.at_session fun s _ => ?_
  refine Run.Triple.bind (releasing_giving h s.now s) (fun e => ?_) (fun _ _ h => h.elim)
  refine Run.Triple.extract (p := ∃ opening, Giving env s.now h opening e) (R := fun _ => True)
    (fun s' hs' => ?_) fun hgiving => ?_
  · obtain ⟨opening, -, hgiving⟩ := hs'
    exact ⟨⟨opening, hgiving⟩, trivial⟩
  obtain ⟨opening, hgiving⟩ := hgiving
  refine (Run.Triple.perform_fares e).mono (fun _ hs => hs) (fun x s' hx => ?_) (fun _ _ h => h)
  obtain ⟨fate, hfares, hresult, hforce⟩ := hx
  have hgave := hgiving.gave fate hfares
  cases hgave with
  | unleased hnonce =>
    obtain rfl := Option.some.inj hresult
    rfl
  | stale now hnonce hstale =>
    obtain rfl := Option.some.inj hresult
    rfl
  | asked now hnonce hstale fate hcall hhandle =>
    -- Only the deadline of a release could leave the lease, and it has none.
    have hreason : fate.reason? ≠ some .timedOut := by
      intro htimedOut
      obtain ⟨d, hd, -⟩ := hforce _ htimedOut
      cases hd
    exact (hhandle x hresult).trans (if_neg hreason)

/-- A release makes no call but the one that gives the lease up. -/
theorem release_calls : (release (σ := σ) h).Calls (· = .release h.id h.lease.nonce) := by
  have hcalls : (h.releasing (σ := σ)).Calls (· = .release h.id h.lease.nonce) :=
    releasing_calls rfl
  -- The errand is put together without a call, and then makes the one.
  refine Run.Calls.of_triple fun env p => ?_
  have hyields : Run.Triple env (fun _ => True) h.releasing
      ⟨fun e _ => e.Yields (· = .release h.id h.lease.nonce) _, fun _ _ => False⟩ :=
    releasing_yields rfl
  refine Run.Triple.bind ((hyields.and (hcalls.triple_at p)).pre fun s hs => ⟨trivial, hs⟩)
    (fun e => ?_) (fun _ _ h => h.1.elim)
  refine Run.Triple.of_and fun he => ?_
  refine (Run.Calls.perform he).triple.mono (fun _ hs => hs) ?_ ?_
  · rintro x s' ⟨s, hs, hadds⟩
    exact hs.trans hadds
  · rintro halt s' ⟨s, hs, hadds⟩
    exact hs.trans hadds

/-! ## Operations -/

/-- The operations on a handle. -/
inductive Operation where
  | acquire (term : Nat)
  | release
  | update (input : LaunchInput)
  | destroy
  | start
  | waitForState (state : Machine.State) (timeout : Nat)
  | waitForHealth (timeout : Nat)
  | waitForEvent (kind after : String) (timeout : Nat)

namespace Operation

/-- The operation as work on a handle. -/
def perform : Operation → Work σ Handle Unit
  | acquire term => Handle.acquire term
  | release => Handle.release
  | update input => Handle.update input
  | destroy => Handle.destroy
  | start => Handle.start
  | waitForState state timeout => Handle.waitForState state timeout
  | waitForHealth timeout => Handle.waitForHealth timeout
  | waitForEvent kind after timeout => do
    -- What the event is has no bearing on the handle.
    let _ ← Handle.waitForEvent kind after timeout
    return

/-- Whether the operation is one of the waits. -/
def isWait : Operation → Bool
  | waitForState .. | waitForHealth _ | waitForEvent .. => true
  | _ => false

/-- Whether the operation is refused when the lease is held, or is not. -/
def refuses (held : Bool) : Operation → Bool
  | update _ | destroy => !held
  | start => held
  | _ => false

/-- The call that an operation makes if the lease is held, or if it is not. -/
def gate? (h : Handle) : Operation → Option (Bool × Call)
  | acquire term => some (false, .acquire h.id (max (term / 1000) 1))
  | update input => some (true, .update input h.lease.nonce)
  | destroy => some (true, .destroy h.id h.lease.nonce)
  | start => some (false, .start h.id)
  | _ => none

/-- The ways in which an operation returns. -/
inductive Leaves (h : Handle) : Operation → Handle → Except DeployError Unit → Prop where
  | failed {op : Operation} (e : DeployError) (hop : op ≠ release) : Leaves h op h (.error e)
  | held (term : Nat) : Leaves h (acquire term) h (.ok ())
  | granted (term : Nat) (reply : Lease.Reply) (lease : Lease)
      (hlease : Lease.ofReply h.id reply = .ok lease) :
      Leaves h (acquire term) { h with lease := lease } (.ok ())
  | released (r : Except DeployError Unit) : Leaves h release { h with lease := {} } r
  | updated (input : LaunchInput) (m : Machine) :
      Leaves h (update input) { h with machine := m } (.ok ())
  | destroyed : Leaves h destroy h.destroyed (.ok ())
  | started : Leaves h start h (.ok ())
  | waited {op : Operation} (hop : op.isWait = true) (m : Machine) (r : Except DeployError Unit) :
      Leaves h op { h with machine := m } r

variable {op : Operation}

/-- A wait leaves a handle that is as it was, or has seen the machine anew. -/
theorem Leaves.of_seen (hop : op.isWait = true) {K : Machine → Prop}
    (hseen : h' = h ∨ ∃ m, h' = { h with machine := m } ∧ K m) : Leaves h op h' r := by
  cases hseen with
  | inl hsame =>
    subst hsame
    exact .waited hop h'.machine r
  | inr hfetched =>
    obtain ⟨m, rfl, -⟩ := hfetched
    exact .waited hop m r

/-- A wait may see the machine anew, and does nothing else to the handle. -/
theorem wait_leaves (hop : op.isWait = true) :
    Run.Triple env (fun _ => True) (op.perform h)
      ⟨fun x _ => Leaves h op x.1 x.2, fun _ _ => True⟩ := by
  -- The three waits have been described one by one.
  refine Run.Triple.at_past fun p => ?_
  cases op with
  | waitForState state timeout =>
    refine (waitForState_triple h timeout p state).mono (fun _ hs => hs.2) ?_ (fun _ _ _ => trivial)
    rintro ⟨h', e | _⟩ s hs
    · exact .of_seen (K := fun _ => True) rfl (.inl hs)
    · exact .of_seen (K := fun _ => True) rfl (.inl hs.1)
  | waitForHealth timeout =>
    refine (waitForHealth_triple h timeout p).mono (fun _ hs => hs.2) ?_ (fun _ _ _ => trivial)
    rintro ⟨h', e | _⟩ s hs
    · exact .of_seen rfl hs
    · exact .of_seen rfl (hs.imp_left And.left)
  | waitForEvent kind after timeout =>
    refine Run.Triple.bind ((fetchUntil_triple h timeout p _ _ _).pre fun _ hs => hs.2)
      (fun x => ?_) (fun _ _ _ => trivial)
    obtain ⟨h', e | event⟩ := x
    · exact Run.Triple.pure fun s hs => .of_seen rfl hs
    · exact Run.Triple.pure fun s hs => .of_seen rfl (.inr hs)
  | _ => cases hop

/-- An operation returns in one of the ways. -/
theorem leaves (hdone : (op.perform h env s).1 = .done (h', r)) : Leaves h op h' r := by
  cases op with
  | acquire term =>
    simp only [perform, acquire_eq] at hdone
    rcases gated_done hdone with heq | ⟨reply, heq⟩
    · cases heq
      exact .held term
    · -- The lease is not granted, or is the handle's from now on.
      rcases granted_cases reply with ⟨e, hreply⟩ | ⟨grant, lease, hlease, hreply⟩
      · cases heq.trans hreply
        exact .failed e nofun
      · cases heq.trans hreply
        exact .granted term grant lease hlease
  | release =>
    obtain rfl : h' = { h with lease := {} } := release_forgotten.of_done trivial hdone
    exact .released r
  | update input =>
    simp only [perform, update_eq] at hdone
    rcases answered_done hdone with ⟨rfl, e, rfl⟩ | ⟨m, rfl, rfl⟩
    · exact .failed e nofun
    · exact .updated input m
  | destroy =>
    simp only [perform, destroy_eq] at hdone
    rcases answered_done hdone with ⟨rfl, e, rfl⟩ | ⟨_, rfl, rfl⟩
    · exact .failed e nofun
    · exact .destroyed
  | start =>
    simp only [perform, start_eq] at hdone
    rcases answered_done hdone with ⟨rfl, e, rfl⟩ | ⟨_, rfl, rfl⟩
    · exact .failed e nofun
    · exact .started
  | _ => exact (wait_leaves rfl).of_done trivial hdone

/-- What the calls on a handle have to wait for, from a moment on at which the clock says what it
does: a change of the machine for the lease to be held, and it is made under its nonce; a start and
a request for a lease for it not to be held. -/
def Guards (h : Handle) (now : Int) (p before : List Step) : Call → Prop
  | .update _ nonce | .destroy _ nonce =>
    before = .looked now :: p ∧ h.lease.isHeldAt now = true ∧ nonce = h.lease.nonce
  | .start _ | .acquire .. => before = .looked now :: p ∧ h.lease.isHeldAt now = false
  | _ => True

/-- A wait makes no call that is guarded. -/
theorem wait_calls (hop : op.isWait = true) :
    (op.perform (σ := σ) h).Calls fun c => ∀ now p before, Guards h now p before c := by
  cases op with
  | waitForState state timeout => exact waitForState_calls h timeout state fun _ _ _ _ => trivial
  | waitForHealth timeout => exact waitForHealth_calls h timeout fun _ _ _ => trivial
  | waitForEvent kind after timeout =>
    refine Run.Calls.bind (fetchUntil_calls h timeout _ _ _ fun _ _ _ => trivial) fun x => ?_
    obtain ⟨h', e | event⟩ := x <;> exact Run.Calls.pure _
  | _ => cases hop

/-- A call behind a gate is guarded if the gate opens when it may be made. -/
theorem gated_guarded {needed : Bool} {otherwise : Handle × Except DeployError Unit} {c : Call}
    {resume : Except Interruption c.Outcome → Handle × Except DeployError Unit}
    (hc : ∀ now p before, before = .looked now :: p → h.lease.isHeldAt now = needed →
      Guards h now p before c) :
    CallsSince s.past (h.gated needed otherwise c resume env s).2.past
      (Guards h (env.clock s.readings s.now) s.past) := by
  refine gated_calls.mono fun before c' _ _ hcall => ?_
  obtain ⟨hbefore, hheld, rfl⟩ := hcall
  exact hc _ _ before hbefore hheld

/-- Every call of an operation is guarded. -/
theorem guarded (op : Operation) (h : Handle) (env : Environment σ) (s : Session σ) :
    CallsSince s.past (op.perform h env s).2.past
      (Guards h (env.clock s.readings s.now) s.past) := by
  cases op with
  | acquire term =>
    simp only [perform, acquire_eq]
    exact gated_guarded fun _ _ _ hbefore hheld => ⟨hbefore, hheld⟩
  | update input =>
    simp only [perform, update_eq]
    exact gated_guarded fun _ _ _ hbefore hheld => ⟨hbefore, hheld, rfl⟩
  | destroy =>
    simp only [perform, destroy_eq]
    exact gated_guarded fun _ _ _ hbefore hheld => ⟨hbefore, hheld, rfl⟩
  | start =>
    simp only [perform, start_eq]
    exact gated_guarded fun _ _ _ hbefore hheld => ⟨hbefore, hheld⟩
  | release =>
    refine (release_calls env s).callsSince.mono fun before c _ _ hcall => ?_
    rw [hcall]
    trivial
  -- The waits ask for nothing that is guarded.
  | _ => exact (wait_calls rfl env s).callsSince.mono fun before c _ _ hcall => hcall _ _ _

/-- An operation makes its call where the lease is as it has to be. -/
theorem asks {needed : Bool} {c : Call} (hgate : op.gate? h = some (needed, c))
    (hheld : h.lease.isHeldAt (env.clock s.readings s.now) = needed)
    (hcanceled : s.isCanceled = false) :
    (.asked c s.now :: .looked (env.clock s.readings s.now) :: s.past) <:+
      (op.perform h env s).2.past := by
  cases op with
  | acquire term =>
    cases hgate
    simp only [perform, acquire_eq]
    exact gated_asks hheld hcanceled
  | update input =>
    cases hgate
    simp only [perform, update_eq]
    exact gated_asks hheld hcanceled
  | destroy =>
    cases hgate
    simp only [perform, destroy_eq]
    exact gated_asks hheld hcanceled
  | start =>
    cases hgate
    simp only [perform, start_eq]
    exact gated_asks hheld hcanceled
  | _ => cases hgate

/-- An operation that is refused makes no call. -/
theorem refused (hop : op.refuses (h.lease.isHeldAt (env.clock s.readings s.now)) = true) :
    ∃ message, op.perform h env s =
      (.done (h, .error (.precondition message)), (Run.readClock env s).2) := by
  cases op with
  | update input =>
    -- The gate is closed, and its refusal is the result.
    have hheld : h.lease.isHeldAt (env.clock s.readings s.now) ≠ true := by
      simpa [refuses] using hop
    exact ⟨_, (congrFun₂ (update_eq input h) env s).trans (gated_of_ne hheld)⟩
  | destroy =>
    have hheld : h.lease.isHeldAt (env.clock s.readings s.now) ≠ true := by
      simpa [refuses] using hop
    exact ⟨_, (congrFun₂ (destroy_eq h) env s).trans (gated_of_ne hheld)⟩
  | start =>
    have hheld : h.lease.isHeldAt (env.clock s.readings s.now) ≠ false := by
      simpa [refuses] using hop
    exact ⟨_, (congrFun₂ (start_eq h) env s).trans (gated_of_ne hheld)⟩
  | _ => cases hop

/-- A lease that is held already is not asked for. -/
theorem acquire_held (term : Nat)
    (hheld : h.lease.isHeldAt (env.clock s.readings s.now) = true) :
    (acquire term).perform h env s = (.done (h, .ok ()), (Run.readClock env s).2) := by
  refine (congrFun₂ (acquire_eq term h) env s).trans (gated_of_ne ?_)
  rw [hheld]
  exact Bool.true_eq_false_eq_False

namespace Leaves

/-- The lease stays whole, whatever is done. -/
theorem whole (hleaves : Leaves h op h' r) (hwhole : h.lease.Whole) : h'.lease.Whole := by
  cases hleaves with
  | granted term reply lease hlease => exact Lease.whole_of_ofReply hlease
  | released | destroyed => exact Lease.empty_whole
  | _ => exact hwhole

/-- What fails leaves the lease as it was. -/
theorem lease_eq_of_error {e : DeployError} (hleaves : Leaves h op h' (.error e))
    (hop : op ≠ release) : h'.lease = h.lease := by
  cases hleaves with
  | failed | waited => rfl
  | released => exact absurd rfl hop

/-- What fails and is no wait leaves the machine as it was seen as well. -/
theorem eq_of_error {e : DeployError} (hleaves : Leaves h op h' (.error e)) (hop : op ≠ release)
    (hwait : op.isWait = false) : h' = h := by
  cases hleaves with
  | failed => rfl
  | released => exact absurd rfl hop
  | waited hop' =>
    rw [hwait] at hop'
    cases hop'

/-- A wait leaves the lease as it was. -/
theorem lease_eq_of_wait (hleaves : Leaves h op h' r) (hop : op.isWait = true) :
    h'.lease = h.lease := by
  cases hleaves with
  | failed | waited => rfl
  | _ => cases hop

/-- After a release nothing is left of the lease. -/
theorem eq_of_release (hleaves : Leaves h release h' r) : h' = { h with lease := {} } := by
  cases hleaves with
  | failed e hop => exact absurd rfl hop
  | released => rfl
  | waited hop => cases hop

end Leaves

end Operation

/-! ## Sequences of operations -/

/-- An operation that is asked for, and the session in which it is begun. Since the operation before
it any time may have passed, and the services may be in any state. -/
structure Occasion (σ : Type) where
  operation : Operation
  env : Environment σ
  session : Session σ

/-- An operation that was performed on a handle. -/
structure Performed (σ : Type) extends Occasion σ where
  handle : Handle

namespace Performed

variable (p : Performed σ)

/-- How the operation ends. -/
def ending : Ending (Handle × Except DeployError Unit) × Session σ :=
  p.operation.perform p.handle p.env p.session

/-- What the clock says as the operation begins. -/
def clock : Int := p.env.clock p.session.readings p.session.now

/-- Whether the lease is held as the operation begins. -/
def isHeld : Bool := p.handle.lease.isHeldAt p.clock

/-- The past of an operation that did no more than read the clock. -/
def looked : List Step := .looked p.clock :: p.session.past

/-- What every operation abides by. -/
structure Abides : Prop where
  /-- The lease has a nonce exactly if it has an expiry. -/
  whole : ∀ h r, p.ending.1 = .done (h, r) → h.lease.Whole
  /-- Changes are made under the lease that is held, starts without one. -/
  guarded : CallsSince p.session.past p.ending.2.past
    (Operation.Guards p.handle p.clock p.session.past)
  /-- Where the lease is as it has to be, the call is made, unless the deployment is canceled. -/
  asks : ∀ needed c, p.operation.gate? p.handle = some (needed, c) → p.isHeld = needed →
    p.session.isCanceled = false → (.asked c p.session.now :: p.looked) <:+ p.ending.2.past
  /-- Else a change and a start fail without a call. -/
  refused : p.operation.refuses p.isHeld = true → ∃ message,
    p.ending.1 = .done (p.handle, .error (.precondition message)) ∧ p.ending.2.past = p.looked
  /-- A lease that is held is not asked for. -/
  content : ∀ term, p.operation = .acquire term → p.isHeld = true →
    p.ending.1 = .done (p.handle, .ok ()) ∧ p.ending.2.past = p.looked
  /-- What fails leaves the lease as it was, and unless it is a wait, the machine too. -/
  failed : ∀ h e, p.operation ≠ .release → p.ending.1 = .done (h, .error e) →
    h.lease = p.handle.lease ∧ (p.operation.isWait = false → h = p.handle)
  /-- A wait leaves the lease as it was. -/
  waited : ∀ h r, p.operation.isWait = true → p.ending.1 = .done (h, r) →
    h.lease = p.handle.lease
  /-- A release leaves no lease and the machine as it was. -/
  released : ∀ h r, p.operation = .release → p.ending.1 = .done (h, r) →
    h = { p.handle with lease := {} }

variable {p}

/-- On a handle with a whole lease every operation abides by the protocol. -/
theorem abides_of_whole (hwhole : p.handle.lease.Whole) : p.Abides where
  whole _ _ hdone := (Operation.leaves hdone).whole hwhole
  guarded := Operation.guarded p.operation p.handle p.env p.session
  asks _ _ hgate hheld hcanceled := Operation.asks hgate hheld hcanceled
  refused hop := by
    obtain ⟨message, hending⟩ := Operation.refused hop
    exact ⟨message, congrArg Prod.fst hending, congrArg (·.2.past) hending⟩
  content term hop hheld := by
    have hending : p.ending = (.done (p.handle, .ok ()), (Run.readClock p.env p.session).2) := by
      unfold ending
      rw [hop]
      exact Operation.acquire_held term hheld
    exact ⟨congrArg Prod.fst hending, congrArg (·.2.past) hending⟩
  failed _ _ hop hdone :=
    have hleaves := Operation.leaves hdone
    ⟨hleaves.lease_eq_of_error hop, hleaves.eq_of_error hop⟩
  waited _ _ hop hdone := (Operation.leaves hdone).lease_eq_of_wait hop
  released _ _ hop hdone := by
    have hleaves := Operation.leaves hdone
    rw [hop] at hleaves
    exact hleaves.eq_of_release

end Performed

/-- Performs operations on a handle, one after the other. -/
def performAll (h : Handle) : List (Occasion σ) → List (Performed σ)
  | [] => []
  | o :: rest =>
    let p : Performed σ := { o with handle := h }
    p :: match p.ending.1 with
      | .done (h', _) => performAll h' rest
      -- What never returns keeps the handle to itself.
      | _ => []

/-- A handle that starts out with a whole lease has one whenever an operation begins. -/
theorem performAll_whole {occasions : List (Occasion σ)} (hwhole : h.lease.Whole) :
    ∀ p ∈ performAll h occasions, p.handle.lease.Whole := by
  -- By induction on the operations; what one leaves is the handle of the next.
  induction occasions generalizing h with
  | nil => simp [performAll]
  | cons o rest ih =>
    rw [performAll, List.forall_mem_cons]
    refine ⟨hwhole, ?_⟩
    split
    · rename_i h' r hdone
      exact ih ((Operation.leaves hdone).whole hwhole)
    · simp

/-- Every operation on a handle that began without a lease abides by the protocol, whatever was done
before. -/
theorem performAll_abides (m : Machine) (occasions : List (Occasion σ)) (p : Performed σ)
    (hp : p ∈ performAll { machine := m } occasions) : p.Abides :=
  Performed.abides_of_whole (performAll_whole Lease.empty_whole p hp)

/-- A machine that is leased and then changed. -/
def leasedChange : List (Occasion Unit) := [
  { operation := .acquire 60000, env := .obliging, session := { remote := () } },
  { operation := .update { id := some "web" }, env := .obliging, session := { remote := () } }]

/-- The change, on the handle that the lease was taken for. -/
def changedUnderLease : Performed Unit where
  operation := .update { id := some "web" }
  env := .obliging
  session := { remote := () }
  handle := {
    machine := { id := "web" }
    lease := { nonce := "nonce", expiresAt := Lease.expiry? 60 } }

/-- A change is made under the lease that was taken for it. -/
theorem performAll_abides_leased :
    changedUnderLease ∈ performAll { machine := { id := "web" } } leasedChange ∧
      changedUnderLease.isHeld = true ∧ changedUnderLease.Abides := by
  have hmem : changedUnderLease ∈ performAll { machine := { id := "web" } } leasedChange :=
    .tail _ (.head _)
  exact ⟨hmem, by decide, performAll_abides _ _ _ hmem⟩

end Handle

end Rollout
