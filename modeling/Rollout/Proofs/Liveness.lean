import Rollout.Proofs.Canceling

/-!
# Deployments that return

Every wait of a deployment heeds the cancellation or has a deadline. So a deployment returns if
every call is answered sooner or later, and also if it is canceled at some time. Then it returns
within the grace period of the cancellation.

## Main statements

- `Deployment.deploy_returns`: a deployment returns, unless one of its timeouts ends beyond the
  range of the clock.
- `Deployment.deploy_stops`: a deployment that is canceled calls nothing any more but to give up
  leases, and it is over within the grace period.
-/

namespace Rollout

variable {σ α : Type} {env : Environment σ} {timeout : Nat}

/-! ## Handles -/

namespace Backoff

/-- The schedule of polls for health is steady if it starts from a second at least. -/
theorem health_steady {interval : Nat} (h : perSecond ≤ interval) :
    (Backoff.health interval).Steady := by
  unfold Steady Backoff.health jittered
  simp only [Run.shortestPause, perMilli]
  unfold perSecond at h
  omega

end Backoff

namespace Handle

/-- Polls for health start from a second at least: intervals of zero seconds do not count. -/
theorem perSecond_le_healthInterval (c : Machine.Config) :
    Backoff.perSecond ≤ healthInterval c := by
  unfold healthInterval
  refine Nat.le_mul_of_pos_left _ ?_
  cases hshortest : c.shortestCheckInterval with
  -- Without an interval the schedule has one of its own.
  | none => decide
  | some interval =>
    unfold Machine.Config.shortestCheckInterval at hshortest
    have hmem := List.min?_mem hshortest
    have hne : interval ≠ 0 := by simpa using (List.mem_filter.mp hmem).2
    have hpos : 0 < interval.toNat := by
      rw [Nat.pos_iff_ne_zero]
      exact fun h => hne (UInt64.toNat_inj.mp h)
    show 0 < min interval.toNat longestHealthInterval
    unfold longestHealthInterval
    omega

/-- A request to a machine is answered by the deadline of its round, or ends with it. -/
private theorem asks_request {c : Nat → Call} :
    ∀ start deadline left, Run.Triple env (fun s => start ≤ s.now ∧ s.now ≤ deadline)
      (Run.request { deadline := some deadline } (c left))
      ⟨fun r s => start ≤ s.now ∧ (∀ o, r = .ok o → s.now ≤ deadline), Ended env timeout⟩ := by
  intro start deadline left
  refine (Run.Triple.request_timed start (.inl rfl)).mono (fun s hs => ?_) (fun r s hs => ?_)
    (fun _ _ h => h)
  · refine ⟨hs.1, fun d hd => ?_⟩
    obtain rfl := Option.some.inj hd
    exact hs.2
  · exact ⟨hs.1, fun o ho => hs.2 o ho _ rfl⟩

/-- A wait for a state returns. -/
theorem waitForState_returns (state : Machine.State) :
    (waitForState (σ := σ) state timeout).Returns env timeout fun _ => True := by
  refine fun h _ => Run.Triple.bind (Run.Triple.poll_returns ?_ Backoff.poll_steady)
    (fun result => Run.Triple.pure fun _ _ => trivial) (fun _ _ h => h)
  exact asks_request (c := fun left => .wait h.machine state left)

/-- A poll that fetches returns, if its schedule is steady. -/
theorem fetchUntil_returns (what : String) {schedule : Backoff} (hsteady : schedule.Steady)
    (accept : Machine → Option α) :
    (fetchUntil (σ := σ) what schedule accept timeout).Returns env timeout fun _ => True := by
  refine fun h _ => Run.Triple.bind (Run.Triple.poll_returns ?_ hsteady)
    (fun result => Run.Triple.pure fun _ _ => trivial) (fun _ _ h => h)
  exact asks_request (c := fun _ => .get h.id)

/-- A wait for health returns. -/
theorem waitForHealth_returns :
    (waitForHealth (σ := σ) timeout).Returns env timeout fun _ => True := by
  refine Work.Returns.value_bind fun h _ => ?_
  split
  · exact Work.Returns.pure _
  · exact fetchUntil_returns _ (Backoff.health_steady (perSecond_le_healthInterval _)) _

/-- To look whether the lease is held returns. -/
theorem heldNonce_returns : (heldNonce (σ := σ)).Returns env timeout fun _ => True := by
  refine Work.Returns.value_bind fun h _ => ?_
  refine (Work.Returns.lift Run.Returns.readClock).bind fun now => ?_
  split
  · exact Work.Returns.pure _
  · exact Work.Returns.fail _

/-- An update returns. -/
theorem update_returns (input : LaunchInput) :
    (update (σ := σ) input).Returns env timeout fun _ => True := by
  refine heldNonce_returns.bind fun nonce => Work.Returns.value_bind fun h _ => ?_
  exact (Work.Returns.call _ _ _).bind fun m => Work.Returns.change fun _ _ => trivial

/-- The destruction of a machine returns. -/
theorem destroy_returns : (destroy (σ := σ)).Returns env timeout fun _ => True := by
  refine heldNonce_returns.bind fun nonce => Work.Returns.value_bind fun h _ => ?_
  exact (Work.Returns.call _ _ _).bind fun _ => Work.Returns.change fun _ _ => trivial

/-- The errand that takes a lease is put. -/
theorem acquiring_returns (h : Handle) (term : Nat) :
    (h.acquiring (σ := σ) term).Returns env timeout := by
  refine Run.Returns.readClock.bind fun now => ?_
  split <;> exact Run.Returns.pure _

/-- The errand that gives a lease up is put. -/
theorem releasing_returns (h : Handle) : (h.releasing (σ := σ)).Returns env timeout := by
  unfold releasing
  split
  · exact Run.Returns.pure _
  · refine Run.Returns.readClock.bind fun now => ?_
    split
    · exact (Run.Returns.drop _ _).bind fun _ => Run.Returns.pure _
    · exact Run.Returns.pure _

end Handle

/-! ## Fleets -/

namespace Fleet

/-- Giving up leases ends: once the deployment is canceled, with the grace period. -/
theorem release_returns : (release (σ := σ)).Returns env timeout fun _ => True := by
  refine fun f _ => Run.Triple.session_bind fun s _ => ?_
  -- The release has a deadline, or else it heeds the cancellation.
  have hlimited : (releaseBounds s).Limited := by
    unfold releaseBounds
    split
    · exact .inr rfl
    · exact .inl rfl
  refine Run.Triple.bind ((Run.Returns.together hlimited _ fun e he => ?_).pre
    fun _ _ => trivial) (fun results => ?_) (fun _ _ h => h)
  · obtain ⟨h, -, rfl⟩ := List.mem_map.mp he
    exact h.releasing_returns
  · dsimp only
    split <;> exact Run.Triple.pure fun _ _ => trivial

/-- Taking leases returns, also where they are given up again. -/
theorem acquire_returns (term : Nat) :
    (acquire (σ := σ) term).Returns env timeout fun _ => True := by
  refine fun f _ => Run.Triple.bind (Run.Returns.together (.inl rfl) _ fun e he => ?_)
    (fun results => ?_) (fun _ _ h => h)
  · obtain ⟨h, -, rfl⟩ := List.mem_map.mp he
    exact h.acquiring_returns term
  · split
    · exact Run.Triple.pure fun _ _ => trivial
    · exact Run.Triple.bind (release_returns _ trivial)
        (fun x => Run.Triple.pure fun _ hs => hs) (fun _ _ h => h)

/-- Work on a member returns if the work does. -/
theorem member_returns {place : Nat} {missing : DeployError} {x : Work σ Handle α}
    (hx : x.Returns env timeout fun _ => True) :
    (member place missing x).Returns env timeout fun _ => True := by
  intro f _
  unfold member
  split
  · exact Run.Triple.pure fun _ _ => trivial
  · exact (hx _ trivial).bind (fun _ => Run.Triple.pure fun _ hs => hs) fun _ _ h => h

end Fleet

/-! ## The release command -/

namespace ReleaseCommand

/-- What is waited for in a release command, it is waited for so long. -/
def Waits (timeout : Nat) (c : ReleaseCommand) : Prop := c.waitTimeout = timeout

/-- Work on the fleet of the command returns if it does. -/
theorem onFleet_returns {x : Work σ Fleet α} (hx : x.Returns env timeout fun _ => True) :
    (onFleet x).Returns env timeout (Waits timeout) :=
  Work.Returns.within (fun _ _ => trivial) (fun _ _ hc _ => hc) hx

/-- Work on the machine of the command returns if it does. -/
theorem onMachine_returns {x : Work σ Handle α} (hx : x.Returns env timeout fun _ => True) :
    (onMachine x).Returns env timeout (Waits timeout) :=
  onFleet_returns (Fleet.member_returns hx)

/-- To record an event returns, and the timeout stays. -/
theorem record_returns (e : ReleaseJob.Event) :
    (record (σ := σ) e).Returns env timeout (Waits timeout) := by
  refine Work.Returns.value_bind fun c _ => ?_
  split
  · exact Work.Returns.change fun _ hc => hc
  · exact Work.Returns.fail _

/-- The machine of a command is made ready, or that fails. -/
theorem makeReady_returns (r : Resolver) (line : String) :
    (makeReady (σ := σ) r line).Returns env timeout (Waits timeout) := by
  refine Work.Returns.value_bind fun c _ => ?_
  split
  · refine Work.Returns.mapError ((Work.Returns.ofExcept _).bind fun input => ?_)
    refine (Work.Returns.call _ _ _).bind fun m => ?_
    refine Work.Returns.bind ?_ fun _ => record_returns _
    exact Work.Returns.change fun _ hc => hc
  · -- A machine was found, which is updated under its lease.
    refine Work.Returns.mapError (Work.Returns.value_bind fun c' hc' => ?_)
    rw [show c'.waitTimeout = timeout from hc']
    refine (onMachine_returns (Handle.waitForState_returns _)).bind fun _ => ?_
    refine (onMachine_returns (Work.Returns.value_bind fun _ _ => Work.Returns.pure _)).bind
      fun m => ?_
    refine (Work.Returns.ofExcept _).bind fun input => ?_
    refine (onFleet_returns (Fleet.acquire_returns _)).bind fun _ => ?_
    refine (onMachine_returns (Handle.update_returns _)).attempt.bind fun updated => ?_
    refine (onFleet_returns Fleet.release_returns).attempt.bind fun _ => ?_
    exact (Work.Returns.ofExcept _).bind fun _ => record_returns _

/-- The verdict on a command is waited for with its timeout. -/
theorem awaitVerdict_returns : (awaitVerdict (σ := σ)).Returns env timeout (Waits timeout) := by
  refine Work.Returns.value_bind fun c hc => ?_
  rw [show c.waitTimeout = timeout from hc]
  have hwait : ∀ state, (Handle.waitForState (σ := σ) state timeout).Returns env timeout
      fun _ => True := fun state => Handle.waitForState_returns state
  refine (onMachine_returns (Work.Returns.value_bind fun _ _ => Work.Returns.pure _)).bind
    fun id => ?_
  refine (onMachine_returns (hwait _)).mapError.bind fun _ => ?_
  refine (record_returns _).bind fun _ => ?_
  refine (onMachine_returns (hwait _)).mapError.bind fun _ => ?_
  refine (record_returns _).bind fun _ => ?_
  refine (onMachine_returns (Handle.fetchUntil_returns _ Backoff.poll_steady _)).mapError.bind
    fun event => ?_
  unfold judge
  split
  · exact Work.Returns.fail _
  · refine (record_returns _).bind fun _ => ?_
    split
    · exact (Work.Returns.lift (Run.Returns.report _ _)).bind
        fun _ => Work.Returns.fail _
    · exact Work.Returns.pure _

/-- A release command returns. -/
theorem run_returns (r : Resolver) : (run (σ := σ) r).Returns env timeout (Waits timeout) := by
  refine Work.Returns.value_bind fun c _ => ?_
  split
  · exact Work.Returns.pure _
  · split
    · exact Work.Returns.pure _
    · refine ((makeReady_returns r _).bind fun _ => awaitVerdict_returns).attempt.bind
        fun result => ?_
      split
      · exact Work.Returns.pure _
      · refine (Work.Returns.change fun c hc => ?_).bind fun _ => Work.Returns.fail _
        split <;> exact hc

end ReleaseCommand

/-! ## The deployment -/

namespace Deployment

/-- What is waited for in a deployment, it is waited for so long. -/
def Waits (timeout : Nat) (d : Deployment) : Prop :=
  d.waitTimeout = timeout ∧ d.command.waitTimeout = timeout

/-- Work on the fleet returns if it does. -/
theorem onFleet_returns {x : Work σ Fleet α} (hx : x.Returns env timeout fun _ => True) :
    (onFleet x).Returns env timeout (Waits timeout) :=
  Work.Returns.within (fun _ _ => trivial) (fun _ _ hd _ => hd) hx

/-- Work on a member returns if it does. -/
theorem onMember_returns {place : Nat} {x : Work σ Handle α}
    (hx : x.Returns env timeout fun _ => True) :
    (onMember place x).Returns env timeout (Waits timeout) :=
  onFleet_returns (Fleet.member_returns hx)

/-- To build a request returns. -/
theorem resolve_returns (f : Resolver → Resolver × Except DeployError LaunchInput) :
    (resolve (σ := σ) f).Returns env timeout (Waits timeout) :=
  fun _ hd => Run.Triple.pure fun _ _ => hd

/-- What a member is waited for returns. -/
theorem waitFor_returns {d : Deployment} (hd : d.Waits timeout) :
    (waitFor (σ := σ) d).Returns env timeout fun _ => True := by
  unfold waitFor
  rw [hd.1]
  split
  · refine (Handle.waitForState_returns _).bind fun _ => ?_
    split
    · exact Handle.waitForHealth_returns
    · exact Work.Returns.pure _
  · exact Work.Returns.pure _

/-- The launch of a first machine returns. -/
theorem createFirst_returns : (createFirst (σ := σ)).Returns env timeout (Waits timeout) := by
  refine (resolve_returns _).bind fun input => ?_
  refine (Work.Returns.call _ _ _).bind fun machine => Work.Returns.value_bind fun d hd => ?_
  refine (Work.Returns.lift (waitFor_returns hd { machine := machine } trivial)).bind fun x => ?_
  refine (Work.Returns.ofExcept _).bind fun _ => ?_
  exact onFleet_returns (Work.Returns.change fun _ _ => trivial)

/-- The update of a member returns. -/
theorem updateMember_returns (place : Nat) :
    (updateMember (σ := σ) place).Returns env timeout (Waits timeout) := by
  refine (onMember_returns (Work.Returns.value_bind fun _ _ => Work.Returns.pure _)).bind
    fun orig => ?_
  refine (resolve_returns _).bind fun input => Work.Returns.bind ?_ fun _ => ?_
  · -- A replacement has two calls, an update one.
    unfold changeMember
    split
    · refine (onMember_returns Handle.destroy_returns).bind fun _ => ?_
      refine (Work.Returns.call _ _ _).bind fun machine => ?_
      exact onFleet_returns (Work.Returns.change fun _ _ => trivial)
    · exact onMember_returns (Handle.update_returns _)
  · split
    · exact Work.Returns.value_bind fun d hd => onMember_returns (waitFor_returns hd)
    · exact Work.Returns.pure _

/-- The update of any number of members returns. -/
theorem updateMembers_returns (places : List Nat) :
    (updateMembers (σ := σ) places).Returns env timeout (Waits timeout) := by
  -- By induction on the members that are left.
  induction places with
  | nil => exact Work.Returns.pure _
  | cons place rest ih =>
    refine (updateMember_returns place).attempt.bind fun result => ?_
    cases result with
    | ok _ => exact ih
    | error e =>
      refine Work.Returns.value_bind fun d _ => ?_
      split
      · exact ih
      · exact Work.Returns.fail e

/-- The rollout returns. -/
theorem rollOut_returns : (rollOut (σ := σ)).Returns env timeout (Waits timeout) := by
  refine Work.Returns.value_bind fun d _ => ?_
  split
  · exact createFirst_returns
  · refine Work.Returns.value_bind fun d _ => ?_
    refine (onFleet_returns (Fleet.acquire_returns _)).bind fun _ => ?_
    refine (updateMembers_returns _).attempt.bind fun result => ?_
    exact (onFleet_returns Fleet.release_returns).attempt.bind fun _ => Work.Returns.ofExcept _

/-- The command of a deployment returns. -/
theorem runCommand_returns : (runCommand (σ := σ)).Returns env timeout (Waits timeout) := by
  refine Work.Returns.value_bind fun d _ => ?_
  refine (Work.Returns.within (fun _ hd => hd.2) (fun _ _ hd hc => ⟨hd.1, hc⟩)
    (ReleaseCommand.run_returns _)).attempt.bind fun result => ?_
  split
  · exact Work.Returns.pure _
  · exact (Work.Returns.lift (Run.Returns.report _ _)).bind fun _ => Work.Returns.fail _

/-- A deployment returns, unless it waits for what has no end, or one of its timeouts ends beyond
the range of the clock. -/
theorem deploy_returns : (deploy (σ := σ)).Returns env timeout (Waits timeout) :=
  runCommand_returns.bind fun _ => rollOut_returns

/-- Whether a deployment that was started in a session ends with a result of a kind. It does not end
only where an answer never comes or a timeout ends beyond the range of the clock. -/
def EndsIn (env : Environment σ) (timeout : Nat) (s : Session σ)
    (P : Except DeployError Unit → Prop) :
    Ending (Deployment × Except DeployError Unit) × Session σ → Prop
  | (.done (_, result), _) => P result
  | (.stuck, _) => ¬ Live env s
  | (.panicked, s') => Live env s → Run.clockRange ≤ env.uptime + s'.now + timeout

/-- A deployment ends in what all its results are of. -/
theorem deploy_endsIn {d : Deployment} (hd : d.Waits timeout) (s : Session σ)
    {P : Except DeployError Unit → Prop}
    (h : ∀ d' result s', deploy d env s = (.done (d', result), s') → P result) :
    EndsIn env timeout s P (deploy d env s) := by
  have hreturns : Run.Post.Holds _ (deploy d env s) := deploy_returns d hd s trivial
  -- A session in which waits end stays one: a cancellation that is to come stays so.
  have hlive : Live env s → Live env (deploy d env s).2 :=
    Or.imp id ((deploy_heeds env s).always (t := d) rfl).leads.cancelAt_isSome
  revert h hreturns hlive
  rcases deploy d env s with ⟨⟨d', result⟩ | _ | _, s'⟩
  · exact fun h _ _ => h d' result s' rfl
  · exact fun _ hreturns hlive => mt hlive hreturns
  · exact fun _ hreturns _ _ => hreturns

/-! ### Stopping -/

/-- How a deployment that was started in a session goes on and ends when it is canceled at a time.
-/
structure Stops (env : Environment σ) (timeout : Nat) (s : Session σ) (canceled : Nat)
    (run : Ending (Deployment × Except DeployError Unit) × Session σ) : Prop where
  /-- Step by step: once the deployment is canceled, the calls that are made give up leases. -/
  leads : s.Leads env run.2
  /-- By the clock: the calls of later times gave up leases. -/
  calls : ∀ c time, Seen s.past [.asked c time] run.2.past → canceled < time →
    ∃ id nonce, c = .release id nonce
  /-- It is over within the grace period, also if it was canceled before it was started. -/
  ends : run.2.now ≤ max s.now canceled + Fleet.gracePeriod
  /-- It has a result, unless one of its timeouts ended beyond the range of the clock. -/
  returns : (∃ result, run.1 = .done result) ∨
    run.1 = .panicked ∧ Run.clockRange ≤ env.uptime + run.2.now + timeout

/-- A deployment that is canceled, be it from outside or as one of its calls is made, calls nothing
any more but to give up leases, and it is over within the grace period. -/
theorem deploy_stops (o : Options) (app : App.Config) (strategy : Strategy)
    (roster : Machine.Roster) (volumes : Volume.Pool) (release : Release) (env : Environment σ)
    (s : Session σ) {canceled : Nat}
    (hcanceled : (deploy (assemble o app strategy roster volumes release) env s).2.cancelAt =
      some canceled) :
    Stops env o.effectiveWaitTimeout s canceled
      (deploy (assemble o app strategy roster volumes release) env s) := by
  have hheeds : s.Heeds env Fleet.gracePeriod
      (deploy (assemble o app strategy roster volumes release) env s).2 :=
    (deploy_heeds env s).always rfl
  obtain ⟨new, hnew, hcalls⟩ := hheeds.leads.callsHeed
  have hreturns : Run.Post.Holds _
      (deploy (assemble o app strategy roster volumes release) env s) :=
    deploy_returns (assemble o app strategy roster volumes release) ⟨rfl, rfl⟩ s trivial
  refine ⟨hheeds.leads, ?_, hheeds.within canceled hcanceled, ?_⟩
  · rintro c time ⟨new', hnew', hseen⟩ hlt
    -- What happened since the start is the same list either way.
    obtain rfl : new = new' := List.append_cancel_right (hnew.symm.trans hnew')
    exact (hcalls c time (List.singleton_sublist.mp hseen)).2 canceled hcanceled hlt
  · revert hreturns hcanceled
    rcases deploy (assemble o app strategy roster volumes release) env s with
      ⟨result | _ | _, s'⟩
    · exact fun _ _ => .inl ⟨result, rfl⟩
    · -- Where the deployment is canceled, whatever is waited for has an end.
      intro hcanceled hstuck
      exact (hstuck (.inr (Option.isSome_of_eq_some hcanceled))).elim
    · exact fun _ hrange => .inr ⟨rfl, hrange⟩

/-- When a call is answered that takes a lease. No other call ever is. -/
def leasesOnly : Call → Option Nat
  | .acquire .. => some 300
  | _ => none

/-- Whether a call is for an update. -/
def isUpdate : Call → Bool
  | .update .. => true
  | _ => false

/-- An outside that grants leases only, and cancels the deployment as it is asked for an update. -/
def grudging : Environment Unit :=
  { Environment.obliging with
    receive := fun c _ st =>
      { remote := st, delay := leasesOnly c, cancels := isUpdate c,
        answer := (·, Environment.oblige c) } }

/-- The whole grace period passes where giving up a lease is never answered. -/
theorem deploy_stops_grudging :
    (deploy (assemble {} {} .rolling { app := [{ id := "web" }] } {} {}) grudging
        { remote := () }).2.cancelAt = some 300 ∧
      (deploy (assemble {} {} .rolling { app := [{ id := "web" }] } {} {}) grudging
        { remote := () }).2.now = 300 + Fleet.gracePeriod ∧
      Stops grudging 120000 { remote := () } 300
        (deploy (assemble {} {} .rolling { app := [{ id := "web" }] } {} {}) grudging
          { remote := () }) := by
  have hcanceled : (deploy (assemble {} {} .rolling { app := [{ id := "web" }] } {} {}) grudging
      { remote := () }).2.cancelAt = some 300 := by decide +kernel
  refine ⟨hcanceled, by decide +kernel, ?_⟩
  exact deploy_stops {} {} .rolling { app := [{ id := "web" }] } {} {} grudging { remote := () }
    hcanceled

end Deployment

end Rollout
