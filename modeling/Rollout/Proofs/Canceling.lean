import Rollout.Deployment.Rollout
import Rollout.Proofs.Heeding

/-!
# Deployments under cancellation

Every part of a deployment heeds the cancellation. Only giving up leases goes on for a grace
period, and it comes last: a part that ends with leases given up has failed, or it has been over
before the deployment was canceled, or what comes next desists. So the grace period is entered once.

## Main statements

- `Fleet.release_heeds`: leases are given up within the grace period.
- `ReleaseCommand.run_heeds`: a release command that succeeds has lost no time.
- `Deployment.deploy_heeds`: a deployment heeds the cancellation, but for one grace period.
-/

namespace Rollout

variable {σ τ ρ α β : Type} {env : Environment σ}

/-! ## Handles -/

namespace Handle

/-- To look whether the lease is held takes no time. -/
theorem heldNonce_heeds : (heldNonce (σ := σ)).Heeds 0 0 := by
  refine Work.Heeds.value.bind fun h => (Work.Heeds.lift .readClock).bind fun now => ?_
  split
  · exact Work.Heeds.pure _
  · exact Work.Heeds.fail _

/-- An update of a machine makes one call, which the cancellation ends. -/
theorem update_heeds (input : LaunchInput) : (update (σ := σ) input).Heeds 0 0 :=
  heldNonce_heeds.bind fun _ => Work.Heeds.value.bind fun _ =>
    (Work.Heeds.call _ _ _).bind fun _ => Work.Heeds.change _

/-- To destroy a machine is one call, which the cancellation ends. -/
theorem destroy_heeds : (destroy (σ := σ)).Heeds 0 0 :=
  heldNonce_heeds.bind fun _ => Work.Heeds.value.bind fun _ =>
    (Work.Heeds.call _ _ _).bind fun _ => Work.Heeds.change _

/-- A wait for a state is a poll, which the cancellation ends. -/
theorem waitForState_heeds (state : Machine.State) (timeout : Nat) :
    (waitForState (σ := σ) state timeout).Heeds 0 0 :=
  .of_run fun h => (Run.Heeds.poll (fun _ left hb => .request hb (.wait h.machine state left))
    _ _).bind fun _ => .pure _

/-- A poll that fetches a machine is ended by the cancellation. -/
theorem fetchUntil_heeds (what : String) (schedule : Backoff) (accept : Machine → Option α)
    (timeout : Nat) : (fetchUntil (σ := σ) what schedule accept timeout).Heeds 0 0 :=
  .of_run fun _ => (Run.Heeds.poll (fun _ _ hb => .request hb _) _ _).bind fun _ => .pure _

/-- A wait for health is no wait, or a poll. -/
theorem waitForHealth_heeds (timeout : Nat) : (waitForHealth (σ := σ) timeout).Heeds 0 0 := by
  refine Work.Heeds.value.bind fun h => ?_
  split
  · -- Without checks there is nothing to wait for.
    exact Work.Heeds.pure _
  · exact fetchUntil_heeds _ _ _ _

/-- A wait for a state is not begun once the deployment is canceled. -/
theorem waitForState_desists (state : Machine.State) (timeout : Nat) :
    (waitForState (σ := σ) state timeout).Desists := by
  -- The poll has no verdict but the cancellation.
  refine fun env h => Run.Triple.bind (Run.Triple.poll_canceled
    (fun _ left hb => .request_canceled hb (.wait h.machine state left)) _ _) (fun result => ?_)
    (fun _ _ h => h)
  intro s hs
  show (Work.Post.toRun _).done (h, result.verdict.mapError _) s
  rw [hs]
  trivial

/-- Taking a lease has one call at most, which heeds the cancellation. -/
theorem acquiring_prepares {b : Bounds} (hb : b.heedsCancel = true) (h : Handle) (term : Nat) :
    (h.acquiring (σ := σ) term).Prepares b := by
  refine Run.Prepares.readClock_bind fun now => ?_
  split
  · exact .pure trivial
  · -- The lease is not held, so it is asked for.
    exact .pure (.inl hb)

/-- Giving up a lease has one call at most, and it is a release. -/
theorem releasing_prepares (b : Bounds) (h : Handle) : (h.releasing (σ := σ)).Prepares b := by
  unfold releasing
  split
  · exact .pure trivial
  · refine Run.Prepares.readClock_bind fun now => ?_
    split
    · -- A stale lease is dropped without a call.
      have hdrop : ∀ (env : Environment σ) (s : Session σ), ∃ a s',
          Run.drop h.id h.lease.nonce env s = (.done a, s') ∧ s.Instantly env s' :=
        fun _ _ => ⟨_, _, rfl, .drops .start _ _, rfl⟩
      exact .after hdrop fun _ => .pure trivial
    · exact .pure (.inr ⟨_, _, rfl⟩)

end Handle

/-! ## Fleets -/

namespace Fleet

/-- Work on a member of a fleet heeds the cancellation as the work on the handle does. -/
theorem member_heeds {place : Nat} {missing : DeployError} {x : Work σ Handle α}
    (hx : x.Heeds 0 0) : (member place missing x).Heeds 0 0 := by
  refine .of_run fun f => ?_
  unfold member
  split
  · exact .pure _
  · exact (hx.run _).bind fun _ => .pure _

/-- Work on a member of a fleet desists as the work on the handle does. -/
theorem member_desists {place : Nat} {missing : DeployError} {x : Work σ Handle α}
    (hx : x.Desists) : (member place missing x).Desists := by
  intro env f
  unfold member
  split
  · exact Run.Triple.pure fun _ _ => trivial
  · refine Run.Triple.bind (hx env _) ?_ (fun _ _ h => h)
    rintro ⟨h, e | a⟩
    · exact Run.Triple.pure fun _ _ => trivial
    · exact fun _ h => h.elim

/-- Leases are given up within the grace period. -/
theorem release_heeds : (release (σ := σ)).Heeds gracePeriod gracePeriod := by
  refine fun env s f => Run.Triple.session_bind fun m hm => ?_
  subst hm
  have hprepares : ∀ x ∈ f.members.map (Handle.releasing (σ := σ)),
      x.Prepares (releaseBounds m) := by
    intro x hx
    obtain ⟨h, -, rfl⟩ := List.mem_map.mp hx
    exact h.releasing_prepares _
  have htogether : (Run.together (releaseBounds m) (f.members.map Handle.releasing)).HeedsFrom
      env m gracePeriod := by
    cases hcanceled : m.isCanceled with
    | true =>
      -- The deadline of the release is the end of the grace period.
      have hbounds : (releaseBounds m).deadline = some (m.now + gracePeriod) := by
        rw [releaseBounds, if_pos hcanceled]
      obtain ⟨hleads, hnow⟩ := Run.together_overstays hbounds hprepares env m
      exact ⟨hleads, fun t _ => by omega⟩
    -- There is no deadline, but the cancellation is heeded.
    | false =>
      have hbounds : (releaseBounds m).heedsCancel = true := by
        rw [releaseBounds, if_neg (Bool.eq_false_iff.mp hcanceled)]
      exact (Run.Heeds.together hbounds hprepares env m).mono (Nat.zero_le _)
  refine Run.Triple.bind htogether.triple (fun results => ?_) (fun _ _ h => h)
  dsimp only
  split <;> exact Run.Triple.pure fun _ hs => hs

/-- Leases are taken without delay once the deployment is canceled. When that fails, they are given
up within the grace period. -/
theorem acquire_heeds (term : Nat) : (acquire (σ := σ) term).Heeds 0 gracePeriod := by
  intro env s f
  have htogether : (Run.together {} (f.members.map (·.acquiring term))).HeedsFrom env s 0 := by
    refine Run.Heeds.together rfl (fun x hx => ?_) env s
    obtain ⟨h, -, rfl⟩ := List.mem_map.mp hx
    exact h.acquiring_prepares rfl term
  refine Run.Triple.bind (R := ⟨fun _ => s.Heeds env 0, fun _ => s.Heeds env gracePeriod⟩)
    (htogether.triple.mono (fun _ hs => hs) (fun _ _ hs => hs)
      (fun _ _ hs => hs.mono (Nat.zero_le _))) (fun results => ?_) (fun _ _ h => h)
  split
  · exact Run.Triple.pure fun _ hs => hs
  · -- Not all leases could be taken: what follows is a release.
    have hrelease := release_heeds.after env s 0 (ofResults results)
    rw [Nat.zero_add] at hrelease
    refine Run.Triple.bind (R := ⟨fun _ => s.Heeds env gracePeriod,
      fun _ => s.Heeds env gracePeriod⟩) (hrelease.mono (fun _ hs => hs) ?_ (fun _ _ hs => hs))
      (fun x => Run.Triple.pure fun _ hs => hs) (fun _ _ h => h)
    rintro ⟨f', e | _⟩ s' hs <;> exact hs

end Fleet

/-! ## The release command -/

namespace ReleaseCommand

/-- Work on the fleet of the command heeds the cancellation as it does. -/
theorem onFleet_heeds {x : Work σ Fleet α} {ok error : Nat} (hx : x.Heeds ok error) :
    (onFleet x).Heeds ok error :=
  Work.Heeds.within hx

/-- Work on the machine of the command heeds the cancellation as it does. -/
theorem onMachine_heeds {x : Work σ Handle α} (hx : x.Heeds 0 0) : (onMachine x).Heeds 0 0 :=
  onFleet_heeds (Fleet.member_heeds hx)

/-- Work on the machine of the command desists as it does. -/
theorem onMachine_desists {x : Work σ Handle α} (hx : x.Desists) : (onMachine x).Desists := by
  unfold onMachine onFleet
  exact (Fleet.member_desists hx).within

/-- To record an event takes no time. -/
theorem record_heeds (e : ReleaseJob.Event) : (record (σ := σ) e).Heeds 0 0 := by
  refine Work.Heeds.value.bind fun c => ?_
  split
  · exact Work.Heeds.change _
  · exact Work.Heeds.fail _

/-- The launch of a machine is one call. -/
theorem create_heeds (r : Resolver) (line : String) : (create (σ := σ) r line).Heeds 0 0 :=
  (Work.Heeds.ofExcept _).bind fun _ => (Work.Heeds.call _ _ _).bind fun _ =>
    (Work.Heeds.change _).bind fun _ => record_heeds _

/-- A machine of an earlier run is made ready within the grace period of its release. -/
theorem update_heeds (r : Resolver) (line : String) :
    (update (σ := σ) r line).Heeds Fleet.gracePeriod Fleet.gracePeriod := by
  -- The wait, the look at the machine and its input lose no time, and neither does the update.
  refine Work.Heeds.value.prompt.bind fun c => ?_
  refine (onMachine_heeds (Handle.waitForState_heeds _ _)).prompt.bind fun _ => ?_
  refine (onMachine_heeds (Work.Heeds.value.bind fun _ => .pure _)).prompt.bind fun machine => ?_
  refine (Work.Heeds.ofExcept _).prompt.bind fun input => ?_
  -- The grace period is that of the leases: they can't be taken, or they are given up in the end.
  refine (onFleet_heeds (Fleet.acquire_heeds _)).bind fun _ => ?_
  refine (onMachine_heeds (Handle.update_heeds _)).attempt.prompt.bind fun updated => ?_
  refine (onFleet_heeds Fleet.release_heeds).attempt.bind_prompt fun _ => ?_
  exact (Work.Heeds.ofExcept _).bind fun _ => record_heeds _

/-- A machine is made ready by a launch or by an update. -/
theorem makeReady_heeds (r : Resolver) (line : String) :
    (makeReady (σ := σ) r line).Heeds Fleet.gracePeriod Fleet.gracePeriod := by
  refine Work.Heeds.value.prompt.bind fun c => ?_
  split
  · exact ((create_heeds r line).mono (Nat.zero_le _) (Nat.zero_le _)).mapError
  · exact (update_heeds r line).mapError

/-- A verdict takes no time. -/
theorem judge_heeds (id machine : String) (event : Machine.Event) :
    (judge (σ := σ) id machine event).Heeds 0 0 := by
  unfold judge
  split
  · exact Work.Heeds.fail _
  · refine (record_heeds _).bind fun _ => ?_
    split
    · exact (Work.Heeds.lift (.report _ _)).bind fun _ => .fail _
    · exact Work.Heeds.pure _

/-- The verdict is waited for in three polls, which the cancellation ends. -/
theorem awaitVerdict_heeds : (awaitVerdict (σ := σ)).Heeds 0 0 := by
  refine Work.Heeds.value.bind fun c => ?_
  refine (onMachine_heeds (Work.Heeds.value.bind fun _ => .pure _)).bind fun id => ?_
  refine (onMachine_heeds (Handle.waitForState_heeds _ _)).mapError.bind fun _ => ?_
  refine (record_heeds _).bind fun _ => ?_
  refine (onMachine_heeds (Handle.waitForState_heeds _ _)).mapError.bind fun _ => ?_
  refine (record_heeds _).bind fun _ => ?_
  exact (onMachine_heeds (Handle.fetchUntil_heeds _ _ _ _)).mapError.bind fun _ =>
    judge_heeds _ _ _

/-- A machine that was made ready is not waited for once the deployment is canceled. -/
theorem awaitVerdict_desists : (awaitVerdict (σ := σ)).Desists := by
  refine Work.Desists.bind_next Work.Heeds.value.ages fun c => ?_
  refine Work.Desists.bind_next
    (onMachine_heeds (Work.Heeds.value.bind fun _ => .pure _)).ages fun id => ?_
  exact (onMachine_desists (Handle.waitForState_desists _ _)).mapError.bind

/-- A release command that succeeds has lost no time. One that fails has given up leases at most. -/
theorem runLine_heeds (r : Resolver) (line : String) :
    (runLine (σ := σ) r line).Heeds 0 Fleet.gracePeriod :=
  (makeReady_heeds r line).bind_desists (fun _ => awaitVerdict_heeds) fun _ => awaitVerdict_desists

/-- The whole of the command fails no later than the grace period after the cancellation. -/
theorem run_heeds (r : Resolver) : (run (σ := σ) r).Heeds 0 Fleet.gracePeriod := by
  refine Work.Heeds.value.prompt.bind fun c => ?_
  have hskip : (Pure.pure () : Work σ ReleaseCommand Unit).Heeds 0 Fleet.gracePeriod :=
    (Work.Heeds.pure ()).prompt
  split
  · -- No command is configured, or it is blank.
    exact hskip
  · split
    · exact hskip
    · -- A failure is recorded, which takes no time.
      exact (runLine_heeds r _).attempt_bind (fun _ => hskip)
        (fun e => (Work.Heeds.change _).bind fun _ => .fail e)
        (fun e => Work.Desists.bind_next (Work.Heeds.change _).ages fun _ => .fail e)

end ReleaseCommand

/-! ## The deployment -/

namespace Deployment

/-- Work on the fleet heeds the cancellation as it does. -/
theorem onFleet_heeds {x : Work σ Fleet α} {ok error : Nat} (hx : x.Heeds ok error) :
    (onFleet x).Heeds ok error :=
  Work.Heeds.within hx

/-- Work on a member heeds the cancellation as it does. -/
theorem onMember_heeds {place : Nat} {x : Work σ Handle α} (hx : x.Heeds 0 0) :
    (onMember place x).Heeds 0 0 :=
  onFleet_heeds (Fleet.member_heeds hx)

/-- To build a request takes no time. -/
theorem resolve_heeds (f : Resolver → Resolver × Except DeployError LaunchInput) :
    (resolve (σ := σ) f).Heeds 0 0 :=
  .of_run fun _ => .pure _

/-- What a member is waited for is ended by the cancellation. -/
theorem waitFor_heeds (d : Deployment) : (waitFor (σ := σ) d).Heeds 0 0 := by
  unfold waitFor
  split
  · refine (Handle.waitForState_heeds _ _).bind fun _ => ?_
    split
    · exact Handle.waitForHealth_heeds _
    · exact Work.Heeds.pure _
  · exact Work.Heeds.pure _

/-- The first machine is launched and waited for. -/
theorem createFirst_heeds : (createFirst (σ := σ)).Heeds 0 0 := by
  refine (resolve_heeds _).bind fun input => (Work.Heeds.call _ _ _).bind fun machine => ?_
  refine Work.Heeds.value.bind fun d => ?_
  refine (Work.Heeds.lift ((waitFor_heeds d).run { machine := machine })).bind fun x => ?_
  exact (Work.Heeds.ofExcept _).bind fun _ => onFleet_heeds (.change _)

/-- A member is replaced or updated by calls that the cancellation ends. -/
theorem changeMember_heeds (place : Nat) (orig : Machine) (input : LaunchInput) :
    (changeMember (σ := σ) place orig input).Heeds 0 0 := by
  unfold changeMember
  split
  · -- A replacement is two calls.
    exact (onMember_heeds Handle.destroy_heeds).bind fun _ =>
      (Work.Heeds.call _ _ _).bind fun _ => onFleet_heeds (.change _)
  · exact onMember_heeds (Handle.update_heeds input)

/-- The wait for a member is ended by the cancellation. -/
theorem awaitMember_heeds (place : Nat) : (awaitMember (σ := σ) place).Heeds 0 0 :=
  Work.Heeds.value.bind fun d => onMember_heeds (waitFor_heeds d)

/-- The update of a member is ended by the cancellation. -/
theorem updateMember_heeds (place : Nat) : (updateMember (σ := σ) place).Heeds 0 0 := by
  refine (onMember_heeds (Work.Heeds.value.bind fun _ => .pure _)).bind fun orig => ?_
  refine (resolve_heeds _).bind fun input => (changeMember_heeds place orig input).bind fun _ => ?_
  split
  · exact awaitMember_heeds place
  · exact Work.Heeds.pure _

/-- Also the immediate strategy, which goes on past errors, makes no call once the deployment is
canceled. -/
theorem updateMembers_heeds (places : List Nat) : (updateMembers (σ := σ) places).Heeds 0 0 := by
  -- By induction on the members that are left.
  induction places with
  | nil => exact Work.Heeds.pure _
  | cons place rest ih =>
    -- What is tried next may find the deployment canceled: it loses no time either way.
    refine (updateMember_heeds place).attempt.bind fun result => ?_
    cases result with
    | ok _ => exact ih
    | error e =>
      refine Work.Heeds.value.bind fun d => ?_
      split
      · exact ih
      · exact Work.Heeds.fail e

/-- What was done with the fleet comes to its end with the leases given up. -/
theorem release_heeds (result : Except DeployError Unit) :
    ((onFleet (σ := σ) Fleet.release).attempt >>= fun _ => Work.ofExcept result).Heeds
      Fleet.gracePeriod Fleet.gracePeriod :=
  (onFleet_heeds Fleet.release_heeds).attempt.bind_prompt fun _ => .ofExcept result

/-- The update of a fleet is over when the grace period is. -/
theorem updateFleet_heeds :
    (updateFleet (σ := σ)).Heeds Fleet.gracePeriod Fleet.gracePeriod := by
  refine Work.Heeds.value.prompt.bind fun d => ?_
  refine (onFleet_heeds (Fleet.acquire_heeds _)).bind fun _ => ?_
  exact (updateMembers_heeds _).attempt.prompt.bind release_heeds

/-- The command of a deployment heeds the cancellation, its report included. -/
theorem runCommand_heeds : (runCommand (σ := σ)).Heeds 0 Fleet.gracePeriod := by
  refine Work.Heeds.value.prompt.bind fun d => ?_
  refine (Work.Heeds.within (ReleaseCommand.run_heeds _)).attempt_bind (fun _ => ?_)
    (fun e => (Work.Heeds.lift (.report _ _)).bind fun _ => .fail e)
    (fun e => Work.Desists.bind_next (Work.Heeds.lift (.report _ _)).ages fun _ => .fail e)
  exact (Work.Heeds.pure ()).prompt

/-- The rollout is over when the grace period is. -/
theorem rollOut_heeds : (rollOut (σ := σ)).Heeds Fleet.gracePeriod Fleet.gracePeriod := by
  refine Work.Heeds.value.prompt.bind fun d => ?_
  split
  · exact createFirst_heeds.mono (Nat.zero_le _) (Nat.zero_le _)
  · exact updateFleet_heeds

/-- A deployment heeds the cancellation, but for one grace period. -/
theorem deploy_heeds : (deploy (σ := σ)).Heeds Fleet.gracePeriod Fleet.gracePeriod :=
  runCommand_heeds.bind fun _ => rollOut_heeds

end Deployment

end Rollout
