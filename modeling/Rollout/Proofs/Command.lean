import Rollout.Proofs.Members

/-!
# What the release command does

The books of the release command: its machine is leased for the update only, and the lease is
given up however the update goes.

## Main statements

- `ReleaseCommand.run_settled`: the release command keeps the books, and has no lease in the end.
-/

namespace Rollout

variable {σ α : Type} {env : Environment σ} {base : List Step}

namespace Resolver

/-- The request for an existing machine of the release command carries its id. -/
theorem releaseCommand_id {r : Resolver} {m : Machine} {input : LaunchInput}
    (h : r.releaseCommand (some m) = .ok input) : input.id = some m.id := by
  unfold releaseCommand at h
  split at h
  · cases h
  · obtain rfl := Except.ok.inj h
    rfl

end Resolver

namespace ReleaseCommand

variable {r : Resolver} {line : String}

/-! ## Work on the parts of a release command -/

/-- To record an event changes the job only. -/
theorem record_triple {P : ReleaseCommand → Session σ → Prop}
    (hjob : ∀ c job s, P c s → P { c with job := job } s) (e : ReleaseJob.Event) :
    Work.Triple env P (record e)
      ⟨fun c _ s => P c s, fun c _ s => P c s, fun _ _ => False⟩ := by
  refine Work.Triple.value_bind fun c => ?_
  split
  · exact Work.Triple.change fun c s hs => hjob c _ s hs.2
  · exact Work.Triple.fail fun c s hs => hs.2

/-- To record an event makes no call. -/
theorem record_calls {φ : Call → Prop} (e : ReleaseJob.Event) : (record (σ := σ) e).Calls φ := by
  refine Work.Calls.value.bind fun c => ?_
  split
  · exact Work.Calls.change _
  · exact Work.Calls.fail _

/-- Work on the fleet of the command is work on its fleet. -/
theorem onFleet_triple {P : ReleaseCommand → Session σ → Prop} {x : Work σ Fleet α}
    {Q : Work.Post σ ReleaseCommand α}
    (h : ∀ c, Run.Triple env (P c) (x c.fleet) (Work.Post.toRun
      ⟨fun f a s => Q.ok { c with fleet := f } a s, fun f e s => Q.error { c with fleet := f } e s,
        Q.halts⟩)) : Work.Triple env P (onFleet x) Q :=
  Work.Triple.within h

/-- Work on the machine of the release command is work on its handle. -/
theorem onMachine_triple {P : ReleaseCommand → Session σ → Prop} {x : Work σ Handle α}
    {Q : Work.Post σ ReleaseCommand α}
    (hnone : ∀ c s, P c s → ∀ e, Q.error c e s)
    (hsome : ∀ c h, c.fleet.members[0]? = some h → Run.Triple env (P c) (x h) (Work.Post.toRun
      ⟨fun h' a s => Q.ok { c with fleet := c.fleet.set 0 h' } a s,
        fun h' e s => Q.error { c with fleet := c.fleet.set 0 h' } e s, Q.halts⟩)) :
    Work.Triple env P (onMachine x) Q :=
  onFleet_triple fun c => Fleet.member_triple (fun _ s hs => hnone c s hs _)
    fun h hh => hsome c h hh

/-- Work on the machine of the command makes the calls of the work. -/
theorem onMachine_calls {φ : Call → Prop} {x : Work σ Handle α} (hx : x.Calls φ) :
    (onMachine x).Calls φ :=
  Work.Calls.within (Fleet.member_calls hx)

/-- What a failure is put into makes no call. -/
theorem inContext_calls {φ : Call → Prop} {x : Work σ ReleaseCommand α} {context : String}
    (hx : x.Calls φ) : (inContext context x).Calls φ :=
  Work.Calls.mapError hx

/-- Something may be read off the handle of the machine. -/
theorem read_triple {P : ReleaseCommand → Session σ → Prop} (g : Handle → α) :
    Work.Triple env P (onMachine (do return g (← Work.value)))
      ⟨fun c a s => P c s ∧ ∃ h, c.fleet.members[0]? = some h ∧ g h = a, fun c _ s => P c s,
        fun _ _ => False⟩ := by
  refine onMachine_triple (fun c s hs _ => hs) fun c h hh => Run.Triple.pure fun s hs => ?_
  show P { c with fleet := c.fleet.set 0 h } s ∧ ∃ h', (c.fleet.set 0 h).members[0]? = some h' ∧ _
  rw [Fleet.set_self hh]
  exact ⟨hs, h, hh, rfl⟩

/-! ## The books -/

/-- What the release command starts and ends with: no lease. -/
def Settled (env : Environment σ) (base : List Step) (c : ReleaseCommand) (s : Session σ) : Prop :=
  c.fleet.Unleased ∧ Books env base 0 s.past

/-- A wait for a state keeps the release command as it is. -/
theorem wait_settled (state : Machine.State) (timeout : Nat) :
    Work.Triple env (Settled env base) (onMachine (Handle.waitForState state timeout))
      ⟨fun c _ s => Settled env base c s, fun c _ s => Settled env base c s,
        fun _ s => CallsSince base s.past (Entitled base)⟩ := by
  refine onMachine_triple (fun c s hs _ => hs) fun c h hh => ?_
  -- That there is no lease is a fact about the handle, which the wait does not change.
  refine Run.Triple.of_and fun hf => Run.Triple.at_past fun p => ?_
  have hfree : Run.Triple env (fun s => Books env base 0 s.past)
      (Handle.waitForState state timeout h) ⟨fun _ s => Books env base 0 s.past,
        fun _ s => CallsSince base s.past (Entitled base)⟩ :=
    Books.free (Handle.waitForState_calls h timeout state fun _ => trivial)
  refine (hfree.and (Handle.waitForState_triple h timeout p state)).mono (fun _ hs => hs) ?_
    (fun _ _ hs => hs.1)
  rintro ⟨h', e | _⟩ s ⟨hbooks, hh'⟩
  · obtain rfl : h' = h := hh'
    exact ⟨by rw [Fleet.set_self hh]; exact hf, hbooks⟩
  · obtain rfl : h' = h := hh'.1
    exact ⟨by rw [Fleet.set_self hh]; exact hf, hbooks⟩

/-- Leasing the machine of the command keeps it the machine of the request. -/
theorem lease_settled {input : LaunchInput} (term : Nat) :
    Work.Triple env (fun c s => Settled env base c s ∧
        ∃ h, c.fleet.members[0]? = some h ∧ input.id = some h.id) (onFleet (Fleet.acquire term))
      ⟨fun c _ s => Books env base c.fleet.holdings s.past ∧
          ∃ h, c.fleet.members[0]? = some h ∧ input.id = some h.id,
        fun _ _ s => Books env base 0 s.past,
        fun _ s => CallsSince base s.past (Entitled base)⟩ := by
  refine onFleet_triple fun c => Run.Triple.extract
    (fun s hs => ⟨And.intro hs.1.1 hs.2, hs.1.2⟩) fun hc => ?_
  obtain ⟨hf, h, hh, hid⟩ := hc
  refine (Fleet.acquire_books hf _).mono (fun _ hs => hs) ?_ (fun _ _ hs => hs)
  rintro ⟨f', e | _⟩ s ⟨hmachines, hs⟩
  · exact hs
  · obtain ⟨h', hh', hmachine⟩ := Fleet.getElem?_of_machines_eq hmachines hh
    have hid' : h.id = h'.id := by
      rw [Handle.id, Handle.id, hmachine]
    exact ⟨hs.2, h', hh', hid.trans (congrArg some hid')⟩

/-- The update of the machine is entitled, and no lease is left of it. -/
theorem update_settled (hechoes : env.Echoes) :
    Work.Triple env (Settled env base) (update r line)
      ⟨fun _ _ s => Books env base 0 s.past, fun _ _ s => Books env base 0 s.past,
        fun _ s => CallsSince base s.past (Entitled base)⟩ := by
  refine Work.Triple.value_bind fun c₀ => ?_
  refine Work.Triple.bind ((wait_settled _ _).pre fun c s hs => hs.2) (fun _ => ?_)
    (fun _ _ _ hs => hs.2) (fun _ _ hs => hs)
  -- From here on it is known which machine is updated.
  refine Work.Triple.bind (read_triple _) (fun m => ?_) (fun _ _ _ hs => hs.2)
    (fun _ _ h => h.elim)
  refine Work.Triple.bind (R := ⟨fun c input s => Settled env base c s ∧
    ∃ h, c.fleet.members[0]? = some h ∧ input.id = some h.id, fun _ _ s => Books env base 0 s.past,
    fun _ _ => False⟩) (Work.Triple.ofExcept (fun input c s hinput hs => ?_)
      (fun e c s _ hs => hs.1.2)) (fun input => ?_) (fun _ _ _ hs => hs) (fun _ _ h => h.elim)
  · obtain ⟨hsettled, h, hh, rfl⟩ := hs
    exact ⟨hsettled, h, hh, Resolver.releaseCommand_id hinput⟩
  refine Work.Triple.bind (lease_settled _) (fun _ => ?_) (fun _ _ _ hs => hs) (fun _ _ hs => hs)
  refine Work.Triple.bind (R := { Books.post env base (·.fleet.holdings) with
    error := fun _ _ _ => False }) ?_ (fun updated => ?_) (fun _ _ _ h => h.elim) (fun _ _ hs => hs)
  · refine Work.Triple.attempt (onFleet_triple fun c => Run.Triple.extract
      (fun s hs => And.symm hs) fun hc => ?_)
    obtain ⟨h, hh, hid⟩ := hc
    refine Fleet.member_books fun h' other hh' => ?_
    obtain rfl := Option.some.inj (hh.symm.trans hh')
    exact Handle.update_books hechoes (show (oneShot input line).id = _ from hid) other
  -- Whether the update succeeds or fails, the lease is given up after it.
  refine Work.Triple.bind (R := { Books.post env base (fun _ => 0) with
    error := fun _ _ _ => False }) ?_ (fun _ => ?_) (fun _ _ _ h => h.elim) (fun _ _ hs => hs)
  · refine Work.Triple.attempt (onFleet_triple fun c => Fleet.release_books.mono (fun _ hs => hs)
      ?_ (fun _ _ hs => hs))
    rintro ⟨f', e | _⟩ s hs
    · exact hs.2
    · exact hs.2
  refine Work.Triple.bind (R := Books.post env base (fun _ => 0))
    (Work.Triple.ofExcept (fun _ _ _ _ hs => hs) (fun _ _ _ _ hs => hs)) (fun _ => ?_)
    (fun _ _ _ hs => hs) (fun _ _ hs => hs)
  exact (record_triple (fun _ _ _ hs => hs) _).mono (fun _ _ hs => hs) (fun _ _ _ hs => hs)
    (fun _ _ _ hs => hs) (fun _ _ h => h.elim)

/-- The launch of a machine is the only call of its creation. -/
theorem create_calls {φ : Call → Prop} (hφ : ∀ input, φ (.launch (oneShot input line))) :
    (create (σ := σ) r line).Calls φ := by
  refine (Work.Calls.ofExcept _).bind fun input => ?_
  refine (Work.Calls.call (hφ input)).bind fun machine => ?_
  exact (Work.Calls.change _).bind fun _ => record_calls _

/-- A verdict makes no call. -/
theorem judge_calls {φ : Call → Prop} (id machine : String) (event : Machine.Event) :
    (judge (σ := σ) id machine event).Calls φ := by
  unfold judge
  split
  · exact Work.Calls.fail _
  · refine (record_calls _).bind fun _ => ?_
    split
    · exact (Work.Calls.lift (Run.Calls.report _ _)).bind fun _ => Work.Calls.fail _
    · exact Work.Calls.pure _

/-- Waiting for the verdict has nothing to do with leases. -/
theorem awaitVerdict_isFree : (awaitVerdict (σ := σ)).Calls Call.IsFree := by
  have hwait : ∀ state timeout, (Handle.waitForState (σ := σ) state timeout).Calls Call.IsFree :=
    fun state timeout h => Handle.waitForState_calls h timeout state fun _ => trivial
  have hevent : ∀ kind after timeout,
      (Handle.waitForEvent (σ := σ) kind after timeout).Calls Call.IsFree :=
    fun kind after timeout h => Handle.fetchUntil_calls h timeout _ _ _ trivial
  refine Work.Calls.value.bind fun c => ?_
  refine (onMachine_calls fun _ => Run.Calls.pure _).bind fun id => ?_
  refine (inContext_calls (onMachine_calls (hwait _ _))).bind fun _ => ?_
  refine (record_calls _).bind fun _ => ?_
  refine (inContext_calls (onMachine_calls (hwait _ _))).bind fun _ => ?_
  refine (record_calls _).bind fun _ => ?_
  refine (inContext_calls (onMachine_calls (hevent _ _ _))).bind fun event => ?_
  exact judge_calls _ _ event

/-- However a machine is made ready, no lease is left of it. -/
theorem makeReady_settled (hechoes : env.Echoes) :
    Work.Triple env (Settled env base) (makeReady r line) (Books.post env base (fun _ => 0)) := by
  refine Work.Triple.value_bind fun c => ?_
  split
  · -- No machine is there: one is launched without a lease.
    refine Work.Triple.mapError ((Books.free_work (create_calls fun _ => trivial)).mono
      (fun _ _ hs => hs.2.2) (fun _ _ _ hs => hs) (fun _ _ _ hs => hs) fun _ _ hs => hs)
  · refine Work.Triple.mapError ((update_settled hechoes).mono
      (fun _ _ hs => hs.2) (fun _ _ _ hs => hs) (fun _ _ _ hs => hs) fun _ _ hs => hs)

/-- The release command keeps the books, and has no lease in the end. -/
theorem run_settled (hechoes : env.Echoes) :
    Work.Triple env (Settled env base) (run r) (Books.post env base (fun _ => 0)) := by
  refine Work.Triple.value_bind fun c => ?_
  split
  · exact Work.Triple.pure fun _ _ hs => hs.2.2
  · split
    · exact Work.Triple.pure fun _ _ hs => hs.2.2
    · -- The command runs; what fails is recorded.
      refine Work.Triple.attempt_bind (Work.Triple.bind
        ((makeReady_settled hechoes).pre fun _ _ hs => hs.2)
        (fun _ => Books.free_work awaitVerdict_isFree) (fun _ _ _ hs => hs) fun _ _ hs => hs)
        (fun _ => ?_) (fun e => ?_) (fun _ _ hs => hs)
      · exact Work.Triple.pure fun _ _ hs => hs
      · exact Work.Triple.bind (R := Books.post env base (fun _ => 0))
          (Work.Triple.change fun _ _ hs => hs) (fun _ => Work.Triple.fail fun _ _ hs => hs)
          (fun _ _ _ hs => hs) (fun _ _ hs => hs)

end ReleaseCommand

end Rollout
