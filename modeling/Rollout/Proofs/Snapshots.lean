import Rollout.Proofs.Restarting

/-!
# What requests are made from

A deployment lists the machines of an app once, when it is prepared. A release command of any
length may follow, and then the leases on the machines are taken. Only then the requests for them
are made, from the records that were listed: none is read again when its lease is granted. So
whatever others do to a machine in the meantime, also under leases of their own, is written over.

The members of the fleet change while they are updated, and the resolver hands out its volumes. The
invariant of the updates is that the resolver is the one that has resolved the requests of all
machines before, and that the machines whose turn is still to come are as they were listed.

## Main statements

- `Deployment.deploy_fromRecords`: machines are changed as their records ask for that a deployment
  has had since it was prepared.
- `Deployment.deploy_overwrites`: a change between the listing and the lease is lost.
-/

namespace Rollout

variable {σ τ α β : Type} {env : Environment σ} {base past : List Step}

/-! ## Requests for records -/

namespace Resolver

/-- The resolver that has made the requests for some machines, one after the other. -/
def after (r : Resolver) (done : List Machine) : Resolver :=
  done.foldl (fun r m => (r.resolve m).1) r

/-- The last machine of a list is resolved last. -/
theorem after_concat (r : Resolver) (done : List Machine) (m : Machine) :
    r.after (done ++ [m]) = ((r.after done).resolve m).1 := by
  rw [after, List.foldl_append]
  rfl

end Resolver

/-- The calls by which machines are changed as a resolver asks for them in their turns, from their
records. An app without any is given its first machine. -/
inductive FromRecords (r : Resolver) (records : List Machine) : Call → Prop where
  | first {input : LaunchInput} (hnone : records = [])
      (hinput : (r.launch Metadata.appGroup []).2 = .ok input) :
      FromRecords r records (.launch input)
  | turn {done rest : List Machine} {m : Machine} {c : Call}
      (hrecords : records = done ++ m :: rest) (hc : ForMachine (r.after done) m c) :
      FromRecords r records c

/-- Whether machines were changed from their records only since a moment. -/
def Recorded (r : Resolver) (records : List Machine) (base past : List Step) : Prop :=
  CallsSince base past fun _ c => c.IsMutation → FromRecords r records c

variable {r r₀ : Resolver} {records done rest : List Machine} {m : Machine}

/-- In a quiet time no machine was changed at all. -/
theorem Quiet.recorded (h : Quiet base past) : Recorded r records base past :=
  CallsSince.mono h fun _ _ _ _ hc hmutation => absurd hmutation hc

/-- Nor does a quiet time add to what was changed before. -/
theorem Recorded.quiet {past' : List Step} (h : Recorded r records base past)
    (hquiet : Quiet past past') : Recorded r records base past' :=
  CallsSince.trans h hquiet.recorded

/-- However work ends, machines were changed from their records only. -/
def Recorded.post (r : Resolver) (records : List Machine) (base : List Step) :
    Work.Post σ τ α where
  ok _ _ s := Recorded r records base s.past
  error _ _ s := Recorded r records base s.past
  halts _ s := Recorded r records base s.past

/-- Work that changes machines from their records only. -/
theorem Work.Calls.recorded {x : Work σ τ α}
    (h : x.Calls fun c => c.IsMutation → FromRecords r records c) :
    Work.Triple env (fun _ s => s.past = base) x (Recorded.post r records base) := by
  refine fun t => ((h t).triple_at base).mono (fun _ hs => hs) ?_ (fun _ _ hs => hs.callsSince)
  rintro ⟨t', e | a⟩ s hs
  · exact hs.callsSince
  · exact hs.callsSince

namespace Deployment

variable {d : Deployment} {place : Nat}

/-! ## One turn -/

/-- Whether a deployment has a resolver, and records of the machines from a place on. -/
structure Due (r : Resolver) (place : Nat) (rest : List Machine) (d : Deployment) : Prop where
  resolver : d.resolver = r
  rest : d.fleet.machines.drop place = rest

namespace Due

/-- The machine whose turn it is is in the place. -/
theorem getElem? (h : Due r place (m :: rest) d) : d.fleet.machines[place]? = some m := by
  have hrest := congrArg (·[0]?) h.rest
  simpa using hrest

/-- The member in the place has the record of the machine. -/
theorem machine_eq (h : Due r place (m :: rest) d) {handle : Handle}
    (hh : d.fleet.members[place]? = some handle) : handle.machine = m := by
  have hmachine := Fleet.getElem?_machines hh
  rw [h.getElem?] at hmachine
  exact (Option.some.inj hmachine).symm

/-- After its turn the machines behind it are left. -/
theorem next (h : Due r place (m :: rest) d) : Due r (place + 1) rest d := by
  refine ⟨h.resolver, ?_⟩
  rw [← List.tail_drop, h.rest]
  rfl

/-- What is put in a place does not matter from the next place on. -/
theorem set (h : Due r (place + 1) rest d) (handle : Handle) :
    Due r (place + 1) rest { d with fleet := d.fleet.set place handle } := by
  refine ⟨h.resolver, ?_⟩
  rw [← h.rest]
  show (d.fleet.set place handle).machines.drop (place + 1) = _
  rw [Fleet.machines_set]
  exact List.drop_set_of_lt (Nat.lt_succ_self place)

end Due

/-- What is left when a turn has come to its end, however it ends. -/
def duePost (r : Resolver) (place : Nat) (rest : List Machine) (K : List Step → Prop) :
    Work.Post σ Deployment α where
  ok d _ s := Due r place rest d ∧ K s.past
  error d _ s := Due r place rest d ∧ K s.past
  halts _ s := K s.past

/-- Work on a member in its turn leaves the machines of later turns alone. -/
theorem onMember_due {P : Deployment → Prop} {x : Work σ Handle α}
    (hP : ∀ d, P d → Due r (place + 1) rest d)
    (hx : ∀ d h, P d → d.fleet.members[place]? = some h →
      (x h).Calls fun c => c.IsMutation → FromRecords r₀ records c) :
    Work.Triple env (fun d s => P d ∧ Recorded r₀ records base s.past) (onMember place x)
      (duePost r (place + 1) rest (Recorded r₀ records base)) := by
  refine onFleet_triple fun d => Run.Triple.of_and fun hd => ?_
  refine Fleet.member_triple (fun _ s hs => ⟨hP d hd, hs⟩) fun h hh => ?_
  -- The calls of the work come after what was recorded before.
  have hrecorded : ∀ s : Session σ, (∃ s₀ : Session σ, Recorded r₀ records base s₀.past ∧
      Adds (fun c => c.IsMutation → FromRecords r₀ records c) s₀.past s.past) →
      Recorded r₀ records base s.past := by
    rintro s ⟨s₀, hs₀, hadds⟩
    exact CallsSince.trans hs₀ hadds.callsSince
  refine (hx d h hd hh).triple.mono (fun _ hs => hs) ?_ (fun _ s hs => hrecorded s hs)
  rintro ⟨h', e | a⟩ s hs
  · exact ⟨(hP d hd).set h', hrecorded s hs⟩
  · exact ⟨(hP d hd).set h', hrecorded s hs⟩

/-- A call leaves the deployment alone. -/
theorem call_due {c : Call} {what machine : String} (hc : FromRecords r₀ records c) :
    Work.Triple env (fun d s => Due r place rest d ∧ Recorded r₀ records base s.past)
      (Work.call c what machine) (duePost r place rest (Recorded r₀ records base)) := by
  -- The call is one for a record, and its answer is no call.
  have hasked : ∀ p time, Recorded r₀ records base p →
      Recorded r₀ records base (.asked c time :: p) :=
    fun p time hp => CallsSince.asked hp time fun _ => hc
  refine Work.Triple.call (K := fun d p => Due r place rest d ∧ Recorded r₀ records base p)
    (R := fun d _ p => Due r place rest d ∧ Recorded r₀ records base p)
    (E := fun d _ p => Due r place rest d ∧ Recorded r₀ records base p)
    (H := Recorded r₀ records base) ?_ ?_ ?_ ?_ ?_
  · exact fun _ _ _ hp => hp
  · exact fun _ _ time p hp => ⟨hp.1, hasked p time hp.2⟩
  · exact fun _ _ time p hp _ => ⟨hp.1, (hasked p time hp.2).skip rfl⟩
  · exact fun _ _ time p hp _ => ⟨hp.1, (hasked p time hp.2).skip rfl⟩
  · exact fun _ time p hp => hasked p time hp.2

/-- A machine is changed by calls of its request only. -/
theorem changeMember_due {input : LaunchInput}
    (hcalls : ∀ c, Alters m input c → FromRecords r₀ records c) :
    Work.Triple env (fun d s => Due r place (m :: rest) d ∧ Recorded r₀ records base s.past)
      (changeMember place m input) (duePost r (place + 1) rest (Recorded r₀ records base)) := by
  unfold changeMember
  cases hreplace : input.requiresReplacement with
  | false =>
    refine onMember_due (fun _ hd => hd.next) fun d h _ _ => (Handle.update_calls h input).mono ?_
    rintro c ⟨nonce, rfl⟩ -
    exact hcalls _ (.update nonce hreplace)
  | true =>
    refine Work.Triple.bind (R := duePost r (place + 1) rest (Recorded r₀ records base))
      (onMember_due (fun _ hd => hd.next) fun d h hd hh => (Handle.destroy_calls h).mono ?_)
      (fun _ => ?_) (fun _ _ _ hs => hs) (fun _ _ hs => hs)
    · rintro c ⟨nonce, rfl⟩ -
      -- The machine that is destroyed is the one of the record.
      have hmachine := hd.machine_eq hh
      subst hmachine
      exact hcalls _ (.destroy nonce hreplace)
    refine Work.Triple.bind (call_due (hcalls _ (.launch hreplace))) (fun machine => ?_)
      (fun _ _ _ hs => hs) (fun _ _ hs => hs)
    exact onFleet_triple fun d => Run.Triple.pure fun s hs => ⟨hs.1.set _, hs.2⟩

/-- To wait for a machine changes none. -/
theorem awaitMember_due :
    Work.Triple env (fun d s => Due r (place + 1) rest d ∧ Recorded r₀ records base s.past)
      (awaitMember place) (duePost r (place + 1) rest (Recorded r₀ records base)) := by
  refine Work.Triple.value_bind fun d => ?_
  have hwait : (waitFor (σ := σ) d).Calls fun c => c.IsMutation → FromRecords r₀ records c :=
    waitFor_calls d (fun _ _ _ => False.elim) fun _ => False.elim
  exact (onMember_due (fun _ hd => hd) fun _ h _ _ => hwait h).pre fun _ _ hs => hs.2

/-- What is read in a turn is the record. -/
theorem read_due {K : List Step → Prop} :
    Work.Triple env (fun d s => Due r place (m :: rest) d ∧ K s.past)
      (onMember place (do return (← Work.value).machine))
      ⟨fun d orig s => orig = m ∧ Due r place (m :: rest) d ∧ K s.past, fun _ _ _ => False,
        fun _ _ => False⟩ := by
  refine onFleet_triple fun d => Fleet.member_triple (fun hnone s hs => ?_) fun h hh =>
    Run.Triple.pure fun s hs => ⟨hs.1.machine_eq hh, ?_⟩
  · -- There is a member in the place, since there is a machine.
    have hmachine := hs.1.getElem?
    rw [Fleet.machines, List.getElem?_map, hnone] at hmachine
    cases hmachine
  · show Due _ _ _ { d with fleet := d.fleet.set place h } ∧ _
    rw [Fleet.set_self hh]
    exact hs

/-- Whether there is a request for a record or not, the resolver goes on to the next. -/
theorem resolve_due {K : List Step → Prop} :
    Work.Triple env (fun d s => Due r place (m :: rest) d ∧ K s.past) (resolve (·.resolve m))
      ⟨fun d input s => (r.resolve m).2 = .ok input ∧ Due (r.resolve m).1 place (m :: rest) d ∧
          K s.past,
        fun d _ s => Due (r.resolve m).1 (place + 1) rest d ∧ K s.past, fun _ _ => False⟩ := by
  refine (resolve_triple _).mono (fun _ _ hs => hs) ?_ ?_ (fun _ _ h => h)
  · rintro _ input s ⟨d, hs, rfl, hinput⟩
    rw [hs.1.resolver] at hinput ⊢
    exact ⟨hinput, ⟨rfl, hs.1.rest⟩, hs.2⟩
  · rintro _ e s ⟨d, hs, rfl, -⟩
    rw [hs.1.resolver]
    exact ⟨⟨rfl, hs.1.next.rest⟩, hs.2⟩

/-- In its turn a machine is changed as its request asks for, which is made from its record. -/
theorem updateMember_due (hrecords : records = done ++ m :: rest) :
    Work.Triple env (fun d s => Due (r₀.after done) done.length (m :: rest) d ∧
        Recorded r₀ records base s.past) (updateMember done.length)
      (duePost (r₀.after (done ++ [m])) (done.length + 1) rest (Recorded r₀ records base)) := by
  rw [Resolver.after_concat]
  refine Work.Triple.bind read_due (fun orig => Work.Triple.of_and fun horig => ?_)
    (fun _ _ _ h => h.elim) (fun _ _ h => h.elim)
  subst horig
  refine Work.Triple.bind resolve_due (fun input => Work.Triple.of_and fun hinput => ?_)
    (fun _ _ _ hs => hs) (fun _ _ h => h.elim)
  -- The request was resolved from the record, by the resolver that had its turns before.
  have hcalls : ∀ c, Alters orig input c → FromRecords r₀ records c :=
    fun c hc => .turn hrecords ⟨_, input, Prod.ext rfl hinput, hc⟩
  refine Work.Triple.bind (changeMember_due hcalls) (fun _ => ?_) (fun _ _ _ hs => hs)
    (fun _ _ hs => hs)
  split
  · exact awaitMember_due
  · exact Work.Triple.pure fun _ _ hs => hs

/-- However many members are updated, and whether the updates go on past failures or not, machines
are changed from their records only. -/
theorem updateMembers_due (done : List Machine) (hrecords : records = done ++ rest) :
    Work.Triple env (fun d s => Due (r₀.after done) done.length rest d ∧
        Recorded r₀ records base s.past)
      (updateMembers (List.range' done.length rest.length))
      (Recorded.post r₀ records base) := by
  -- By induction on the machines to come; the resolver has been through those before.
  induction rest generalizing done with
  | nil => exact Work.Triple.pure fun _ _ hs => hs.2
  | cons m rest ih =>
    have hnext : records = (done ++ [m]) ++ rest := by
      rw [hrecords, List.append_assoc]
      rfl
    have ih := ih (done ++ [m]) hnext
    rw [List.length_append, List.length_singleton] at ih
    rw [List.length_cons, List.range'_succ]
    refine Work.Triple.attempt_bind (updateMember_due hrecords) (fun _ => ih) (fun e => ?_)
      (fun _ _ hs => hs)
    refine Work.Triple.value_bind fun d => ?_
    split
    · -- A failure is passed over, and the resolver goes on from it.
      exact ih.pre fun _ _ hs => hs.2
    · exact Work.Triple.fail fun _ _ hs => hs.2.2

/-! ## The run of a deployment -/

/-- All that is called for the first machine of an app, which has no record. -/
theorem createFirst_recorded (d : Deployment) (hnone : records = []) :
    Work.Triple env (fun d' s => d' = d ∧ s.past = base) createFirst
      (Recorded.post d.resolver records base) := by
  refine Work.Triple.bind (R := ⟨fun _ input s =>
      (d.resolver.launch Metadata.appGroup []).2 = .ok input ∧ s.past = base,
    fun _ _ s => s.past = base, fun _ _ => False⟩)
    ((resolve_triple _).mono (fun _ _ hs => hs) ?_ ?_ (fun _ _ h => h)) (fun input => ?_)
    (fun _ _ s hs => hs ▸ CallsSince.refl) (fun _ _ h => h.elim)
  · rintro _ input s ⟨_, ⟨rfl, hs⟩, -, hinput⟩
    exact ⟨hinput, hs⟩
  · rintro _ e s ⟨_, ⟨-, hs⟩, -⟩
    exact hs
  -- The request is the one for a first machine, and all that follows is waiting.
  refine Work.Triple.of_and fun hinput => ?_
  refine Work.Calls.recorded ((Work.Calls.call fun _ => .first hnone hinput).bind fun machine => ?_)
  refine Work.Calls.value.bind fun d' => ?_
  have hwait : (waitFor (σ := σ) d').Calls fun c =>
      c.IsMutation → FromRecords d.resolver records c :=
    waitFor_calls d' (fun _ _ _ => False.elim) fun _ => False.elim
  refine (Work.Calls.lift (hwait _)).bind fun x => ?_
  refine (Work.Calls.ofExcept _).bind fun _ => ?_
  exact Work.Calls.within (Work.Calls.change _)

/-- When the fleet is leased, all machines are still as they were listed. -/
theorem acquire_due (d : Deployment) (term : Nat) :
    Work.Triple env (fun d' s => d' = d ∧ s.past = base) (onFleet (Fleet.acquire term))
      ⟨fun d' _ s => Due d.resolver 0 d.fleet.machines d' ∧
          Recorded d.resolver d.fleet.machines base s.past,
        fun _ _ s => Recorded d.resolver d.fleet.machines base s.past,
        fun _ s => Recorded d.resolver d.fleet.machines base s.past⟩ := by
  refine onFleet_triple fun d' => Run.Triple.of_and fun hd => ?_
  subst hd
  refine (Fleet.acquire_calls term base).mono (fun _ hs => hs) ?_
    (fun _ _ hs => (quiet_of_leases hs).recorded)
  rintro ⟨f', e | _⟩ s ⟨hmachines, hadds⟩
  · exact (quiet_of_leases hadds).recorded
  · exact ⟨⟨rfl, hmachines⟩, (quiet_of_leases hadds).recorded⟩

/-- To give the leases up changes no machine. -/
theorem release_recorded (result : Except DeployError Unit) :
    Work.Triple env (fun _ s => Recorded r records base s.past)
      ((onFleet Fleet.release).attempt >>= fun _ => Work.ofExcept result)
      (Recorded.post r records base) :=
  (release_then (fun _ _ h hquiet => h.quiet hquiet) result).mono (fun _ _ hs => hs)
    (fun _ _ _ hs => hs.2) (fun _ _ _ hs => hs.2) (fun _ _ hs => hs)

/-- The machines of a fleet are changed from their records only. -/
theorem updateFleet_recorded (d : Deployment) :
    Work.Triple env (fun d' s => d' = d ∧ s.past = base) updateFleet
      (Recorded.post d.resolver d.fleet.machines base) := by
  have hsize : d.fleet.size = d.fleet.machines.length := by
    rw [Fleet.machines, List.length_map]
    rfl
  -- The turns are those of the places from the first on.
  have hplaces : List.range d.fleet.size = List.range' 0 d.fleet.machines.length := by
    rw [List.range_eq_range', hsize]
  refine Work.Triple.value_bind_of_eq ?_
  refine Work.Triple.bind (acquire_due d _) (fun _ => ?_) (fun _ _ _ hs => hs) (fun _ _ hs => hs)
  rw [hplaces]
  exact Work.Triple.attempt_bind (updateMembers_due [] rfl) (fun _ => release_recorded _)
    (fun _ => release_recorded _) (fun _ _ hs => hs)

/-- To roll out changes machines from their records only. -/
theorem rollOut_recorded (d : Deployment) :
    Work.Triple env (fun d' s => d' = d ∧ s.past = base) rollOut
      (Recorded.post d.resolver d.fleet.machines base) := by
  refine Work.Triple.value_bind_of_eq ?_
  split
  · -- Without members there are no records.
    rename_i hempty
    have hmachines : d.fleet.machines = [] := by
      rw [Fleet.machines, List.isEmpty_iff.mp hempty]
      rfl
    exact createFirst_recorded d hmachines
  · exact updateFleet_recorded d

/-- After its release command a deployment changes machines from its records only. -/
theorem deploy_recorded (d : Deployment) (s : Session σ) :
    Recorded d.resolver d.fleet.machines (runCommand d env s).2.past (deploy d env s).2.past := by
  rcases deploy_cases d env s with ⟨c, s₁, hcommand, hdeploy⟩ | ⟨ending, hdeploy, -⟩
  · -- The command leaves the resolver and the fleet alone.
    rw [hcommand, hdeploy]
    exact (rollOut_recorded { d with command := c }).always ⟨rfl, rfl⟩
  · rw [hdeploy]
    exact CallsSince.refl

/-! ## What was listed -/

/-- What holds when a program that may fail has not failed. -/
def given (K : α → Session σ → Prop) : Run.Post σ (Except DeployError α) where
  done r s := ∀ a, r = .ok a → K a s
  halts _ _ := True

/-- A program that may fail goes on where the one before has not failed. -/
theorem bind_given {P : Session σ → Prop} {K : α → Session σ → Prop} {L : β → Session σ → Prop}
    {x : ExceptT DeployError (Run σ) α} {f : α → ExceptT DeployError (Run σ) β}
    (hx : Run.Triple env P x.run (given K)) (hf : ∀ a, Run.Triple env (K a) (f a).run (given L)) :
    Run.Triple env P (x >>= f).run (given L) := by
  refine Run.Triple.bind hx (fun result => ?_) (fun _ _ _ => trivial)
  cases result with
  | ok a => exact (hf a).pre fun s hs => hs a rfl
  | error e => exact Run.Triple.pure fun _ _ _ heq => by cases heq

/-- A result that is there already is given if it is no error. -/
theorem pure_given {P : Session σ → Prop} (r : Except DeployError α) :
    Run.Triple env P (pure r) (given fun a s => r = .ok a ∧ P s) :=
  Run.Triple.pure fun _ hs _ heq => ⟨heq, hs⟩

/-- A call that prepares a deployment has seen what it gives. -/
theorem setUp_given (b : Bounds) (c : Call) :
    Run.Triple env (base <:+ ·.past) (setUp b c)
      (given fun a s => env.Gives c (.ok a) ∧ Seen base [.answered c (.ok a)] s.past) := by
  refine Run.Triple.bind Run.Triple.request_seen (fun r => ?_) (fun _ _ _ => trivial)
  split
  · exact Run.Triple.pure fun _ _ _ heq => by cases heq
  · exact Run.Triple.pure fun _ _ _ heq => by cases heq
  · refine Run.Triple.pure fun s hs a heq => ?_
    obtain rfl := Except.ok.inj heq
    exact hs.2 _ rfl

/-- A preparation step makes its one call. -/
theorem setUp_calls {φ : Call → Prop} {c : Call} (b : Bounds) (hφ : φ c) :
    (setUp (σ := σ) b c).Calls φ := by
  refine (Run.Calls.request hφ).bind fun r => ?_
  split <;> exact Run.Calls.pure _

/-- The search for volumes calls for nothing but the volumes. -/
theorem findVolumes_calls {φ : Call → Prop} (b : Bounds) (app : App.Config) (hφ : φ .volumes) :
    (findVolumes (σ := σ) b app).Calls φ := by
  unfold findVolumes
  split
  · exact Run.Calls.pure _
  · exact (setUp_calls b hφ).bind fun _ => Run.Calls.pure _

/-- What was seen stays seen, whatever is called. -/
theorem seen_given {steps : List Step} {x : Run σ (Except DeployError α)}
    (hx : x.Calls fun _ => True) :
    Run.Triple env (Seen base steps ·.past) x (given fun _ s => Seen base steps s.past) := by
  refine hx.triple.mono (fun _ hs => hs) ?_ (fun _ _ _ => trivial)
  rintro _ s ⟨s₀, hs₀, hadds⟩ _ _
  exact hs₀.later hadds.suffix

/-- A deployment that was prepared is assembled from the configuration that was checked and the
machines that were listed. -/
theorem prepare_assembles (b : Bounds) (o : Options) (app : App.Config) :
    Run.Triple env (base <:+ ·.past) (prepare b o app) (given fun d s =>
      ∃ app' strategy roster volumes release, checkApp o app = .ok app' ∧
        env.Gives .list (.ok roster) ∧ Seen base [.answered .list (.ok roster)] s.past ∧
        d = assemble o app' strategy roster volumes release) := by
  -- The checks come first, then the list, and all that follows leaves what was seen.
  refine bind_given (pure_given _) fun _ => ?_
  refine bind_given (pure_given _) fun app' => ?_
  refine Run.Triple.extract (fun s hs => hs) fun happ => ?_
  refine bind_given (pure_given _) fun strategy => ?_
  refine bind_given ((setUp_given b .list).pre fun s hs => hs.2.2) fun roster => ?_
  refine Run.Triple.of_and fun hgives => ?_
  refine bind_given (pure_given _) fun _ => ?_
  refine bind_given ((seen_given (findVolumes_calls b app' trivial)).pre fun s hs => hs.2)
    fun volumes => ?_
  refine bind_given (seen_given (setUp_calls b trivial)) fun release => ?_
  refine Run.Triple.pure fun s hs d hd => ?_
  obtain rfl := Except.ok.inj hd
  exact ⟨app', strategy, roster, volumes, release, happ, hgives, hs, rfl⟩

/-- A deployment that was prepared has the machines that were listed. -/
theorem prepare_listed (b : Bounds) (o : Options) (app : App.Config) :
    Run.Triple env (base <:+ ·.past) (prepare b o app) (given fun d s => ∃ roster,
      Seen base [.answered .list (.ok roster)] s.past ∧ d.fleet.machines = roster.app) := by
  refine (prepare_assembles b o app).mono (fun _ hs => hs) (fun r s hs d hd => ?_)
    (fun _ _ _ => trivial)
  obtain ⟨app', strategy, roster, volumes, release, -, -, hseen, rfl⟩ := hs d hd
  exact ⟨roster, hseen, assemble_machines o app' strategy roster volumes release⟩

end Deployment

/-! ## Machines that others change -/

namespace Shared

/-- The parties that share a machine. -/
inductive Party where
  | deployment
  | operator
deriving DecidableEq

/-- What an operator does with a machine. -/
inductive Deed where
  | lease
  | change (config : Machine.Config)
  | unlease

end Shared

/-- A machine that a deployment shares with an operator. -/
structure Shared where
  machine : Machine
  /-- Who holds the lease. -/
  holder : Option Shared.Party := none
  /-- What was stored when the deployment was granted its lease. -/
  granted : Option Machine := none

namespace Shared

/-- An operator leases a machine if no one else does, and changes it under the lease only. -/
def perform (shared : Shared) : Deed → Shared
  | .lease => if shared.holder = none then { shared with holder := some .operator } else shared
  | .change config =>
    if shared.holder = some .operator then
      { shared with machine := { shared.machine with config := config } }
    else shared
  | .unlease =>
    if shared.holder = some .operator then { shared with holder := none } else shared

/-- What an operator changes it changes under its own lease. -/
theorem holder_of_perform {shared : Shared} {deed : Deed}
    (h : (shared.perform deed).machine ≠ shared.machine) : shared.holder = some .operator := by
  by_contra hholder
  apply h
  -- A lease taken or given up leaves the machine as it is.
  cases deed with
  | lease =>
    rw [perform]
    split <;> rfl
  | change config => rw [perform, if_neg hholder]
  | unlease => rw [perform, if_neg hholder]

/-- What becomes of a machine by a call of the deployment. -/
def take (shared : Shared) : Call → Shared
  | .acquire .. =>
    if shared.holder = none then
      { shared with holder := some .deployment, granted := some shared.machine }
    else shared
  | .update input _ =>
    if shared.holder = some .deployment then
      { shared with machine := { shared.machine with config := input.config } }
    else shared
  | .release .. =>
    if shared.holder = some .deployment then { shared with holder := none } else shared
  | _ => shared

/-- What the deployment is answered. -/
def reply (shared : Shared) : (c : Call) → c.Outcome
  | .list => .ok { app := [shared.machine] }
  | .get _ | .update .. => .ok shared.machine
  | .acquire id ttl =>
    if shared.holder = some .deployment then Environment.oblige (.acquire id ttl)
    else .error (.status 409 "leased")
  | c => Environment.oblige c

end Shared

/-- An outside with a shared machine. After each call an operator does as much as the schedule
says. -/
def Environment.sharing (schedule : Call → List Shared.Deed) : Environment Shared where
  receive c _ shared :=
    { remote := (schedule c).foldl Shared.perform (shared.take c), delay := some 0,
      answer := fun later => (later, later.reply c) }
  clock _ _ := 0
  jitter _ := 0
  uptime := 0

namespace Deployment

/-! ## Deployments of machines that are shared -/

/-- A deployment asks for machines as its resolver has it for its own records of them, and these
are the ones that were listed when the deployment was prepared, whenever it is carried out and
whatever becomes of the machines until their leases are granted. -/
theorem deploy_fromRecords (d : Deployment) (env : Environment σ) (s : Session σ) :
    Recorded d.resolver d.fleet.machines (runCommand d env s).2.past (deploy d env s).2.past ∧
      ∀ b o app s₀ s₁, prepare b o app env s₀ = (.done (.ok d), s₁) →
        ∃ roster, Seen s₀.past [.answered .list (.ok roster)] s₁.past ∧
          d.fleet.machines = roster.app := by
  refine ⟨deploy_recorded d s, fun b o app s₀ s₁ hprepare => ?_⟩
  -- What was prepared has the machines that were listed.
  have hlisted : Run.Post.Holds _ (prepare b o app env s₀) :=
    prepare_listed b o app s₀ List.suffix_rfl
  rw [hprepare] at hlisted
  exact hlisted d rfl

/-- A deployment of a new image to an app of one machine is prepared beside an operator. -/
def prepareShared (schedule : Call → List Shared.Deed) :
    Ending (Except DeployError Deployment) × Session Shared :=
  prepare {} { image := some "web:v2" } { appName := "web" } (.sharing schedule)
    { remote := { machine := { id := "web", state := .started } } }

/-- Where the operator does nothing, the machine is changed from its record. -/
theorem deploy_fromRecords_sharing : ∃ d s roster,
    prepareShared (fun _ => []) = (.done (.ok d), s) ∧
    Seen [] [.answered .list (.ok roster)] s.past ∧ d.fleet.machines = roster.app ∧
    Recorded d.resolver roster.app (runCommand d (.sharing fun _ => []) s).2.past
      (deploy d (.sharing fun _ => []) s).2.past := by
  have hends : Run.endsWith (fun result _ => result.isOk) (prepareShared fun _ => []) = true := by
    decide +kernel
  obtain ⟨e | d, s, hprepare, hok⟩ := Run.exists_of_endsWith hends
  · cases hok
  obtain ⟨hrecorded, hlisted⟩ := deploy_fromRecords d (.sharing fun _ => []) s
  obtain ⟨roster, hseen, hmachines⟩ := hlisted _ _ _ _ _ hprepare
  rw [hmachines] at hrecorded
  exact ⟨d, s, roster, hprepare, hseen, hmachines, hrecorded⟩

/-- The operator notes a team in the metadata of the machine while the release is recorded. -/
def noting : Call → List Shared.Deed
  | .record _ => [.lease, .change { metadata := Dict.insert {} "team" "ops" }, .unlease]
  | _ => []

/-- Whether a step asks for an update that is not the one that a resolver has for a machine. -/
def strays (r : Resolver) (m : Machine) : Step → Bool
  | .asked (.update input _) _ => (r.resolve m).2 != .ok input
  | _ => false

/-- A step that strays is an update of another request. -/
theorem asked_of_strays {step : Step} (h : strays r m step = true) :
    ∃ input nonce time, step = .asked (.update input nonce) time ∧ (r.resolve m).2 ≠ .ok input := by
  unfold strays at h
  split at h
  · rename_i input nonce time
    exact ⟨input, nonce, time, rfl, bne_iff_ne.mp h⟩
  · cases h

/-- Whether the note that was there when the lease was granted is lost to an update that the
resolver does not have for the machine as it was then. -/
def losesNote (d : Deployment) (s : Session Shared) : Bool :=
  (deploy d (.sharing noting) s).2.remote.granted.any fun granted =>
    (deploy d (.sharing noting) s).2.past.any (strays d.resolver granted) &&
    granted.config.metadata.get? "team" == some "ops" &&
    (deploy d (.sharing noting) s).2.remote.machine.config.metadata.get? "team" == none

/-- The update that is asked for is not the one that the resolver has for the machine as it was
stored when the lease was granted, and what an operator noted under a lease before is lost. -/
theorem deploy_overwrites :
    (∀ (shared : Shared) deed, (shared.perform deed).machine ≠ shared.machine →
      shared.holder = some .operator) ∧
    ∃ d s input nonce time granted, prepareShared noting = (.done (.ok d), s) ∧
      .asked (.update input nonce) time ∈ (deploy d (.sharing noting) s).2.past ∧
      (deploy d (.sharing noting) s).2.remote.granted = some granted ∧
      (d.resolver.resolve granted).2 ≠ .ok input ∧
      granted.config.metadata.get? "team" = some "ops" ∧
      (deploy d (.sharing noting) s).2.remote.machine.config.metadata.get? "team" = none := by
  refine ⟨fun _ _ => Shared.holder_of_perform, ?_⟩
  -- The run is computed once, and what it shows is read off it.
  have hends : Run.endsWith (fun result s => result.toOption.any (losesNote · s))
      (prepareShared noting) = true := by decide +kernel
  obtain ⟨e | d, s, hprepare, hends⟩ := Run.exists_of_endsWith hends
  · cases hends
  have hloses : losesNote d s = true := hends
  unfold losesNote at hloses
  obtain ⟨granted, hgranted, hends⟩ := (Option.any_eq_true ..).mp hloses
  rw [Bool.and_eq_true, Bool.and_eq_true, List.any_eq_true, beq_iff_eq, beq_iff_eq] at hends
  obtain ⟨⟨⟨step, hstep, hstrays⟩, hnoted⟩, hlost⟩ := hends
  obtain ⟨input, nonce, time, rfl, hne⟩ := asked_of_strays hstrays
  exact ⟨d, s, input, nonce, time, granted, hprepare, hstep, hgranted, hne, hnoted, hlost⟩

end Deployment

end Rollout
