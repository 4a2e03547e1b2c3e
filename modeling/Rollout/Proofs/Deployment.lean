import Rollout.Proofs.Command

/-!
# What a deployment does with leases

The books of a whole deployment. The release command has settled its own when the fleet is leased;
then every member is changed under its lease or loses it with its machine, and in the end the
leases that are left are given up.

## Main statements

- `Deployment.updateFleet_books`: the rollout over a fleet leaves no lease.
- `Deployment.deploy_books`: a deployment leaves no lease.
-/

namespace Rollout

variable {σ α : Type} {env : Environment σ} {base : List Step}

namespace Resolver

/-- The request for an existing machine carries its id. -/
theorem resolve_id {r : Resolver} {orig : Machine} {input : LaunchInput}
    (h : (r.resolve orig).2 = .ok input) : input.id = some orig.id := by
  unfold resolve at h
  split at h
  · -- A restart keeps the id.
    obtain rfl := Except.ok.inj h
    rfl
  · -- So does an update that gets through its stages.
    unfold update at h
    simp only at h
    split at h
    · cases h
    · split at h
      · cases h
      · split at h
        · cases h
        · obtain rfl := Except.ok.inj h
          rfl

end Resolver

namespace Handle

variable {h : Handle} {other : Multiset Holding}

/-- Work that has nothing to do with leases, and leaves the id and the lease of a handle alone,
keeps the books. -/
theorem books_of_keeps {x : Work σ Handle α} (hfree : (x h).Calls Call.IsFree)
    (hkeeps : ∀ p, Run.Triple env (·.past = p) (x h) (Work.Post.toRun
      ⟨fun h' _ _ => h'.id = h.id ∧ h'.lease = h.lease,
        fun h' _ _ => h'.id = h.id ∧ h'.lease = h.lease, fun _ _ => True⟩)) :
    Run.Triple env (fun s => Books env base (h.holdings + other) s.past) (x h)
      (Books.post env base (·.holdings + other)).toRun := by
  refine Run.Triple.at_past fun p => ((Books.free hfree).and (hkeeps p)).mono (fun _ hs => hs) ?_
    (fun _ _ hs => hs.1)
  -- The handle has the same id and lease, so it has the same holdings.
  rintro ⟨h', e | a⟩ s ⟨hbooks, hid, hlease⟩
  · show Books env base (h'.holdings + other) s.past
    rw [holdings_congr hid hlease]
    exact hbooks
  · show Books env base (h'.holdings + other) s.past
    rw [holdings_congr hid hlease]
    exact hbooks

/-- A wait for a state keeps the books. -/
theorem waitForState_books (state : Machine.State) (timeout : Nat) :
    Run.Triple env (fun s => Books env base (h.holdings + other) s.past)
      (waitForState state timeout h) (Books.post env base (·.holdings + other)).toRun := by
  refine books_of_keeps (waitForState_calls h timeout state fun _ => trivial)
    fun p => (waitForState_triple h timeout p state).mono (fun _ hs => hs) ?_ (fun _ _ hs => hs)
  rintro ⟨h', e | _⟩ s hs
  · obtain rfl : h' = h := hs
    exact ⟨rfl, rfl⟩
  · obtain rfl : h' = h := hs.1
    exact ⟨rfl, rfl⟩

/-- A wait for health keeps the books: it fetches the machine of the handle. -/
theorem waitForHealth_books (hechoes : env.Echoes) (timeout : Nat) :
    Run.Triple env (fun s => Books env base (h.holdings + other) s.past)
      (waitForHealth timeout h) (Books.post env base (·.holdings + other)).toRun := by
  refine books_of_keeps (waitForHealth_calls h timeout trivial)
    fun p => (waitForHealth_triple h timeout p).mono (fun _ hs => hs) ?_ (fun _ _ hs => hs)
  rintro ⟨h', e | _⟩ s hs
  · -- Nothing was fetched, or the machine that was asked for.
    rcases hs with rfl | ⟨m, rfl, hgives⟩
    · exact ⟨rfl, rfl⟩
    · exact ⟨hechoes.get _ _ hgives, rfl⟩
  · rcases hs with ⟨rfl, -⟩ | ⟨m, rfl, hgives, -⟩
    · exact ⟨rfl, rfl⟩
    · exact ⟨hechoes.get _ _ hgives, rfl⟩

end Handle

namespace Deployment

/-! ## Work on the parts of a deployment -/

/-- Work on the fleet of a deployment is work on its fleet. -/
theorem onFleet_triple {P : Deployment → Session σ → Prop} {x : Work σ Fleet α}
    {Q : Work.Post σ Deployment α}
    (h : ∀ d, Run.Triple env (P d) (x d.fleet) (Work.Post.toRun
      ⟨fun f a s => Q.ok { d with fleet := f } a s, fun f e s => Q.error { d with fleet := f } e s,
        Q.halts⟩)) : Work.Triple env P (onFleet x) Q :=
  Work.Triple.within h

/-- Work on a member makes the calls of the work. -/
theorem onMember_calls {φ : Call → Prop} {place : Nat} {x : Work σ Handle α} (hx : x.Calls φ) :
    (onMember place x).Calls φ :=
  Work.Calls.within (Fleet.member_calls hx)

/-- Something may be read off the handle in a place. -/
theorem read_triple {P : Deployment → Session σ → Prop} (place : Nat) (g : Handle → α) :
    Work.Triple env P (onMember place (do return g (← Work.value)))
      ⟨fun d a s => P d s ∧ ∃ h, d.fleet.members[place]? = some h ∧ g h = a, fun d _ s => P d s,
        fun _ _ => False⟩ := by
  refine onFleet_triple fun d => Fleet.member_triple (fun _ s hs => hs) fun h hh =>
    Run.Triple.pure fun s hs => ?_
  show P { d with fleet := d.fleet.set place h } s ∧
    ∃ h', (d.fleet.set place h).members[place]? = some h' ∧ _
  rw [Fleet.set_self hh]
  exact ⟨hs, h, hh, rfl⟩

/-- Resolving a request changes nothing but the resolver. -/
theorem resolve_triple {P : Deployment → Session σ → Prop}
    (f : Resolver → Resolver × Except DeployError LaunchInput) :
    Work.Triple env P (resolve f)
      ⟨fun d input s => ∃ d₀, P d₀ s ∧ d = { d₀ with resolver := (f d₀.resolver).1 } ∧
          (f d₀.resolver).2 = .ok input,
        fun d e s => ∃ d₀, P d₀ s ∧ d = { d₀ with resolver := (f d₀.resolver).1 } ∧
          (f d₀.resolver).2 = .error e, fun _ _ => False⟩ := by
  intro d
  have hrun : resolve (σ := σ) f d =
      pure ({ d with resolver := (f d.resolver).1 }, (f d.resolver).2) := rfl
  rw [hrun]
  refine Run.Triple.pure fun s hs => ?_
  cases hinput : (f d.resolver).2 with
  | ok input => exact ⟨d, hs, rfl, hinput⟩
  | error e => exact ⟨d, hs, rfl, hinput⟩

/-- Whether two deployments differ in the release command at most. -/
def AgreesBut (d₀ d : Deployment) : Prop := ∃ c, d = { d₀ with command := c }

/-- The release command of a deployment leaves the rest of it alone. -/
theorem runCommand_value (d₀ : Deployment) :
    Work.Triple env (fun d _ => d = d₀) runCommand
      ⟨fun d _ _ => AgreesBut d₀ d, fun d _ _ => AgreesBut d₀ d, fun _ _ => True⟩ := by
  refine Work.Triple.value_bind fun d₁ => ?_
  refine Work.Triple.attempt_bind (R := ⟨fun d _ _ => AgreesBut d₀ d,
    fun d _ _ => AgreesBut d₀ d, fun _ _ => True⟩) (Work.Triple.within fun d => ?_) (fun _ => ?_)
    (fun e => ?_) (fun _ _ _ => trivial)
  · -- However the command ends, it is put back and nothing else is changed.
    intro s hs
    obtain ⟨-, rfl⟩ := hs
    generalize ReleaseCommand.run d₁.resolver d.command env s = r
    obtain ⟨⟨c, _ | _⟩ | _ | _, s'⟩ := r
    · exact ⟨c, rfl⟩
    · exact ⟨c, rfl⟩
    · trivial
    · trivial
  · exact Work.Triple.pure fun _ _ hs => hs
  · exact Work.Triple.bind (R := ⟨fun d _ _ => AgreesBut d₀ d, fun _ _ _ => False,
      fun _ _ => True⟩) (Work.Triple.lift fun d => Run.Triple.change fun s hs => hs)
      (fun _ => Work.Triple.fail fun _ _ hs => hs) (fun _ _ _ h => h.elim) (fun _ _ _ => trivial)

/-! ## The calls -/

/-- What a member is waited for is a state, and its health where it has checks. -/
theorem waitFor_calls {φ : Call → Prop} (d : Deployment)
    (hwait : ∀ m state left, φ (.wait m state left)) (hget : ∀ id, φ (.get id)) :
    (waitFor (σ := σ) d).Calls φ := by
  unfold waitFor
  split
  · refine Work.Calls.bind (fun h => Handle.waitForState_calls h _ _ (hwait _ _)) fun _ => ?_
    split
    · exact fun h => Handle.waitForHealth_calls h _ (hget _)
    · exact Work.Calls.pure _
  · exact Work.Calls.pure _

/-- The launch of a first machine has nothing to do with leases. -/
theorem createFirst_isFree : (createFirst (σ := σ)).Calls Call.IsFree := by
  refine Work.Calls.bind (fun d => Run.Calls.pure _) fun input => ?_
  refine (Work.Calls.call trivial).bind fun machine => ?_
  refine Work.Calls.value.bind fun d => ?_
  have hwait : (waitFor (σ := σ) d).Calls Call.IsFree :=
    waitFor_calls d (fun _ _ _ => trivial) fun _ => trivial
  refine (Work.Calls.lift (hwait _)).bind fun x => ?_
  refine (Work.Calls.ofExcept _).bind fun _ => ?_
  exact Work.Calls.within (Work.Calls.change _)

/-- The past only grows while members are updated. -/
theorem updateMember_grows (place : Nat) : (updateMember (σ := σ) place).Calls fun _ => True := by
  refine Work.Calls.bind (onMember_calls fun _ => Run.Calls.pure _) fun orig => ?_
  refine Work.Calls.bind (fun d => Run.Calls.pure _) fun input => ?_
  refine Work.Calls.bind ?_ fun _ => ?_
  · -- A replacement destroys and launches; an update is one call.
    unfold changeMember
    split
    · refine Work.Calls.bind (onMember_calls fun h => (Handle.destroy_calls h).mono
        fun _ _ => trivial) fun _ => ?_
      refine (Work.Calls.call trivial).bind fun machine => ?_
      exact Work.Calls.within (Work.Calls.change _)
    · exact onMember_calls fun h => (Handle.update_calls h input).mono fun _ _ => trivial
  · split
    · exact Work.Calls.value.bind fun d => onMember_calls
        (waitFor_calls d (fun _ _ _ => trivial) fun _ => trivial)
    · exact Work.Calls.pure _

/-- The past only grows while any number of members is updated. -/
theorem updateMembers_grows (places : List Nat) :
    (updateMembers (σ := σ) places).Calls fun _ => True := by
  induction places with
  | nil => exact Work.Calls.pure _
  | cons place rest ih =>
    refine (updateMember_grows place).attempt.bind fun result => ?_
    cases result with
    | ok _ => exact ih
    | error e =>
      refine Work.Calls.value.bind fun d => ?_
      split
      · exact ih
      · exact Work.Calls.fail e

/-- The past only grows in a rollout. -/
theorem rollOut_grows : (rollOut (σ := σ)).Calls fun _ => True := by
  refine Work.Calls.value.bind fun d => ?_
  split
  · exact createFirst_isFree.mono fun _ _ => trivial
  · refine Work.Calls.value.bind fun d => ?_
    refine Work.Calls.bind (Work.Calls.within fun f => ?_) fun _ => ?_
    · exact (Fleet.acquire_run_calls f _).mono fun _ _ => trivial
    · refine (updateMembers_grows _).attempt.bind fun result => ?_
      refine (Work.Calls.within fun f => ?_).attempt.bind fun _ => Work.Calls.ofExcept _
      exact (Fleet.release_run_calls f).mono fun _ _ => trivial

/-- A deployment ends with its release command, or goes on with the rollout from there. -/
theorem deploy_run (d : Deployment) (env : Environment σ) (s : Session σ) :
    deploy d env s = match runCommand d env s with
      | (.done (d', .ok _), s') => rollOut d' env s'
      | (.done (d', .error e), s') => (.done (d', .error e), s')
      | (.stuck, s') => (.stuck, s')
      | (.panicked, s') => (.panicked, s') := by
  show Run.andThen (runCommand d) _ env s = _
  unfold Run.andThen
  rcases runCommand d env s with ⟨⟨d', _ | _⟩ | _ | _, s'⟩ <;> rfl

/-- A deployment goes on with its rollout when the release command has succeeded, which may have
changed nothing but the command. Else it ends with the command, and without success. -/
theorem deploy_cases (d : Deployment) (env : Environment σ) (s : Session σ) :
    (∃ c s₁, runCommand d env s = (.done ({ d with command := c }, .ok ()), s₁) ∧
      deploy d env s = rollOut { d with command := c } env s₁) ∨
    ∃ ending, deploy d env s = (ending, (runCommand d env s).2) ∧
      ∀ d' result, ending = .done (d', result) → AgreesBut d d' ∧ ∃ e, result = .error e := by
  have hvalue : Run.Post.Holds _ (runCommand d env s) := runCommand_value d d s rfl
  rw [deploy_run]
  revert hvalue
  rcases runCommand d env s with ⟨⟨d₁, e | _⟩ | _ | _, s₁⟩
  · refine fun hbut => .inr ⟨_, rfl, fun d' result heq => ?_⟩
    obtain ⟨rfl, rfl⟩ := Prod.mk.inj (Ending.done.inj heq)
    exact ⟨hbut, e, rfl⟩
  · rintro ⟨c, rfl⟩
    exact .inl ⟨c, s₁, rfl, rfl⟩
  · exact fun _ => .inr ⟨_, rfl, fun _ _ heq => by cases heq⟩
  · exact fun _ => .inr ⟨_, rfl, fun _ _ heq => by cases heq⟩

/-! ## The books -/

/-- What the fleet has is kept in the books. -/
def Kept (env : Environment σ) (base : List Step) (d : Deployment) (s : Session σ) : Prop :=
  Books env base d.fleet.holdings s.past

/-- What a member is waited for keeps the books. -/
theorem waitFor_books (hechoes : env.Echoes) (d : Deployment) (other : Multiset Holding) :
    Work.Triple env (fun h s => Books env base (h.holdings + other) s.past) (waitFor d)
      (Books.post env base (·.holdings + other)) := by
  unfold waitFor
  split
  · refine Work.Triple.bind (fun _ => Handle.waitForState_books _ _) (fun _ => ?_)
      (fun _ _ _ hs => hs) (fun _ _ hs => hs)
    split
    · exact fun _ => Handle.waitForHealth_books hechoes _
    · exact Work.Triple.pure fun _ _ hs => hs
  · exact Work.Triple.pure fun _ _ hs => hs

/-- Work that keeps the books of every handle keeps those of a deployment. -/
theorem onMember_kept {place : Nat} {x : Work σ Handle α}
    (hx : ∀ other, Work.Triple env (fun h s => Books env base (h.holdings + other) s.past) x
      (Books.post env base (·.holdings + other))) :
    Work.Triple env (Kept env base) (onMember place x) (Books.post env base (·.fleet.holdings)) :=
  onFleet_triple fun _ => Fleet.member_books fun h other _ => hx other h

/-- A machine that is replaced takes its lease with it, and its successor has none. -/
theorem replaceMember_kept (place : Nat) (orig : Machine) (input : LaunchInput) :
    Work.Triple env (Kept env base) (replaceMember place orig input)
      (Books.post env base (·.fleet.holdings)) := by
  refine Work.Triple.bind (R := ⟨fun d _ s => Kept env base d s ∧
      ∃ h, d.fleet.members[place]? = some h ∧ h.lease.nonce = "", fun d _ s => Kept env base d s,
      fun _ s => CallsSince base s.past (Entitled base)⟩) ?_ (fun _ => ?_)
    (fun _ _ _ hs => hs) (fun _ _ hs => hs)
  · -- The lease of the machine goes with it, and what the others have stays.
    refine onFleet_triple fun d => Fleet.member_triple (fun _ s hs => hs) fun h hh => ?_
    obtain ⟨other, heq, hset⟩ := Fleet.holdings_frame hh
    refine Run.Triple.at_past fun p => ((Handle.destroy_books other).and
      (Handle.destroy_triple h p)).mono (fun s hs => ⟨heq ▸ hs.1, hs.2⟩) ?_ (fun _ _ hs => hs.1)
    rintro ⟨h', e | _⟩ s ⟨hbooks, hh'⟩
    · show Books env base (d.fleet.set place h').holdings s.past
      rw [hset]
      exact hbooks
    · refine ⟨?_, h', Fleet.getElem?_set_self hh h', by rw [hh'.1]; rfl⟩
      show Books env base (d.fleet.set place h').holdings s.past
      rw [hset]
      exact hbooks
  refine Work.Triple.bind (Books.call trivial) (fun machine => ?_) (fun _ _ _ hs => hs)
    (fun _ _ hs => hs)
  -- The machine is put where nothing is had, and has nothing.
  refine onFleet_triple fun d => Work.Triple.change (P := fun f s =>
    Books env base f.holdings s.past ∧ ∃ h, f.members[place]? = some h ∧ h.lease.nonce = "") ?_
    d.fleet
  rintro f s ⟨hbooks, h, hh, hnonce⟩
  obtain ⟨other, heq, hset⟩ := Fleet.holdings_frame hh
  show Books env base (f.set place { machine := machine }).holdings s.past
  rw [hset, Handle.holdings_of_nonce_eq (h := { machine := machine }) rfl,
    ← Handle.holdings_of_nonce_eq hnonce, ← heq]
  exact hbooks

/-- A machine is updated under its lease if the request carries its id. -/
theorem changeMember_kept (hechoes : env.Echoes) (place : Nat) (orig : Machine)
    (input : LaunchInput) (hid : input.id = some orig.id) :
    Work.Triple env (fun d s => Kept env base d s ∧
        ∃ h, d.fleet.members[place]? = some h ∧ h.machine = orig) (changeMember place orig input)
      (Books.post env base (·.fleet.holdings)) := by
  unfold changeMember
  split
  · exact (replaceMember_kept place orig input).pre fun _ _ hs => hs.1
  · -- The handle in the place is still the one that the request was made for.
    refine onFleet_triple fun d => Run.Triple.extract (fun s hs => And.symm hs) fun hd => ?_
    obtain ⟨h, hh, rfl⟩ := hd
    refine Fleet.member_books fun h' other hh' => ?_
    obtain rfl := Option.some.inj (hh.symm.trans hh')
    exact Handle.update_books hechoes hid other

/-- The wait for a member keeps the books. -/
theorem awaitMember_kept (hechoes : env.Echoes) (place : Nat) :
    Work.Triple env (Kept env base) (awaitMember place)
      (Books.post env base (·.fleet.holdings)) :=
  Work.Triple.value_bind fun d =>
    (onMember_kept fun other => waitFor_books hechoes d other).pre fun _ _ hs => hs.2

/-- However the update of a member ends, the books are kept. -/
theorem updateMember_kept (hechoes : env.Echoes) (place : Nat) :
    Work.Triple env (Kept env base) (updateMember place)
      (Books.post env base (·.fleet.holdings)) := by
  refine Work.Triple.bind (read_triple place _) (fun orig => ?_) (fun _ _ _ hs => hs)
    (fun _ _ h => h.elim)
  refine Work.Triple.bind (resolve_triple _) (fun input => ?_) ?_ (fun _ _ h => h.elim)
  · refine Work.Triple.extract (p := input.id = some orig.id) (R := fun d s => Kept env base d s ∧
      ∃ h, d.fleet.members[place]? = some h ∧ h.machine = orig) ?_ fun hid => ?_
    · -- The request is for the machine that was read.
      rintro d s ⟨d₀, hs, rfl, hinput⟩
      exact ⟨Resolver.resolve_id hinput, hs⟩
    · refine Work.Triple.bind (changeMember_kept hechoes place orig input hid) (fun _ => ?_)
        (fun _ _ _ hs => hs) (fun _ _ hs => hs)
      split
      · exact awaitMember_kept hechoes place
      · exact Work.Triple.pure fun _ _ hs => hs
  · rintro d e s ⟨d₀, hs, rfl, -⟩
    exact hs.1

/-- However many members are updated, the books are kept. -/
theorem updateMembers_kept (hechoes : env.Echoes) (places : List Nat) :
    Work.Triple env (Kept env base) (updateMembers places)
      (Books.post env base (·.fleet.holdings)) := by
  -- By induction on the members that are left.
  induction places with
  | nil => exact Work.Triple.pure fun _ _ hs => hs
  | cons place rest ih =>
    -- The books are kept whether the member is updated or not, and whether the rest follows.
    refine Work.Triple.attempt_bind (updateMember_kept hechoes place) (fun _ => ih) (fun e => ?_)
      (fun _ _ hs => hs)
    refine Work.Triple.value_bind fun d => ?_
    split
    · exact ih.pre fun _ _ hs => hs.2
    · exact Work.Triple.fail fun _ _ hs => hs.2

/-- Taking the leases of a fleet enters them in the books; where not all are taken, none is left. -/
theorem acquire_kept (term : Nat) :
    Work.Triple env (fun d s => d.fleet.Unleased ∧ Books env base 0 s.past)
      (onFleet (Fleet.acquire term))
      ⟨fun d _ s => Kept env base d s, fun _ _ s => Books env base 0 s.past,
        fun _ s => CallsSince base s.past (Entitled base)⟩ := by
  refine onFleet_triple fun d => Run.Triple.of_and fun hf => ?_
  refine (Fleet.acquire_books hf term).mono (fun _ hs => hs) ?_ (fun _ _ hs => hs)
  rintro ⟨f', e | _⟩ s hs
  · exact hs.2
  · exact hs.2.2

/-- Giving up the leases of a fleet leaves none in the books. -/
theorem release_kept :
    Work.Triple env (Kept env base) (onFleet Fleet.release) (Books.post env base (fun _ => 0)) := by
  refine onFleet_triple fun d => ?_
  refine Fleet.release_books.mono (fun _ hs => hs) ?_ (fun _ _ hs => hs)
  rintro ⟨f', e | _⟩ s hs
  · exact hs.2
  · exact hs.2

/-- The rollout over a fleet leaves no lease. -/
theorem updateFleet_books (hechoes : env.Echoes) :
    Work.Triple env (fun d s => d.fleet.Unleased ∧ Books env base 0 s.past) updateFleet
      (Books.post env base (fun _ => 0)) := by
  refine Work.Triple.value_bind fun d₀ => ?_
  refine Work.Triple.bind ((acquire_kept _).pre fun _ _ hs => hs.2) (fun _ => ?_)
    (fun _ _ _ hs => hs) (fun _ _ hs => hs)
  refine Work.Triple.bind (R := { Books.post env base (·.fleet.holdings) with
    error := fun _ _ _ => False }) (Work.Triple.attempt (updateMembers_kept hechoes _))
    (fun result => ?_) (fun _ _ _ h => h.elim) (fun _ _ hs => hs)
  -- The leases are given up before it is asked how the updates went.
  refine Work.Triple.bind (R := { Books.post env base (fun _ => 0) with
    error := fun _ _ _ => False }) (Work.Triple.attempt release_kept)
    (fun _ => ?_) (fun _ _ _ h => h.elim) (fun _ _ hs => hs)
  exact Work.Triple.ofExcept (fun _ _ _ _ hs => hs) (fun _ _ _ _ hs => hs)

/-- What a deployment starts with: neither the fleet nor the release command has a lease. -/
structure Unleased (d : Deployment) : Prop where
  fleet : d.fleet.Unleased
  command : d.command.fleet.Unleased

/-- The command of a deployment keeps the books, and leaves the fleet without a lease. -/
theorem runCommand_books (hechoes : env.Echoes) :
    Work.Triple env (fun d s => d.Unleased ∧ Books env base 0 s.past) runCommand
      ⟨fun d _ s => d.fleet.Unleased ∧ Books env base 0 s.past,
        fun _ _ s => Books env base 0 s.past,
        fun _ s => CallsSince base s.past (Entitled base)⟩ := by
  refine Work.Triple.value_bind fun d₀ => ?_
  refine Work.Triple.attempt_bind (R := ⟨fun d _ s => d.fleet.Unleased ∧ Books env base 0 s.past,
    fun _ _ s => Books env base 0 s.past, fun _ s => CallsSince base s.past (Entitled base)⟩)
    (Work.Triple.within fun d => ?_) (fun _ => ?_) (fun e => ?_) (fun _ _ hs => hs)
  · -- The command has its own fleet and starts without a lease.
    refine Run.Triple.extract (fun s hs => And.right hs) fun hd => ?_
    refine ((ReleaseCommand.run_settled hechoes) d.command).mono (fun s hs => ⟨hd.command, hs⟩) ?_
      (fun _ _ hs => hs)
    rintro ⟨c, e | _⟩ s hs
    · exact hs
    · exact ⟨hd.fleet, hs⟩
  · exact Work.Triple.pure fun _ _ hs => hs
  · exact Work.Triple.bind (R := Books.post env base (fun _ => 0))
      (Books.free_work (Work.Calls.lift (Run.Calls.report _ _)))
      (fun _ => Work.Triple.fail fun _ _ hs => hs) (fun _ _ _ hs => hs) (fun _ _ hs => hs)

/-- The rollout leaves no lease, whether there are machines or not. -/
theorem rollOut_books (hechoes : env.Echoes) :
    Work.Triple env (fun d s => d.fleet.Unleased ∧ Books env base 0 s.past) rollOut
      (Books.post env base (fun _ => 0)) := by
  refine Work.Triple.value_bind fun d => ?_
  split
  · exact (Books.free_work createFirst_isFree).pre fun _ _ hs => hs.2.2
  · exact (updateFleet_books hechoes).pre fun _ _ hs => hs.2

/-- A deployment leaves no lease. -/
theorem deploy_books (hechoes : env.Echoes) :
    Work.Triple env (fun d s => d.Unleased ∧ Books env base 0 s.past) deploy
      (Books.post env base (fun _ => 0)) :=
  (runCommand_books hechoes).bind (fun _ => rollOut_books hechoes) (fun _ _ _ hs => hs)
    (fun _ _ hs => hs)

/-- A deployment starts from the machines that were listed. -/
theorem assemble_machines (o : Options) (app : App.Config) (strategy : Strategy)
    (roster : Machine.Roster) (volumes : Volume.Pool) (release : Release) :
    (assemble o app strategy roster volumes release).fleet.machines = roster.app := by
  show List.map _ (List.map _ roster.app) = _
  rw [List.map_map]
  exact List.map_id roster.app

/-- No machine of a deployment that was just prepared is leased. -/
theorem assemble_unleased (o : Options) (app : App.Config) (strategy : Strategy)
    (roster : Machine.Roster) (volumes : Volume.Pool) (release : Release) :
    (assemble o app strategy roster volumes release).Unleased := by
  have hmachines : ∀ machines, (Fleet.ofMachines machines).Unleased := by
    intro machines h hh
    obtain ⟨m, -, rfl⟩ := List.mem_map.mp hh
    rfl
  exact ⟨hmachines _, hmachines _⟩

end Deployment

end Rollout
