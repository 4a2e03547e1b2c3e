import Rollout.Proofs.CommandGate

/-!
# Lease safety

Whatever the services answer and whenever the deployment is canceled, no machine is changed but
under a lease that is held, and no lease is left behind.

## Main statements

- `Deployment.deploy_entitled`: every update and every destruction is made under a lease that was
  granted in the same run for the same machine and is held; and none is made of the app's machines
  before all of them are leased.
- `Deployment.deploy_balanced`: every lease that was granted in a run that returns was closed
  exactly once.
-/

namespace Rollout

variable {σ τ α : Type} {env : Environment σ} {base mid : List Step}

/-- Whether there was a moment at which leases were open on machines of some ids at once, all of
them granted since another moment. -/
def Leased (base : List Step) (ids : List String) (past : List Step) : Prop :=
  ∃ moment held, moment <:+ past ∧ Ledger base moment held ∧
    (ids : Multiset String) ≤ held.map (·.machine)

/-- What was leased at a moment was leased at a moment. -/
theorem Leased.later {ids : List String} {past past' : List Step} (h : Leased base ids past)
    (hpast : past <:+ past') : Leased base ids past' := by
  obtain ⟨moment, held, hmoment, hheld⟩ := h
  exact ⟨moment, held, hmoment.trans hpast, hheld⟩

/-- No call was made under a lease since a moment before leases were open on all machines. -/
def LeasedFirst (base : List Step) (ids : List String) (past : List Step) : Prop :=
  CallsSince base past fun before c => c.leaseNonce?.isSome → Leased base ids before

/-- Calls that are not under a lease may come first. -/
theorem LeasedFirst.of_adds {ids : List String} {past : List Step} {φ : Call → Prop}
    (h : Adds φ base past) (hφ : ∀ c, φ c → c.leaseNonce? = none) : LeasedFirst base ids past := by
  refine h.callsSince.mono fun before c _ _ hc hnonce => ?_
  rw [hφ c hc] at hnonce
  cases hnonce

/-- Work that makes no call under a lease may come first. -/
theorem LeasedFirst.of_calls {ids : List String} {x : Work σ τ α} {φ : Call → Prop}
    (hx : x.Calls φ) (hφ : ∀ c, φ c → c.leaseNonce? = none) :
    Work.Triple env (fun _ s => s.past = base) x
      ⟨fun _ _ s => LeasedFirst base ids s.past, fun _ _ s => LeasedFirst base ids s.past,
        fun _ s => LeasedFirst base ids s.past⟩ := by
  refine fun t => (hx t).triple.mono (fun _ hs => hs) ?_ ?_
  · rintro ⟨t', _ | _⟩ s' ⟨s, rfl, hadds⟩
    · exact .of_adds hadds hφ
    · exact .of_adds hadds hφ
  · rintro e s' ⟨s, rfl, hadds⟩
    exact .of_adds hadds hφ

/-- Once the machines were leased, anything may be done. -/
theorem LeasedFirst.of_leased {ids : List String} {x : Work σ τ α} (hx : x.Calls fun _ => True) :
    Work.Triple env (fun _ s => LeasedFirst base ids s.past ∧ Leased base ids s.past) x
      ⟨fun _ _ s => LeasedFirst base ids s.past, fun _ _ s => LeasedFirst base ids s.past,
        fun _ s => LeasedFirst base ids s.past⟩ := by
  -- Every call of it comes after the moment when all were leased.
  have hgrows : ∀ s s' : Session σ, LeasedFirst base ids s.past ∧ Leased base ids s.past →
      Adds (fun _ => True) s.past s'.past → LeasedFirst base ids s'.past :=
    fun s s' hs hadds => hs.1.extend hadds.suffix fun before c hbefore _ => hs.2.later hbefore
  refine fun t => (hx t).triple.mono (fun _ hs => hs) ?_ ?_
  · rintro ⟨t', _ | _⟩ s' ⟨s, hs, hadds⟩
    · exact hgrows s s' hs hadds
    · exact hgrows s s' hs hadds
  · rintro e s' ⟨s, hs, hadds⟩
    exact hgrows s s' hs hadds

/-- A fleet of which every member has a lease has one on each of its machines. -/
theorem Fleet.map_machine_holdings {f : Fleet} (h : ∀ h ∈ f.members, h.lease.nonce ≠ "") :
    f.holdings.map (·.machine) = (f.machines.map (·.id) : Multiset String) := by
  obtain ⟨members⟩ := f
  unfold holdings machines
  -- By induction on the members: each of them adds one holding.
  induction members with
  | nil => rfl
  | cons first rest ih =>
    rw [List.forall_mem_cons] at h
    rw [List.map_cons, List.sum_cons, Multiset.map_add, ih h.2,
      Handle.holdings_of_nonce_ne h.1]
    rfl

/-- Taking leases makes no call under one, and if it succeeds, all machines are leased. -/
theorem Fleet.acquire_leased {f : Fleet} (hf : f.Unleased) (term : Nat) :
    Run.Triple env (·.past = base) (acquire term f) (Work.Post.toRun
      ⟨fun _ _ s => LeasedFirst base (f.machines.map (·.id)) s.past ∧
          Leased base (f.machines.map (·.id)) s.past,
        fun _ _ s => LeasedFirst base (f.machines.map (·.id)) s.past,
        fun _ s => LeasedFirst base (f.machines.map (·.id)) s.past⟩) := by
  -- To take or give up a lease is not done under one.
  have hfree : ∀ c, f.Leases c → c.leaseNonce? = none := by
    rintro c (⟨m, -, nonce, rfl⟩ | ⟨m, -, ttl, rfl⟩) <;> rfl
  refine (Run.Triple.and (P := fun s => Books env base 0 s.past) (acquire_books hf term)
    (acquire_calls term base)).mono (fun s hs => ⟨?_, hs⟩) ?_ (fun _ _ hs => .of_adds hs.2 hfree)
  · rw [hs]
    exact Books.start
  rintro ⟨f', e | _⟩ s ⟨hbooks, -, hadds⟩
  · exact .of_adds hadds hfree
  · -- All members have a lease, and what they have is open right now.
    obtain ⟨hmachines, hnonces, -, lost, hledger, -⟩ := hbooks
    refine ⟨.of_adds hadds hfree, s.past, lost + f'.holdings, List.suffix_rfl, hledger, ?_⟩
    rw [Multiset.map_add, map_machine_holdings hnonces, hmachines]
    exact Multiset.le_add_left _ _

/-- Whether every lease that was granted between two moments was closed once: its release was
asked for, its machine was destroyed under it, or it was dropped, stale, when it was to be
released. -/
def Balanced (base past : List Step) : Prop :=
  Ledger base past 0 ∧ ∃ new, past = new ++ base ∧
    ∀ machine nonce, new.countP (Step.grants machine nonce) =
      new.countP (Step.releases machine nonce) + new.countP (Step.destroys machine nonce)
        + new.countP (Step.drops machine nonce)

/-- Where no lease is open, all are closed. -/
theorem Ledger.balanced {past : List Step} (h : Ledger base past 0) : Balanced base past := by
  refine ⟨h, ?_⟩
  obtain ⟨new, rfl⟩ := h.suffix
  refine ⟨new, rfl, fun machine nonce => ?_⟩
  have hbalance := h.balance machine nonce
  rwa [Multiset.countP_zero, add_zero] at hbalance

namespace Deployment

/-- The calls of a rollout over a fleet: none is made under a lease before all are leased. -/
theorem updateFleet_leased {f : Fleet} (hf : f.Unleased) :
    Work.Triple env (fun d s => d.fleet = f ∧ s.past = base) updateFleet
      ⟨fun _ _ s => LeasedFirst base (f.machines.map (·.id)) s.past,
        fun _ _ s => LeasedFirst base (f.machines.map (·.id)) s.past,
        fun _ s => LeasedFirst base (f.machines.map (·.id)) s.past⟩ := by
  refine Work.Triple.value_bind fun d₀ => ?_
  refine Work.Triple.bind (R := ⟨fun _ _ s => LeasedFirst base (f.machines.map (·.id)) s.past ∧
    Leased base (f.machines.map (·.id)) s.past,
    fun _ _ s => LeasedFirst base (f.machines.map (·.id)) s.past,
    fun _ s => LeasedFirst base (f.machines.map (·.id)) s.past⟩) ?_ (fun _ => ?_)
    (fun _ _ _ hs => hs) (fun _ _ hs => hs)
  · refine onFleet_triple fun d => Run.Triple.extract (fun s hs => And.right hs) fun hd => ?_
    rw [hd]
    exact Fleet.acquire_leased hf _
  · -- All members have their leases; what follows may do anything.
    refine LeasedFirst.of_leased ?_
    refine (updateMembers_grows _).attempt.bind fun result => ?_
    refine (Work.Calls.within fun f => ?_).attempt.bind fun _ => Work.Calls.ofExcept _
    exact (Fleet.release_run_calls f).mono fun _ _ => trivial

/-- The calls of a rollout: none is made under a lease before all are leased. -/
theorem rollOut_leased {f : Fleet} (hf : f.Unleased) :
    Work.Triple env (fun d s => d.fleet = f ∧ s.past = base) rollOut
      ⟨fun _ _ s => LeasedFirst base (f.machines.map (·.id)) s.past,
        fun _ _ s => LeasedFirst base (f.machines.map (·.id)) s.past,
        fun _ s => LeasedFirst base (f.machines.map (·.id)) s.past⟩ := by
  refine Work.Triple.value_bind fun d => ?_
  split
  · -- Without machines one is launched, and nothing is leased.
    exact (LeasedFirst.of_calls createFirst_isFree fun _ hc => hc.leaseNonce?_eq_none).pre
      fun _ _ hs => hs.2.2
  · exact (updateFleet_leased hf).pre fun _ _ hs => hs.2

/-- Every update and every destruction of a deployment is made under a lease that was granted in
the same run for the same machine, was not given up since, and is held by the clock that was read
right before. Until the rollout none is made but of the machine that was found for the release
command, and from there on none before all of the app's machines are leased. -/
theorem deploy_entitled (hechoes : env.Echoes) (o : Options) (app : App.Config)
    (strategy : Strategy) (roster : Machine.Roster) (volumes : Volume.Pool) (release : Release)
    (s : Session σ) :
    let d := assemble o app strategy roster volumes release
    let rollout := (runCommand d env s).2.past
    let past := (deploy d env s).2.past
    CallsSince s.past past (Entitled s.past) ∧
    CallsSince s.past rollout (fun _ c =>
      c.leaseNonce?.isSome → c.machineId? = roster.releaseCommand.map (·.id)) ∧
    LeasedFirst rollout (roster.app.map (·.id)) past := by
  intro d rollout past
  have hunleased : d.Unleased := assemble_unleased o app strategy roster volumes release
  refine ⟨?_, runCommand_leases (assemble_starts o app strategy roster volumes release) s, ?_⟩
  · refine Work.Triple.always (P := fun d s' => d.Unleased ∧ Books env s.past 0 s'.past)
      (R := fun s' => CallsSince s.past s'.past (Entitled s.past)) ?_ ⟨hunleased, Books.start⟩
    exact (deploy_books hechoes).mono (fun _ _ hs => hs) (fun _ _ _ hs => hs.entitled)
      (fun _ _ _ hs => hs.entitled) (fun _ _ hs => hs)
  · -- The fleet of the rollout is the one that was listed.
    have hmachines : d.fleet.machines = roster.app :=
      assemble_machines o app strategy roster volumes release
    show LeasedFirst (runCommand d env s).2.past _ (deploy d env s).2.past
    rw [← hmachines]
    rcases deploy_cases d env s with ⟨c, s₁, hcommand, hdeploy⟩ | ⟨ending, hdeploy, -⟩
    · rw [hcommand, hdeploy]
      exact Work.Triple.always (rollOut_leased hunleased.fleet) ⟨rfl, rfl⟩
    · rw [hdeploy]
      exact CallsSince.refl

/-- So it is for two machines and a release command where every call is answered. -/
theorem deploy_entitled_obliging :
    Environment.obliging.Echoes ∧
    CallsSince [] (deploy (assemble {} migrating .rolling twoMachines {} {}) .obliging
        { remote := () }).2.past (Entitled []) ∧
    CallsSince [] (runCommand (assemble {} migrating .rolling twoMachines {} {}) .obliging
        { remote := () }).2.past (fun _ c => c.leaseNonce?.isSome → c.machineId? = some "job") ∧
    LeasedFirst (runCommand (assemble {} migrating .rolling twoMachines {} {}) .obliging
        { remote := () }).2.past ["web", "worker"]
      (deploy (assemble {} migrating .rolling twoMachines {} {}) .obliging
        { remote := () }).2.past :=
  ⟨Environment.obliging_echoes, deploy_entitled Environment.obliging_echoes {} migrating .rolling
    twoMachines {} {} { remote := () }⟩

/-- When a deployment returns, with success or with an error, every lease that was granted in it
was closed once. -/
theorem deploy_balanced (hechoes : env.Echoes) (hspares : env.SparesRelease) (o : Options)
    (app : App.Config) (strategy : Strategy) (roster : Machine.Roster) (volumes : Volume.Pool)
    (release : Release) (s : Session σ) :
    Run.Post.Holds ⟨fun _ s' => Balanced s.past s'.past, fun _ _ => True⟩
      (deploy (assemble o app strategy roster volumes release) env s) := by
  have hunleased : (assemble o app strategy roster volumes release).Unleased :=
    assemble_unleased o app strategy roster volumes release
  have hrun := deploy_books hechoes _ s ⟨hunleased, Books.start⟩
  have hclosed : ∀ s' : Session σ, Books env s.past 0 s'.past → Balanced s.past s'.past := by
    rintro s' ⟨-, lost, hledger, hlost⟩
    -- Leases are lost only to a release that cancels the deployment.
    rw [hlost hspares, add_zero] at hledger
    exact hledger.balanced
  revert hrun
  rcases deploy _ env s with ⟨⟨d, e | _⟩ | _ | _, s'⟩
  · exact hclosed s'
  · exact hclosed s'
  · exact fun _ => trivial
  · exact fun _ => trivial

/-- So it is where every call is answered and none cancels. -/
theorem deploy_balanced_obliging :
    Environment.obliging.Echoes ∧ Environment.obliging.SparesRelease ∧
    Run.Post.Holds ⟨fun _ s' => Balanced [] s'.past, fun _ _ => True⟩
      (deploy (assemble {} migrating .rolling twoMachines {} {}) .obliging { remote := () }) :=
  ⟨Environment.obliging_echoes, Environment.obliging_sparesRelease,
    deploy_balanced Environment.obliging_echoes Environment.obliging_sparesRelease {} migrating
      .rolling twoMachines {} {} { remote := () }⟩

end Deployment

end Rollout
