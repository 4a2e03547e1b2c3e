import Rollout.Proofs.CommandGate
import Rollout.Proofs.Slots

/-!
# The rolling gate

Unless a deployment is immediate, it works on one machine at a time: no machine is changed before
all machines in the places before it were changed and have come up, and after a failure none is
changed any more.

## Main statements

- `Deployment.updateMembers_rolled`: members that are updated one after the other are finished in
  their order.
- `Deployment.deploy_rolls`: the same of a whole deployment, and what becomes of a failure.
-/

namespace Rollout

variable {σ α : Type} {env : Environment σ} {base mid past : List Step}

/-- In a quiet time nothing was changed but for the machine, nor for it. -/
theorem Quiet.own {m : Machine} {input : LaunchInput} (h : Quiet base past) :
    Own m input base past :=
  h.mono fun _ _ _ _ hc hmutation => absurd hmutation hc

/-- What was finished after a quiet time was finished since before it. -/
theorem Finished.since_quiet {skip : Bool} {m : Machine} {input : LaunchInput}
    (h : Finished skip m input mid past) (hquiet : Quiet base mid) :
    Finished skip m input base past := by
  obtain ⟨now, altered, cameUp, haltered, hcameUp, hseen⟩ := h.seen
  exact ⟨⟨now, altered, cameUp, haltered, hcameUp, hseen.since_earlier hquiet.suffix⟩,
    CallsSince.trans hquiet.own h.own⟩

/-- Machines that were finished one after the other since a moment, each for the request that was
resolved for it in its turn. -/
inductive Rolled (skipHealthChecks : Bool) (r₀ : Resolver) (base : List Step) :
    List Machine → Resolver → List Step → Prop where
  | start : Rolled skipHealthChecks r₀ base [] r₀ base
  | next {done r r' m input mid past} (h : Rolled skipHealthChecks r₀ base done r mid)
      (hinput : r.resolve m = (r', .ok input))
      (hfinished : Finished skipHealthChecks m input mid past) :
      Rolled skipHealthChecks r₀ base (done ++ [m]) r' past

/-- Whether a call is one for a machine in whose turn it is made: the machines in the places
before it are finished, and no other machine was changed since. -/
def InTurn (skipHealthChecks : Bool) (r₀ : Resolver) (base : List Step) (machines : List Machine)
    (before : List Step) (c : Call) : Prop :=
  ∃ done m rest r mid, machines = done ++ m :: rest ∧
    Rolled skipHealthChecks r₀ base done r mid ∧
    CallsSince mid before (fun _ c => c.IsMutation → ForMachine r m c) ∧ ForMachine r m c

/-- All machines that were changed since a moment were changed in their turn. -/
def Orderly (skipHealthChecks : Bool) (r₀ : Resolver) (base : List Step) (machines : List Machine)
    (past : List Step) : Prop :=
  CallsSince base past fun before c =>
    c.IsMutation → InTurn skipHealthChecks r₀ base machines before c

variable {skip : Bool} {r₀ r : Resolver} {machines done rest : List Machine} {m : Machine}

/-- The calls for the machine whose turn it is are in order. -/
theorem Orderly.own (h : Orderly skip r₀ base machines mid)
    (hmachines : machines = done ++ m :: rest) (hrolled : Rolled skip r₀ base done r mid)
    (hown : CallsSince mid past fun _ c => c.IsMutation → ForMachine r m c) :
    Orderly skip r₀ base machines past := by
  refine CallsSince.trans h (hown.mono fun before c hbase hbefore hc hmutation => ?_)
  exact ⟨done, m, rest, r, mid, hmachines, hrolled, hown.earlier hbefore hbase, hc hmutation⟩

/-- In a quiet time the order is not disturbed. -/
theorem Orderly.quiet (h : Orderly skip r₀ base machines mid) (hquiet : Quiet mid past) :
    Orderly skip r₀ base machines past :=
  CallsSince.trans h (hquiet.mono fun _ _ _ _ hc hmutation => absurd hmutation hc)

/-- Machines that were finished one after the other were changed in their turn. -/
theorem Rolled.orderly (h : Rolled skip r₀ base done r past) (hmachines : machines = done ++ rest) :
    Orderly skip r₀ base machines past := by
  -- By induction on the machines that are finished; what is left grows by the one that is last.
  induction h generalizing rest with
  | start => exact CallsSince.refl
  | next h hinput hfinished ih =>
    rw [List.append_assoc] at hmachines
    refine (ih hmachines).own hmachines h ?_
    exact hfinished.own.mono fun _ c _ _ hc hmutation => ⟨_, _, hinput, hc hmutation⟩

namespace Deployment

variable {d : Deployment} {place : Nat}

/-! ## One machine after the other -/

/-- How far a deployment has got: some machines are finished, nothing was changed since, and the
others are as they were. -/
structure Progress (skip : Bool) (r₀ : Resolver) (base : List Step) (done rest : List Machine)
    (d : Deployment) (past : List Step) : Prop where
  rolled : ∃ mid, Rolled skip r₀ base done d.resolver mid ∧ Quiet mid past
  fleet : ∃ front, d.fleet.machines = front ++ rest ∧ front.length = done.length
  strategy : d.strategy ≠ .immediate
  skipHealthChecks : d.skipHealthChecks = skip

/-- As far as a deployment has got, it was in order. -/
theorem Progress.orderly (h : Progress skip r₀ base done rest d past) :
    Orderly skip r₀ base (done ++ rest) past := by
  obtain ⟨mid, hrolled, hquiet⟩ := h.rolled
  exact (hrolled.orderly rfl).quiet hquiet

/-- The next machine is in the place after those that are finished. -/
theorem Progress.getElem? (h : Progress skip r₀ base done (m :: rest) d past) :
    d.fleet.machines[done.length]? = some m := by
  obtain ⟨front, hmachines, hlength⟩ := h.fleet
  rw [hmachines, ← hlength, List.getElem?_append_right (Nat.le_refl _), Nat.sub_self]
  rfl

/-- The turn of a machine: it is finished, or changed by its own calls at most. -/
theorem updateMember_progress :
    Work.Triple env (fun d s => Progress skip r₀ base done (m :: rest) d s.past)
      (updateMember done.length)
      ⟨fun d _ s => Progress skip r₀ base (done ++ [m]) rest d s.past,
        fun _ _ s => Orderly skip r₀ base (done ++ m :: rest) s.past,
        fun _ s => Orderly skip r₀ base (done ++ m :: rest) s.past⟩ := by
  intro d
  refine Run.Triple.of_past fun p h => ?_
  obtain ⟨mid, hrolled, hquiet⟩ := h.rolled
  -- What is called in the turn of this machine comes after all the others, and is its own.
  have horderly : ∀ past', (CallsSince p past' fun _ c => c.IsMutation →
      ForMachine d.resolver m c) → Orderly skip r₀ base (done ++ m :: rest) past' := by
    intro past' hown
    refine (hrolled.orderly rfl).own rfl hrolled (CallsSince.trans ?_ hown)
    exact hquiet.mono fun _ _ _ _ hc hmutation => absurd hmutation hc
  refine (updateMember_slot h.getElem? h.strategy d).mono (fun s hs => ⟨rfl, hs⟩) ?_
    (fun _ s hs => horderly s.past hs)
  rintro ⟨d', e | _⟩ s hs
  · exact horderly s.past hs
  · -- The machine is one of those that are finished, and its place has another one now.
    obtain ⟨r', input, now, hinput, hplaced, hfinished⟩ := hs
    rw [h.skipHealthChecks] at hfinished
    refine ⟨⟨s.past, ?_, CallsSince.refl⟩, ?_, hplaced.strategy ▸ h.strategy,
      hplaced.skipHealthChecks.trans h.skipHealthChecks⟩
    · rw [hplaced.resolver]
      exact hrolled.next hinput (hfinished.since_quiet hquiet)
    · -- The machines before it stay in their places.
      obtain ⟨front, hmachines, hlength⟩ := h.fleet
      refine ⟨front ++ [now], ?_, by rw [List.length_append, List.length_append, hlength]; rfl⟩
      rw [hplaced.machines, hmachines, ← hlength, List.set_append_right _ _ (Nat.le_refl _),
        Nat.sub_self, List.set_cons_zero, List.append_assoc]
      rfl

/-- Work on one member leaves the strategy of a deployment alone, however it ends. -/
theorem updateMember_strategy (place : Nat) {P : Strategy → Prop} :
    Work.Triple env (fun d _ => P d.strategy) (updateMember place)
      ⟨fun d _ _ => P d.strategy, fun d _ _ => P d.strategy, fun _ _ => True⟩ := by
  -- Work on the fleet has no access to the strategy.
  have hfleet : ∀ {β : Type} (x : Work σ Fleet β), Work.Triple env (fun d _ => P d.strategy)
      (onFleet x) ⟨fun d _ _ => P d.strategy, fun d _ _ => P d.strategy, fun _ _ => True⟩ := by
    refine fun x => onFleet_triple fun d s hs => ?_
    rcases x d.fleet env s with ⟨⟨f, _ | _⟩ | _ | _, s'⟩
    · exact hs
    · exact hs
    · trivial
    · trivial
  -- Neither the look at the machine, nor the request, nor the change comes near the strategy.
  refine Work.Triple.bind (hfleet _) (fun orig => ?_) (fun _ _ _ hs => hs) (fun _ _ hs => hs)
  refine Work.Triple.bind (R := ⟨fun d _ _ => P d.strategy, fun d _ _ => P d.strategy,
    fun _ _ => True⟩) ((resolve_triple _).mono (fun _ _ hs => hs) ?_ ?_ (fun _ _ h => h.elim))
    (fun input => ?_) (fun _ _ _ hs => hs) (fun _ _ hs => hs)
  · rintro d input s ⟨d₁, hs, rfl, -⟩
    exact hs
  · rintro d e s ⟨d₁, hs, rfl, -⟩
    exact hs
  refine Work.Triple.bind (R := ⟨fun d _ _ => P d.strategy, fun d _ _ => P d.strategy,
    fun _ _ => True⟩) ?_ (fun _ => ?_) (fun _ _ _ hs => hs) (fun _ _ hs => hs)
  · unfold changeMember
    split
    · refine Work.Triple.bind (hfleet _) (fun _ => ?_) (fun _ _ _ hs => hs) (fun _ _ hs => hs)
      refine Work.Triple.bind (Work.Triple.call (K := fun (d : Deployment) _ => P d.strategy)
        (R := fun d _ _ => P d.strategy) (E := fun d _ _ => P d.strategy) (H := fun _ => True)
        (fun _ _ _ hs => hs) (fun _ _ _ _ hs => hs) (fun _ _ _ _ hs _ => hs)
        (fun _ _ _ _ hs _ => hs) (fun _ _ _ _ => trivial)) (fun _ => hfleet _)
        (fun _ _ _ hs => hs) (fun _ _ hs => hs)
    · exact hfleet _
  · split
    · exact Work.Triple.value_bind fun d => (hfleet _).pre fun _ _ hs => hs.2
    · exact Work.Triple.pure fun _ _ hs => hs

/-- Members that are updated one after the other are finished in their order. -/
theorem updateMembers_rolled (hmachines : machines = done ++ rest) :
    Work.Triple env (fun d s => Progress skip r₀ base done rest d s.past)
      (updateMembers (List.range' done.length rest.length))
      ⟨fun d _ s => Progress skip r₀ base machines [] d s.past,
        fun _ _ s => Orderly skip r₀ base machines s.past,
        fun _ s => Orderly skip r₀ base machines s.past⟩ := by
  -- The machines that are finished grow by one with each turn.
  induction rest generalizing done with
  | nil =>
    rw [List.append_nil] at hmachines
    subst hmachines
    exact Work.Triple.pure fun _ _ hs => hs
  | cons m rest ih =>
    have hnext : machines = (done ++ [m]) ++ rest := by
      rw [hmachines, List.append_assoc]
      rfl
    have ih := ih hnext
    rw [List.length_append, List.length_singleton] at ih
    rw [List.length_cons, List.range'_succ]
    -- What a failure leaves is in order, and the deployment is not immediate.
    have hturn : Work.Triple env (fun d s => Progress skip r₀ base done (m :: rest) d s.past)
        (updateMember done.length)
        ⟨fun d _ s => Progress skip r₀ base (done ++ [m]) rest d s.past,
          fun d _ s => d.strategy ≠ .immediate ∧ Orderly skip r₀ base machines s.past,
          fun _ s => Orderly skip r₀ base machines s.past⟩ := by
      rw [hmachines]
      exact (updateMember_progress.and (updateMember_strategy done.length
        (P := (· ≠ .immediate)))).mono (fun d s hs => ⟨hs, hs.strategy⟩) (fun _ _ _ hs => hs.1)
        (fun _ _ _ hs => hs.symm) (fun _ _ hs => hs.1)
    refine Work.Triple.attempt_bind hturn (fun _ => ih) (fun e => ?_) (fun _ _ hs => hs)
    refine Work.Triple.value_bind fun d => ?_
    refine Work.Triple.extract (p := d.strategy ≠ .immediate)
      (R := fun _ s => Orderly skip r₀ base machines s.past)
      (fun d' s hs => ⟨hs.1 ▸ hs.2.1, hs.2.2⟩) fun hstrategy => ?_
    rw [if_neg (by simp [hstrategy])]
    exact Work.Triple.fail fun _ _ hs => hs

/-- To take leases and to give them up changes no machine. -/
theorem quiet_of_leases {f : Fleet} (h : Adds f.Leases base past) : Quiet base past := by
  refine h.callsSince.mono fun _ c _ _ hc => ?_
  rcases hc with ⟨m, -, nonce, rfl⟩ | ⟨m, -, ttl, rfl⟩
  · exact id
  · exact id

/-- Nothing was changed when the fleet is leased. -/
theorem acquire_progress (hstrategy : d.strategy ≠ .immediate) (term : Nat) :
    Work.Triple env (fun d' s => d' = d ∧ s.past = base) (onFleet (Fleet.acquire term))
      ⟨fun d' _ s =>
          Progress d.skipHealthChecks d.resolver base [] d.fleet.machines d' s.past,
        fun _ _ s => Quiet base s.past, fun _ s => Quiet base s.past⟩ := by
  refine onFleet_triple fun d' => Run.Triple.of_and fun hd => ?_
  subst hd
  refine (Fleet.acquire_calls term base).mono (fun _ hs => hs) ?_
    (fun _ _ hs => quiet_of_leases hs)
  -- No machine is finished yet, and all are still to come.
  rintro ⟨f', e | _⟩ s ⟨hmachines, hadds⟩
  · exact quiet_of_leases hadds
  · exact ⟨⟨base, .start, quiet_of_leases hadds⟩, ⟨[], hmachines, rfl⟩, hstrategy, rfl⟩

/-- Nothing is changed any more when the leases are given up and the result is told. -/
theorem release_then {K : List Step → Prop} (hK : ∀ p p', K p → Quiet p p' → K p')
    (result : Except DeployError Unit) :
    Work.Triple env (fun _ s => K s.past)
      ((onFleet Fleet.release).attempt >>= fun _ => Work.ofExcept result)
      ⟨fun _ _ s => result = .ok () ∧ K s.past, fun _ e s => result = .error e ∧ K s.past,
        fun _ s => K s.past⟩ := by
  -- Whether the release fails is of no account.
  have hrelease : Work.Triple env (fun _ s => K s.past) (onFleet Fleet.release)
      ⟨fun _ _ s => K s.past, fun _ _ s => K s.past, fun _ s => K s.past⟩ := by
    refine onFleet_triple fun d => Run.Triple.of_past fun p hp => ?_
    have hquiet : ∀ p', Adds d.fleet.Releases p p' → K p' :=
      fun p' hadds => hK p p' hp (quiet_of_leases (hadds.mono fun _ => .inl))
    refine (Fleet.release_calls p).mono (fun _ hs => hs) ?_ (fun _ s hs => hquiet s.past hs)
    rintro ⟨f', e | _⟩ s hs
    · exact hquiet s.past hs.2
    · exact hquiet s.past hs.2
  have htell : Work.Triple env (fun _ s => K s.past) (Work.ofExcept result : Work σ Deployment Unit)
      ⟨fun _ _ s => result = .ok () ∧ K s.past, fun _ e s => result = .error e ∧ K s.past,
        fun _ s => K s.past⟩ :=
    Work.Triple.ofExcept (fun _ _ _ hok hs => ⟨hok, hs⟩) fun _ _ _ herror hs => ⟨herror, hs⟩
  exact Work.Triple.attempt_bind hrelease (fun _ => htell) (fun _ => htell) (fun _ _ hs => hs)

/-- All machines were finished one after the other since a moment. -/
def AllRolled (skip : Bool) (r₀ : Resolver) (base : List Step) (machines : List Machine)
    (past : List Step) : Prop :=
  ∃ r mid, mid <:+ past ∧ Rolled skip r₀ base machines r mid

/-- The rollout over a fleet changes its machines in their order, and finishes all of them if it
succeeds. -/
theorem updateFleet_rolled (hstrategy : d.strategy ≠ .immediate) :
    Work.Triple env (fun d' s => d' = d ∧ s.past = base) updateFleet
      ⟨fun _ _ s => Orderly d.skipHealthChecks d.resolver base d.fleet.machines s.past ∧
          AllRolled d.skipHealthChecks d.resolver base d.fleet.machines s.past,
        fun _ _ s => Orderly d.skipHealthChecks d.resolver base d.fleet.machines s.past,
        fun _ s => Orderly d.skipHealthChecks d.resolver base d.fleet.machines s.past⟩ := by
  have hquiet : ∀ past, Quiet base past →
      Orderly d.skipHealthChecks d.resolver base d.fleet.machines past :=
    fun past h => Orderly.quiet CallsSince.refl h
  refine Work.Triple.value_bind_of_eq ?_
  refine Work.Triple.bind (acquire_progress hstrategy _) (fun _ => ?_)
    (fun _ _ s hs => hquiet s.past hs) (fun _ s hs => hquiet s.past hs)
  -- The turns are those of the places from the first on.
  have hsize : List.range d.fleet.size = List.range' ([] : List Machine).length
      d.fleet.machines.length := by
    rw [List.range_eq_range', Fleet.machines, List.length_map]
    rfl
  rw [hsize]
  refine Work.Triple.attempt_bind (updateMembers_rolled rfl) (fun _ => ?_) (fun e => ?_)
    (fun _ _ hs => hs)
  · refine (release_then (K := fun past =>
      Orderly d.skipHealthChecks d.resolver base d.fleet.machines past ∧
        AllRolled d.skipHealthChecks d.resolver base d.fleet.machines past) ?_ _).mono ?_
      (fun _ _ _ hs => hs.2) (fun _ _ _ hs => hs.2.1) (fun _ _ hs => hs.1)
    · -- Nothing is changed while the leases are given up.
      rintro p p' ⟨horderly, r, mid, hmid, hrolled⟩ hp
      exact ⟨horderly.quiet hp, r, mid, hmid.trans hp.suffix, hrolled⟩
    · intro d' s hs
      obtain ⟨mid, hrolled, hmid⟩ := hs.rolled
      have horderly := hs.orderly
      rw [List.append_nil] at horderly
      exact ⟨horderly, d'.resolver, mid, hmid.suffix, hrolled⟩
  · exact (release_then (fun _ _ h hp => h.quiet hp) _).mono (fun _ _ hs => hs)
      (fun _ _ _ hs => by cases hs.1) (fun _ _ _ hs => hs.2) (fun _ _ hs => hs)

/-! ## The run of a deployment -/

/-- Whether a deployment gets to the machine in a place, after all before it were updated. -/
inductive Reaches (env : Environment σ) (d : Deployment) (s : Session σ) :
    Nat → Deployment → Session σ → Prop where
  | leased {d₁ s₁ d₂ s₂} (hcommand : runCommand d env s = (.done (d₁, .ok ()), s₁))
      (hleased : onFleet (Fleet.acquire d₁.leaseTimeout) d₁ env s₁ = (.done (d₂, .ok ()), s₂)) :
      Reaches env d s 0 d₂ s₂
  | updated {place d₁ s₁ d₂ s₂} (h : Reaches env d s place d₁ s₁)
      (hupdate : updateMember place d₁ env s₁ = (.done (d₂, .ok ()), s₂)) :
      Reaches env d s (place + 1) d₂ s₂

/-- What is left to do of a rollout when the members in some places are to be updated. -/
def finish (places : List Nat) : Work σ Deployment Unit := do
  let result ← (updateMembers places).attempt
  let _ ← (onFleet Fleet.release).attempt
  Work.ofExcept result

variable {s s' : Session σ} {d' : Deployment}

/-- After a turn that succeeded the others have theirs. -/
theorem updateMembers_cons_of_ok (hupdate : updateMember place d env s = (.done (d', .ok ()), s'))
    (places : List Nat) :
    updateMembers (place :: places) d env s = updateMembers places d' env s' :=
  Work.bind_run (Work.attempt_run hupdate)

/-- Unless the deployment is immediate, the first failure is the last thing that is done. -/
theorem updateMembers_cons_of_error {e : DeployError} (hstrategy : d'.strategy ≠ .immediate)
    (hupdate : updateMember place d env s = (.done (d', .error e), s')) (places : List Nat) :
    updateMembers (place :: places) d env s = (.done (d', .error e), s') := by
  refine (Work.bind_run (Work.attempt_run hupdate)).trans ?_
  show (if d'.strategy == .immediate && !e.isCanceled then updateMembers places
    else Work.fail e) d' env s' = _
  rw [if_neg (by simp [hstrategy])]
  rfl

/-- What is left to do goes as the updates go. -/
theorem finish_congr {places places' : List Nat}
    (h : updateMembers places d env s = updateMembers places' d' env s') :
    finish places d env s = finish places' d' env s' :=
  Work.attempt_bind_congr h

/-- A deployment that gets to a place does there what is left to do. -/
theorem Reaches.run (h : Reaches env d s place d' s') (hplace : place ≤ d.fleet.machines.length)
    (hfleet : d.fleet.machines ≠ []) :
    deploy d env s = finish (List.range' place (d.fleet.machines.length - place)) d' env s' := by
  -- Each update that succeeds takes the first place off those that are left.
  induction h with
  | leased hcommand hleased =>
    rename_i d₁ s₁ d₂ s₂
    have hvalue : Run.Post.Holds _ (runCommand d env s) := runCommand_value d d s rfl
    rw [hcommand] at hvalue
    obtain ⟨c, rfl⟩ := hvalue
    -- With a fleet that is not empty, a deployment goes on with its leases.
    rw [deploy_run, hcommand]
    show (if d.fleet.isEmpty then createFirst else updateFleet) _ env s₁ = _
    rw [Fleet.isEmpty_eq_false hfleet, if_neg Bool.false_ne_true]
    refine (Work.bind_run hleased).trans ?_
    show finish (List.range d.fleet.size) d₂ env s₂ = _
    rw [List.range_eq_range', Fleet.machines, List.length_map]
    rfl
  | updated h hupdate ih =>
    rename_i place d₁ s₁ d₂ s₂
    rw [ih (by omega)]
    have hlength : d.fleet.machines.length - place = d.fleet.machines.length - (place + 1) + 1 := by
      omega
    rw [hlength, List.range'_succ]
    exact finish_congr (updateMembers_cons_of_ok hupdate _)

/-- A deployment that gets to a place has finished the machines before it, and nothing more. -/
theorem Reaches.progress (h : Reaches env d s place d' s') (hstrategy : d.strategy ≠ .immediate)
    (hplace : place ≤ d.fleet.machines.length) :
    Progress d.skipHealthChecks d.resolver (runCommand d env s).2.past
      (d.fleet.machines.take place) (d.fleet.machines.drop place) d' s'.past := by
  -- By induction on the places, each of which was updated without a failure.
  induction h with
  | leased hcommand hleased =>
    rename_i d₁ s₁ d₂ s₂
    have hvalue : Run.Post.Holds _ (runCommand d env s) := runCommand_value d d s rfl
    rw [hcommand] at hvalue ⊢
    obtain ⟨c, rfl⟩ := hvalue
    have hleases : Run.Post.Holds _ (onFleet (Fleet.acquire d.leaseTimeout) _ env s₁) :=
      acquire_progress (d := { d with command := c }) hstrategy d.leaseTimeout _ s₁ ⟨rfl, rfl⟩
    rw [hleased] at hleases
    exact hleases
  | updated h hupdate ih =>
    rename_i place d₁ s₁ d₂ s₂
    have ih := ih (by omega)
    have hlt : place < d.fleet.machines.length := hplace
    have hlength : (d.fleet.machines.take place).length = place := by
      rw [List.length_take]
      omega
    rw [List.drop_eq_getElem_cons hlt] at ih
    have hnext : Run.Post.Holds _ (updateMember _ d₁ env s₁) := updateMember_progress d₁ s₁ ih
    rw [hlength, hupdate] at hnext
    rw [← List.take_append_getElem hlt]
    exact hnext

/-- To roll out over machines changes them in their order. -/
theorem rollOut_rolled (hstrategy : d.strategy ≠ .immediate) (hfleet : d.fleet.machines ≠ []) :
    Work.Triple env (fun d' s => d' = d ∧ s.past = base) rollOut
      ⟨fun _ _ s => Orderly d.skipHealthChecks d.resolver base d.fleet.machines s.past ∧
          AllRolled d.skipHealthChecks d.resolver base d.fleet.machines s.past,
        fun _ _ s => Orderly d.skipHealthChecks d.resolver base d.fleet.machines s.past,
        fun _ s => Orderly d.skipHealthChecks d.resolver base d.fleet.machines s.past⟩ := by
  refine Work.Triple.value_bind_of_eq ?_
  rw [Fleet.isEmpty_eq_false hfleet, if_neg Bool.false_ne_true]
  exact updateFleet_rolled hstrategy

/-- The machines of a deployment are changed in their order, and all are finished if it
succeeds. -/
theorem deploy_orderly (hstrategy : d.strategy ≠ .immediate) (hfleet : d.fleet.machines ≠ [])
    (s : Session σ) :
    Orderly d.skipHealthChecks d.resolver (runCommand d env s).2.past d.fleet.machines
        (deploy d env s).2.past ∧
      ∀ d' s', deploy d env s = (.done (d', .ok ()), s') → AllRolled d.skipHealthChecks d.resolver
        (runCommand d env s).2.past d.fleet.machines s'.past := by
  rcases deploy_cases d env s with ⟨c, s₁, hcommand, hdeploy⟩ | ⟨ending, hdeploy, hfails⟩
  · -- The command leaves the rest of the deployment alone.
    rw [hcommand, hdeploy]
    have hholds : Run.Post.Holds _ (rollOut { d with command := c } env s₁) :=
      rollOut_rolled (d := { d with command := c }) hstrategy hfleet _ s₁ ⟨rfl, rfl⟩
    revert hholds
    rcases rollOut { d with command := c } env s₁ with ⟨⟨d₂, e | _⟩ | _ | _, s₂⟩
    · exact fun horderly => ⟨horderly, fun _ _ heq => by cases heq⟩
    · rintro ⟨horderly, hall⟩
      refine ⟨horderly, fun d' s' heq => ?_⟩
      cases heq
      exact hall
    · exact fun horderly => ⟨horderly, fun _ _ heq => by cases heq⟩
    · exact fun horderly => ⟨horderly, fun _ _ heq => by cases heq⟩
  · -- A command that fails is the end, before any machine is changed.
    rw [hdeploy]
    refine ⟨CallsSince.refl, fun d' s' heq => ?_⟩
    obtain ⟨-, e, herror⟩ := hfails d' _ (congrArg Prod.fst heq)
    cases herror

/-- Work in a place that fails has changed the machine there at most. -/
theorem Reaches.own (h : Reaches env d s place d' s') (hstrategy : d.strategy ≠ .immediate)
    {m : Machine} (hm : d.fleet.machines[place]? = some m) {d₂ : Deployment} {e : DeployError}
    {s₂ : Session σ} (hfails : updateMember place d' env s' = (.done (d₂, .error e), s₂)) :
    CallsSince s'.past s₂.past fun _ c => c.IsMutation → ForMachine d'.resolver m c := by
  obtain ⟨hplace, hm⟩ := List.getElem?_eq_some_iff.mp hm
  have hprogress := h.progress hstrategy (Nat.le_of_lt hplace)
  rw [List.drop_eq_getElem_cons hplace, hm] at hprogress
  have hmachine := hprogress.getElem?
  -- The place is the one after those that are finished.
  rw [List.length_take, Nat.min_eq_left (Nat.le_of_lt hplace)] at hmachine
  have hholds : Run.Post.Holds _ (updateMember place d' env s') :=
    updateMember_slot hmachine hprogress.strategy d' s' ⟨rfl, rfl⟩
  rw [hfails] at hholds
  exact hholds

/-- A failure in a place is what the deployment ends with, and nothing is changed after it. -/
theorem Reaches.fails (h : Reaches env d s place d' s') (hstrategy : d.strategy ≠ .immediate)
    (hplace : place < d.fleet.machines.length) {d₂ : Deployment} {e : DeployError}
    {s₂ : Session σ} (hfails : updateMember place d' env s' = (.done (d₂, .error e), s₂)) :
    Quiet s₂.past (deploy d env s).2.past ∧
      ∀ d₃ result s₃, deploy d env s = (.done (d₃, result), s₃) → result = .error e := by
  have hfleet : d.fleet.machines ≠ [] := List.ne_nil_of_length_pos (by omega)
  have hrun := h.run (Nat.le_of_lt hplace) hfleet
  have hlength : d.fleet.machines.length - place = d.fleet.machines.length - (place + 1) + 1 := by
    omega
  rw [hlength, List.range'_succ] at hrun
  -- The strategy is the one it was, so that the failure ends the updates.
  have hstrategy' : d₂.strategy ≠ .immediate := by
    have hkept : Run.Post.Holds _ (updateMember place d' env s') :=
      updateMember_strategy place (P := (· ≠ .immediate)) d' s'
        (h.progress hstrategy (Nat.le_of_lt hplace)).strategy
    rw [hfails] at hkept
    exact hkept
  -- What is left to do is to give up the leases, and then to fail.
  have hrest := Work.attempt_run (updateMembers_cons_of_error hstrategy' hfails
    (List.range' (place + 1) (d.fleet.machines.length - (place + 1))))
  have hfinish : deploy d env s = ((onFleet Fleet.release).attempt >>= fun _ =>
      Work.ofExcept (.error e) : Work σ Deployment Unit) d₂ env s₂ :=
    hrun.trans (Work.bind_run hrest)
  have hholds : Run.Post.Holds _ (((onFleet Fleet.release).attempt >>= fun _ =>
      Work.ofExcept (.error e) : Work σ Deployment Unit) d₂ env s₂) :=
    release_then (K := Quiet s₂.past) (fun _ _ h hp => CallsSince.trans h hp) (.error e) d₂ s₂
      CallsSince.refl
  rw [hfinish]
  revert hholds
  rcases ((onFleet Fleet.release).attempt >>= fun _ => Work.ofExcept (.error e) :
    Work σ Deployment Unit) d₂ env s₂ with ⟨⟨d₃, e' | _⟩ | _ | _, s₃⟩
  · rintro ⟨heq, hquiet⟩
    refine ⟨hquiet, fun _ result _ hresult => ?_⟩
    cases hresult
    exact heq.symm
  · rintro ⟨heq, -⟩
    cases heq
  · exact fun hquiet => ⟨hquiet, fun _ _ _ heq => by cases heq⟩
  · exact fun hquiet => ⟨hquiet, fun _ _ _ heq => by cases heq⟩

/-- Unless a deployment is immediate, each machine is changed in its turn, after the release
command, and after the machines in all places before it were changed and have come up. If the
deployment succeeds, all have. If one fails in its turn, those before it are finished, only its own
calls were made for it, nothing is changed any more, and the deployment ends with its error. -/
theorem deploy_rolls {strategy : Strategy} (hstrategy : strategy ≠ .immediate)
    {roster : Machine.Roster} (hroster : roster.app ≠ []) (o : Options) (app : App.Config)
    (volumes : Volume.Pool) (release : Release) (s : Session σ) :
    let d := assemble o app strategy roster volumes release
    let rollout := (runCommand d env s).2.past
    let run := deploy d env s
    CallsSince s.past rollout (fun before c =>
      ∃ line, ReleaseCommand.ByCommand line (roster.releaseCommand.map (·.id)) s.past before c) ∧
    Orderly o.skipHealthChecks d.resolver rollout roster.app run.2.past ∧
    (∀ d' s', run = (.done (d', .ok ()), s') →
      AllRolled o.skipHealthChecks d.resolver rollout roster.app s'.past) ∧
    ∀ place m d₁ s₁ d₂ e s₂, Reaches env d s place d₁ s₁ → roster.app[place]? = some m →
      updateMember place d₁ env s₁ = (.done (d₂, .error e), s₂) →
      (∃ mid, Rolled o.skipHealthChecks d.resolver rollout (roster.app.take place) d₁.resolver
        mid ∧ Quiet mid s₁.past) ∧
      CallsSince s₁.past s₂.past (fun _ c => c.IsMutation → ForMachine d₁.resolver m c) ∧
      Quiet s₂.past run.2.past ∧ EndsIn env o.effectiveWaitTimeout s (· = .error e) run := by
  intro d rollout run
  have hmachines : d.fleet.machines = roster.app :=
    assemble_machines o app strategy roster volumes release
  rw [← hmachines] at hroster ⊢
  obtain ⟨horderly, hall⟩ := deploy_orderly (d := d) hstrategy hroster s
  refine ⟨runCommand_ours (assemble_starts o app strategy roster volumes release) s, horderly,
    hall, fun place m d₁ s₁ d₂ e s₂ hreaches hm hfails => ?_⟩
  obtain ⟨hplace, -⟩ := List.getElem?_eq_some_iff.mp hm
  obtain ⟨hquiet, hresult⟩ := hreaches.fails hstrategy hplace hfails
  exact ⟨(hreaches.progress hstrategy (Nat.le_of_lt hplace)).rolled,
    hreaches.own hstrategy hm hfails, hquiet, deploy_endsIn ⟨rfl, rfl⟩ s hresult⟩

/-- A rolling deployment of two machines. -/
def rolling : Deployment := assemble {} migrating .rolling twoMachines {} {}

/-- The two machines are changed one after the other. -/
theorem deploy_rolls_obliging :
    Strategy.rolling ≠ .immediate ∧ twoMachines.app ≠ [] ∧
    CallsSince [] (runCommand rolling .obliging { remote := () }).2.past (fun before c =>
      ∃ line, ReleaseCommand.ByCommand line (some "job") [] before c) ∧
    Orderly false rolling.resolver (runCommand rolling .obliging { remote := () }).2.past
      twoMachines.app (deploy rolling .obliging { remote := () }).2.past ∧
    (∀ d' s', deploy rolling .obliging { remote := () } = (.done (d', .ok ()), s') →
      AllRolled false rolling.resolver (runCommand rolling .obliging { remote := () }).2.past
        twoMachines.app s'.past) ∧
    ∀ place m d₁ s₁ d₂ e s₂, Reaches .obliging rolling { remote := () } place d₁ s₁ →
      twoMachines.app[place]? = some m →
      updateMember place d₁ .obliging s₁ = (.done (d₂, .error e), s₂) →
      (∃ mid, Rolled false rolling.resolver
        (runCommand rolling .obliging { remote := () }).2.past (twoMachines.app.take place)
        d₁.resolver mid ∧ Quiet mid s₁.past) ∧
      CallsSince s₁.past s₂.past (fun _ c => c.IsMutation → ForMachine d₁.resolver m c) ∧
      Quiet s₂.past (deploy rolling .obliging { remote := () }).2.past ∧
      EndsIn .obliging 120000 { remote := () } (· = .error e)
        (deploy rolling .obliging { remote := () }) := by
  have hrolling : Strategy.rolling ≠ .immediate := by decide
  have hroster : twoMachines.app ≠ [] := List.cons_ne_nil _ _
  exact ⟨hrolling, hroster, deploy_rolls hrolling hroster {} migrating {} {} { remote := () }⟩

end Deployment

end Rollout
