import Rollout.Proofs.GivingUp

/-!
# All leases or none

Leases on a fleet are taken side by side, in whatever order the answers come. All members have
one in the end, or none has: if one can't be taken, the error tells how many failed and what the
first of them said, and every lease that was taken is given up again.

## Main statements

- `Fleet.acquire_allOrNone`: how taking the leases of a fleet ends that is not canceled.
-/

namespace Rollout

variable {σ : Type} {env : Environment σ} {s s' : Session σ}

/-- The failure that a result tells, if there is a result. -/
def failureOf (result : Option (Handle × Except DeployError Unit)) : Option DeployError :=
  result.bind fun x => match x.2 with
    | .error e => some e
    | .ok () => none

/-- The failure that a course ended with. -/
def Course.failure? (c : Course (Handle × Except DeployError Unit)) : Option DeployError :=
  failureOf c.fate.result?

/-- The handle that a course ended with, if it was a success. -/
def Course.success? (c : Course (Handle × Except DeployError Unit)) : Option Handle :=
  c.fate.result?.bind fun x => match x.2 with
    | .error _ => none
    | .ok () => some x.1

namespace Fleet

variable {f : Fleet} {term : Nat} {taking : List Step}
variable {ended : List (Nat × Course (Handle × Except DeployError Unit))}

/-- How the members of a fleet were asked for leases: what became of each, in the order in which
the answers came, and what this left in the past. -/
structure Asked (term : Nat) (f : Fleet)
    (ended : List (Nat × Course (Handle × Except DeployError Unit))) (taking : List Step) :
    Prop where
  fanned : Fanned ended f.size taking
  took : List.Forall₂ (Handle.Took term) f.members (inPlace ended)

/-- How taking the leases of a fleet ends: with all of them, or with none and the first failure.
It does not end if a call is not answered. -/
inductive AllOrNone (env : Environment σ) (f : Fleet) (s : Session σ)
    (ended : List (Nat × Course (Handle × Except DeployError Unit))) (taking : List Step) :
    Ending (Fleet × Except DeployError Unit) × Session σ → Prop where
  | all {members s'}
      (hall : List.Forall₂ (fun c h => c.success? = some h) (inPlace ended) members)
      (hpast : s'.past = taking ++ s.past) :
      AllOrNone env f s ended taking (.done (⟨members⟩, .ok ()), s')
  | nothing {first others leased giving s'}
      (hfailures : ended.filterMap (·.2.failure?) = first :: others)
      (hleased : List.Forall₂ (fun c h => ∃ r, c.fate.result? = some (h, r))
        (inPlace ended) leased)
      (hgave : GaveUp leased giving) (hpast : s'.past = giving ++ (taking ++ s.past)) :
      AllOrNone env f s ended taking (.done (⟨leased.map ({ · with lease := {} })⟩,
        .error (.fleetLease (others.length + 1) f.size first.text)), s')
  | stuck {s' : Session σ} (hanswers : ¬ env.Answers)
      (hlacks : ∃ c ∈ inPlace ended, c.success? = none) :
      AllOrNone env f s ended taking (.stuck, s')

/-- Where there is a failure, not all members have a lease. -/
theorem exists_failed {first : DeployError} {others : List DeployError}
    (h : ended.filterMap (·.2.failure?) = first :: others) :
    ∃ c ∈ inPlace ended, c.success? = none := by
  obtain ⟨x, hx, hfailure⟩ := List.mem_filterMap.mp
    (show first ∈ ended.filterMap (·.2.failure?) from h ▸ List.mem_cons_self)
  refine ⟨x.2, mem_inPlace.mpr ⟨x.1, hx⟩, ?_⟩
  dsimp only [Course.failure?, failureOf, Course.success?] at hfailure ⊢
  -- Neither what has no result nor what failed is a success.
  rcases hresult : x.2.fate.result? with _ | ⟨h', e | _⟩
  · rfl
  · rfl
  · rw [hresult] at hfailure
    cases hfailure

/-- The failures of errands are those of their courses. -/
theorem failures_eq_filterMap {results : List (Nat × Handle × Except DeployError Unit)}
    (h : results.map (fun x => (x.1, some x.2)) = ended.map fun x => (x.1, x.2.fate.result?)) :
    failures results = ended.filterMap (·.2.failure?) := by
  calc failures results
      = (results.map fun x => (x.1, some x.2)).filterMap (failureOf ·.2) := by
        rw [List.filterMap_map]
        rfl
    _ = (ended.map fun x => (x.1, x.2.fate.result?)).filterMap (failureOf ·.2) := by rw [h]
    _ = ended.filterMap (·.2.failure?) := by
        rw [List.filterMap_map]
        rfl

/-- Nothing that is not canceled is kept from its answer. -/
theorem asked_of_ran {s₁ : Session σ}
    (hran : Ran env {} (Handle.Taking term) f.members s ended taking s₁)
    (hcanceled : s₁.isCanceled = false) : Asked term f ended taking := by
  refine ⟨hran.fanned, forall₂_of_mem_right hran.courses fun h c hc hof => ?_⟩
  obtain ⟨e, htaking, hfares⟩ := hof
  obtain ⟨place, hplace⟩ := mem_inPlace.mp hc
  exact htaking c.fate hfares (hran.reason?_eq_none rfl hcanceled _ hplace)

/-- If the deployment is not canceled, all leases of a fleet are given up and forgotten. -/
theorem release_allForgotten (f : Fleet) (s : Session σ) :
    Run.Triple env (· = s) (release f)
      ⟨fun x s' => s.Precedes s' ∧ (s'.isCanceled = false →
          x.1.members = f.members.map ({ · with lease := {} }) ∧
          ∃ giving, s'.past = giving ++ s.past ∧ GaveUp f.members giving),
        fun e s' => e = .stuck ∧ ¬ env.Answers ∧ s.Precedes s'⟩ := by
  refine ((release_courses f s).and (release_forgotten f s)).mono (fun _ hs => ⟨hs, hs⟩) ?_ ?_
  · rintro ⟨f', r⟩ s' ⟨⟨ended, giving, hran, -⟩, _, _, hforgets⟩
    refine ⟨hran.precedes, fun hend => ?_⟩
    have hstart := hran.precedes.isCanceled_eq_false hend
    -- Without a cancellation there is no deadline that could cut a call off.
    have hdeadline : (releaseBounds s).deadline = none := by
      rw [releaseBounds, hstart]
      rfl
    refine ⟨?_, giving, hran.past, gaveUp_of_ran hran fun x hx =>
      Fate.isSkipped_eq_false (hran.reason?_eq_none hdeadline hend x hx)⟩
    rw [← List.map_id f'.members, ← List.forall₂_eq_eq_eq, List.forall₂_map_left_iff,
      List.forall₂_map_right_iff]
    refine List.Forall₂.flip (hforgets.forall₂.imp fun h h' hh => ?_)
    -- A lease is kept only where the deployment had been canceled.
    rcases hh with rfl | ⟨-, hout, -⟩
    · rfl
    · rw [hstart] at hout
      cases hout
  · rintro e s' ⟨⟨rfl, hanswers, ended, giving, hran⟩, -⟩
    exact ⟨rfl, hanswers, hran.precedes⟩

/-- Taking the leases of a fleet ends with all or with none, or not at all. -/
theorem acquire_ends (f : Fleet) (term : Nat) (s : Session σ) :
    Run.Triple env (· = s) (acquire term f)
      ⟨fun x s' => s'.isCanceled = false → ∃ ended taking, Asked term f ended taking ∧
          AllOrNone env f s ended taking (.done x, s'),
        fun e s' => e = .stuck ∧ (s'.isCanceled = false → ∃ ended taking,
          Asked term f ended taking ∧ AllOrNone env f s ended taking (.stuck, s'))⟩ := by
  refine Run.Triple.bind (acquire_courses f term s) (fun results => ?_) ?_
  · refine Run.Triple.at_session fun s₁ hs₁ => ?_
    obtain ⟨ended, taking, hran, hresults⟩ := hs₁
    have hplaces := forall₂_result? hresults
    have hfailures := failures_eq_filterMap hresults
    split
    · -- No failure: every member has the lease that its course ended with.
      rename_i hnone
      refine Run.Triple.pure fun s' hs' hend => ?_
      subst hs'
      refine ⟨ended, taking, asked_of_ran hran hend, .all ?_ hran.past⟩
      rw [List.forall₂_map_right_iff]
      refine forall₂_of_mem_right hplaces fun c x hx hc => ?_
      rw [Course.success?, hc, Option.bind_some, forall_of_failures_eq_nil hnone x hx]
    · -- A failure: the leases that were taken are given up, which ends or does not.
      rename_i first others hsome
      rw [hsome] at hfailures
      refine Run.Triple.bind (release_allForgotten (ofResults results) s₁)
        (fun x => Run.Triple.pure fun s' hs' hend => ?_) ?_
      · obtain ⟨hprecedes, hgiven⟩ := hs'
        obtain ⟨hmembers, giving, hpast, hgave⟩ := hgiven hend
        have hstart := hprecedes.isCanceled_eq_false hend
        refine ⟨ended, taking, asked_of_ran hran hstart, ?_⟩
        obtain ⟨⟨members⟩, r⟩ := x
        obtain rfl : members = _ := hmembers
        refine .nothing hfailures.symm ?_ hgave (by rw [hpast, hran.past])
        rw [ofResults, List.forall₂_map_right_iff]
        exact hplaces.imp fun c x hx => ⟨x.2, hx⟩
      · rintro e s' ⟨rfl, hanswers, hprecedes⟩
        refine ⟨rfl, fun hend => ?_⟩
        have hstart := hprecedes.isCanceled_eq_false hend
        refine ⟨ended, taking, asked_of_ran hran hstart, .stuck hanswers ?_⟩
        exact exists_failed hfailures.symm
  · -- An answer never came, so there is a member without a lease.
    rintro e s' ⟨rfl, hanswers, ended, taking, hran, x, hx, hnone⟩
    refine ⟨rfl, fun hend => ⟨ended, taking, asked_of_ran hran hend, .stuck hanswers ?_⟩⟩
    refine ⟨x.2, mem_inPlace.mpr ⟨x.1, hx⟩, ?_⟩
    rw [Course.success?, hnone]
    rfl

/-- A fleet whose leases were taken has one on every member. -/
theorem nonce_ne_of_acquire {f' : Fleet} (h : acquire term f env s = (.done (f', .ok ()), s'))
    (hcanceled : s'.isCanceled = false) : ∀ h ∈ f'.members, h.lease.nonce ≠ "" := by
  have hends : Run.Post.Holds _ (acquire term f env s) := acquire_ends f term s s rfl
  rw [h] at hends
  obtain ⟨ended, taking, hasked, hall⟩ := hends hcanceled
  cases hall with
  | all hall hpast =>
    intro h' hh'
    obtain ⟨c, hc, hsuccess⟩ := exists_of_mem_right hall hh'
    obtain ⟨h, -, htook⟩ := exists_of_mem_right hasked.took hc
    cases htook with
    -- The member had its lease, or was granted one: else it did not succeed.
    | held now hheld =>
      obtain rfl := Option.some.inj hsuccess
      exact Lease.nonce_ne_of_isHeldAt hheld
    | granted now hheld reply lease hlease =>
      obtain rfl := Option.some.inj hsuccess
      exact Lease.ofReply_nonce_ne hlease
    | declined | refused | unanswered => cases hsuccess

/-- How taking the leases of a fleet ends that is not canceled, and that it ends well just if all
members had a lease or were granted one. -/
theorem acquire_allOrNone (f : Fleet) (term : Nat)
    (h : (acquire term f env s).2.isCanceled = false) :
    ∃ ended taking, Asked term f ended taking ∧
      AllOrNone env f s ended taking (acquire term f env s) ∧
      ((∃ f' s', acquire term f env s = (.done (f', .ok ()), s')) ↔
        ∀ c ∈ inPlace ended, ∃ h, c.success? = some h) := by
  -- The program does not break off, whatever it is started with.
  have hends : ∃ ended taking, Asked term f ended taking ∧
      AllOrNone env f s ended taking (acquire term f env s) := by
    have hends : Run.Post.Holds _ (acquire term f env s) := acquire_ends f term s s rfl
    revert h hends
    rcases acquire term f env s with ⟨x | _ | _, s'⟩
    · exact fun h hends => hends h
    · exact fun h hends => hends.2 h
    · rintro h ⟨heq, -⟩
      cases heq
  obtain ⟨ended, taking, hasked, hall⟩ := hends
  refine ⟨ended, taking, hasked, hall, ?_⟩
  -- A course without success is one too many.
  have hlacks : (∃ c ∈ inPlace ended, c.success? = none) →
      ¬ ∀ c ∈ inPlace ended, ∃ h, c.success? = some h := by
    rintro ⟨c, hc, hnone⟩ hsuccess
    obtain ⟨h, hh⟩ := hsuccess c hc
    rw [hnone] at hh
    cases hh
  revert hall
  generalize acquire term f env s = run
  intro hall
  cases hall with
  -- All have succeeded just if the ending is the good one.
  | all hall hpast =>
    refine iff_of_true ⟨_, _, rfl⟩ fun c hc => ?_
    obtain ⟨h, -, hh⟩ := exists_of_mem_right hall.flip hc
    exact ⟨h, hh⟩
  | nothing hfailures hleased hgave hpast =>
    exact iff_of_false (by rintro ⟨_, _, heq⟩; cases heq) (hlacks (exists_failed hfailures))
  | stuck hanswers hfailed =>
    exact iff_of_false (by rintro ⟨_, _, heq⟩; cases heq) (hlacks hfailed)

/-- Once the answers are there and tell no failure, all leases are taken. -/
theorem acquire_of_together {results : List (Nat × Handle × Except DeployError Unit)}
    (h : Run.together {} (f.members.map (·.acquiring term)) env s = (.done results, s'))
    (hfailures : failures results = []) :
    acquire term f env s = (.done (ofResults results, .ok ()), s') := by
  have hrun : acquire term f env s = Run.andThen (Run.together {}
    (f.members.map (·.acquiring term))) _ env s := rfl
  rw [hrun, Run.andThen, h]
  dsimp only
  rw [hfailures]
  rfl

/-- If an answer tells a failure, the leases that were taken are given up. -/
theorem acquire_of_refused {results : List (Nat × Handle × Except DeployError Unit)} {f' : Fleet}
    {first : DeployError} {others : List DeployError} {r : Except DeployError Unit}
    {s₁ : Session σ}
    (h : Run.together {} (f.members.map (·.acquiring term)) env s = (.done results, s₁))
    (hfailures : failures results = first :: others)
    (hrelease : release (ofResults results) env s₁ = (.done (f', r), s')) :
    acquire term f env s =
      (.done (f', .error (.fleetLease (others.length + 1) f.size first.text)), s') := by
  have hrun : acquire term f env s = Run.andThen (Run.together {}
    (f.members.map (·.acquiring term))) _ env s := rfl
  rw [hrun, Run.andThen, h]
  dsimp only
  rw [hfailures]
  show Run.andThen (release (ofResults results)) _ env s₁ = _
  rw [Run.andThen, hrelease]
  rfl

/-- An outside that grants a lease on the first machine, and on no other. -/
def choosy : Environment Unit :=
  { Environment.obliging with
    receive := fun c _ st => { remote := st, delay := some 0, answer := (·, choose c) } }
where
  /-- What is answered to a call. -/
  choose : (c : Call) → c.Outcome
    | .acquire id term =>
      if id = "m1" then Environment.oblige (.acquire id term)
      else .error (.status 409 "lease is held")
    | c => Environment.oblige c

/-- The second machine is refused, so the lease on the first one is given up. -/
theorem acquire_allOrNone_choosy :
    let f : Fleet := .ofMachines [{ id := "m1" }, { id := "m2" }]
    let run := acquire 60000 f choosy { remote := () }
    run.2.isCanceled = false ∧
      run.1 = .done (f, .error (.fleetLease 1 2 "lease error on machine m2: 409: lease is held")) ∧
      ∃ ended taking, Asked 60000 f ended taking ∧
        AllOrNone choosy f { remote := () } ended taking run ∧
        ((∃ f' s', run = (.done (f', .ok ()), s')) ↔
          ∀ c ∈ inPlace ended, ∃ h, c.success? = some h) := by
  intro f run
  -- The first machine grants a lease, the second refuses one.
  have hstart : Run.startAll {} (f.members.map (·.acquiring 60000)) choosy { remote := () } =
      (.done ([(leasedMachine "m1", .ok ()), ({ machine := { id := "m2" } },
        .error (.lease "m2" "409: lease is held"))].map .finished),
        (Run.startAll {} (f.members.map (·.acquiring 60000)) choosy { remote := () }).2) := rfl
  let s₁ := (Run.startAll {} (f.members.map (·.acquiring 60000)) choosy { remote := () }).2
  let leased : Fleet := ⟨[leasedMachine "m1", { machine := { id := "m2" } }]⟩
  -- What the first has granted is given up.
  have hgiving : Run.startAll (releaseBounds s₁) (leased.members.map (·.releasing)) choosy s₁ =
      (.done ((f.members.map fun h => (h, .ok ())).map .finished),
        (Run.startAll (releaseBounds s₁) (leased.members.map (·.releasing)) choosy s₁).2) := rfl
  obtain ⟨r, hrelease⟩ := release_of_together (Run.together_run _ hgiving)
  have hrun : run = _ := acquire_of_refused (Run.together_run _ hstart) rfl <| by
    rw [ofResults, inPlace_mapIdx]
    exact hrelease
  have hcanceled : run.2.isCanceled = false := by
    rw [hrun]
    rfl
  refine ⟨hcanceled, ?_, acquire_allOrNone f 60000 hcanceled⟩
  rw [hrun, ofResults, inPlace_mapIdx]
  rfl

end Fleet

end Rollout
