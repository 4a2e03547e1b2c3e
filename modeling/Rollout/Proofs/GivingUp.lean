import Rollout.Proofs.LeaseCourses

/-!
# What is given up and what is forgotten

Giving up the leases of a fleet asks the control plane once for every lease that it may still
have, also after the deployment was canceled. It does not if the deployment is canceled by one of
these very calls: then the members whose turn comes later are passed over. A lease is forgotten
once it was tried to give it up. It is not if the deployment had been canceled before and the
grace period runs out: then it is not known what became of the lease.

## Main statements

- `Fleet.release_gives`: every lease that is not stale is given up by one call.
- `Fleet.release_forgets`: no member keeps its lease but one whose own call was cut off by the end
  of the grace period.
-/

namespace Rollout

variable {σ : Type} {env : Environment σ} {s s' : Session σ}

/-! ## What is given up -/

/-- What is done to give up the lease of a handle: what happens before the call, and the call. A
lease that is stale is dropped without a call. -/
inductive Handle.GivesUp (h : Handle) : List Step × Option Call → Prop where
  | unleased (hnonce : h.lease.nonce = "") : GivesUp h ([], none)
  | stale (now : Int) (hnonce : h.lease.nonce ≠ "") (hstale : h.lease.isStaleAt now = true) :
      GivesUp h ([.dropped h.id h.lease.nonce, .looked now], none)
  | released (now : Int) (hnonce : h.lease.nonce ≠ "") (hstale : h.lease.isStaleAt now = false) :
      GivesUp h ([.looked now], some (.release h.id h.lease.nonce))

/-- Whether the leases of handles were given up by what happened, one handle after the other. -/
def GaveUp (members : List Handle) (new : List Step) : Prop :=
  ∃ acts, List.Forall₂ Handle.GivesUp members acts ∧
    asidesIn new = acts.flatMap (·.1.reverse) ∧ callsIn new = acts.filterMap (·.2)

namespace Fleet

/-- If no call was left out, the leases of all members were given up. -/
theorem gaveUp_of_ran {b : Bounds} {time : Nat} {members : List Handle} {new : List Step}
    {ended : List (Nat × Course (Handle × Except DeployError Unit))}
    (hran : Ran env b (Handle.Giving env time) members s ended new s')
    (hskipped : ∀ x ∈ ended, x.2.fate.isSkipped = false) : GaveUp members new := by
  refine ⟨(inPlace ended).map fun c => (c.opening, c.fate.call?), ?_, ?_, ?_⟩
  · -- Every errand gave the lease up, since its call was not left out.
    rw [List.forall₂_map_right_iff]
    refine forall₂_of_mem_right hran.courses fun h c hc hof => ?_
    obtain ⟨e, hgiving, hfares⟩ := hof
    obtain ⟨place, hplace⟩ := mem_inPlace.mp hc
    have hgave := hgiving.gave c.fate hfares
    have hmade : c.fate.isSkipped = false := hskipped _ hplace
    revert hgave hmade
    generalize c.opening = opening, c.fate = fate
    intro hgave hmade
    cases hgave with
    | unleased hnonce => exact .unleased hnonce
    | stale now hnonce hstale => exact .stale now hnonce hstale
    | asked now hnonce hstale _ hcall _ =>
      -- The call was made.
      rw [hcall.resolve_left (by rw [hmade]; exact Bool.false_ne_true)]
      exact .released now hnonce hstale
  · rw [hran.fanned.asides, List.flatMap_map]
  · rw [hran.fanned.calls, List.filterMap_map]
    rfl

/-- A machine that is leased for a minute. -/
def leasedMachine (id : String) : Handle :=
  { machine := { id := id }, lease := { nonce := "nonce", expiresAt := some { millis := 60000 } } }

/-- A fleet of two machines that are leased. -/
def twoLeased : Fleet := ⟨[leasedMachine "m1", leasedMachine "m2"]⟩

/-- A release ends when all its errands have. -/
theorem release_of_together {f : Fleet}
    {results : List (Nat × Handle × Except DeployError Unit)}
    (h : Run.together (releaseBounds s) (f.members.map (·.releasing)) env s =
      (.done results, s')) : ∃ r, release f env s = (.done (ofResults results, r), s') := by
  have hrun : release f env s = Run.andThen (Run.together (releaseBounds s)
    (f.members.map (·.releasing))) _ env s := rfl
  rw [hrun, Run.andThen, h]
  dsimp only
  cases (failures results).filter fun e => !(s.isCanceled && e.isInterrupted) <;> exact ⟨_, rfl⟩

/-- Every lease that is not stale is given up by one call, however that ends: if the deployment had
been canceled before, or if none of the calls that give up the leases cancels it. -/
theorem release_gives (f : Fleet) (h : s.isCanceled = true ∨ ∀ m ∈ f.members, ∀ st,
    (env.receive (.release m.id m.lease.nonce) s.now st).cancels = false) :
    ∃ new, (release f env s).2.past = new ++ s.past ∧ GaveUp f.members new := by
  -- Both endings of the release tell what ran.
  have hgave : ∀ ended new s',
      Ran env (releaseBounds s) (Handle.Giving env s.now) f.members s ended new s' →
      ∃ new, s'.past = new ++ s.past ∧ GaveUp f.members new := by
    intro ended new s' hran
    refine ⟨new, hran.past, gaveUp_of_ran hran ?_⟩
    refine hran.unskipped (releaseBounds_interruption? s) ?_
    -- No call is left out: the token is not heeded any more, or nothing sets it.
    rcases h with hcanceled | hspares
    · refine .inl ?_
      rw [releaseBounds, if_pos hcanceled]
    · exact .inr fun m hm opening e hgiving => hgiving.spares (hspares m hm)
  have hrelease : Run.Post.Holds _ (release f env s) := release_courses f s s rfl
  revert hrelease
  rcases release f env s with ⟨x | _ | _, s'⟩
  · rintro ⟨ended, new, hran, -⟩
    exact hgave ended new s' hran
  · rintro ⟨-, -, ended, new, hran⟩
    exact hgave ended new s' hran
  · -- A release of leases does not break off.
    rintro ⟨heq, -⟩
    cases heq

/-- Both leases are given up though the deployment was canceled before. -/
theorem release_gives_canceled :
    let s : Session Unit := { remote := (), cancelAt := some 0 }
    s.isCanceled = true ∧
      ∃ new, (release twoLeased .obliging s).2.past = new ++ [] ∧ GaveUp twoLeased.members new := by
  intro s
  have hcanceled : s.isCanceled = true := rfl
  exact ⟨hcanceled, release_gives twoLeased (.inl hcanceled)⟩

/-- An outside in which giving up the lease of the first machine cancels the deployment. -/
def interrupting : Environment Unit :=
  { Environment.obliging with
    receive := fun c _ st =>
      { remote := st, delay := some 0, cancels := c.machineId? == some "m1",
        answer := (·, Environment.oblige c) } }

/-- The session once the lease of the first machine was given up in it. -/
def interrupted : Session Unit :=
  { remote := (), cancelAt := some 0, readings := 2, past := [.looked 0,
      .answered (.release "m1" "nonce") (.ok ()), .asked (.release "m1" "nonce") 0, .looked 0] }

/-- A lease that is not stale is left to the control plane when the call for another machine
cancels the deployment. -/
theorem release_cut_short :
    ∃ x s', release twoLeased interrupting { remote := () } = (.done x, s') ∧
      ∃ m ∈ twoLeased.members, m.lease.nonce ≠ "" ∧
        (∀ reading time, m.lease.isStaleAt (interrupting.clock reading time) = false) ∧
        .release m.id m.lease.nonce ∉ callsIn s'.past := by
  -- The first call is answered and cancels the deployment; the second is not made.
  have hstart : Run.startAll (releaseBounds (σ := Unit) { remote := () })
      (twoLeased.members.map (·.releasing)) interrupting { remote := () } =
      (.done ([({ machine := { id := "m1" } }, .ok ()),
        ({ machine := { id := "m2" } }, .error (.canceled "lease release" "m2"))].map .finished),
        interrupted) := rfl
  obtain ⟨r, hrelease⟩ := release_of_together (Run.together_run _ hstart)
  refine ⟨_, interrupted, hrelease, leasedMachine "m2", List.mem_cons_of_mem _ List.mem_cons_self,
    by decide, fun _ _ => rfl, ?_⟩
  show Call.release "m2" "nonce" ∉ [Call.release "m1" "nonce"]
  simp

/-! ## What is forgotten -/

/-- What a handle is once it was tried to give its lease up: it has none any more, unless the
grace period cut off the wait for the answer. -/
def leftBy (h : Handle) (c : Course (Handle × Except DeployError Unit)) : Handle :=
  if c.fate.isCutOff then h else { h with lease := {} }

/-- What became of the leases that a fleet was to give up, by the courses of its errands and what
these left in the past. -/
structure Forgets (f : Fleet) (s : Session σ)
    (ended : List (Nat × Course (Handle × Except DeployError Unit))) (giving : List Step)
    (f' : Fleet) (s' : Session σ) : Prop where
  past : s'.past = giving ++ s.past
  precedes : s.Precedes s'
  fanned : Fanned ended f.size giving
  gave : List.Forall₂ Handle.Gave f.members (inPlace ended)
  /-- A member keeps its lease only if it is its own call that was cut off. -/
  members : f'.members = List.zipWith leftBy f.members (inPlace ended)
  /-- Calls are cut off only if the deployment had been canceled before, and no sooner than the
  grace period is over. -/
  cutOff : ∀ c ∈ inPlace ended, c.fate.isCutOff = true →
    s.isCanceled = true ∧ s.now + gracePeriod ≤ s'.now

/-- If an errand runs out of time only after its call was made, its handle keeps the lease just
where the wait for the answer was cut off. -/
theorem eq_leftBy_of_gave {h h' : Handle} {c : Course (Handle × Except DeployError Unit)}
    {r : Except DeployError Unit} (hgave : h.Gave c)
    (hmade : c.fate.reason? = some .timedOut → c.fate.isSkipped = false)
    (hresult : c.fate.result? = some (h', r)) : h' = leftBy h c := by
  cases hgave with
  | unleased hnonce =>
    cases hresult
    rfl
  | stale now hnonce hstale =>
    cases hresult
    rfl
  -- Only a lease that was asked to be given up can be kept.
  | asked now hnonce hstale fate hcall hhandle =>
    have hh' := hhandle _ hresult
    simp only [leftBy, Fate.isCutOff_iff, and_iff_left_of_imp hmade]
    exact hh'

/-- What a release leaves of the leases. -/
theorem release_forgotten (f : Fleet) (s : Session σ) :
    Run.Triple env (· = s) (release f)
      ⟨fun x s' => ∃ ended giving, Forgets f s ended giving x.1 s', fun _ _ => True⟩ := by
  refine (release_courses f s).mono (fun _ hs => hs) ?_ (fun _ _ _ => trivial)
  rintro ⟨f', r⟩ s' ⟨ended, giving, hran, hresults⟩
  -- A deadline in force means that the deployment had been canceled when the release began.
  have hforce : ∀ c ∈ inPlace ended, c.fate.reason? = some .timedOut →
      s.isCanceled = true ∧ s.now + gracePeriod ≤ s'.now := by
    intro c hc hreason
    obtain ⟨place, hplace⟩ := mem_inPlace.mp hc
    obtain ⟨d, hd, hle⟩ := hran.inForce _ hplace _ hreason
    -- There is a deadline only under the grace period.
    unfold releaseBounds at hd
    split at hd
    · obtain rfl := Option.some.inj hd
      exact ⟨‹_›, hle⟩
    · cases hd
  -- Then nothing keeps a call from being made, for the grace period has only begun.
  have hcourses : List.Forall₂ (fun h c => h.Gave c ∧
      (c.fate.reason? = some .timedOut → c.fate.isSkipped = false)) f.members (inPlace ended) := by
    refine forall₂_of_mem_right hran.courses fun h c hc ⟨e, hgiving, hfares⟩ =>
      ⟨hgiving.gave c.fate hfares, fun hreason => ?_⟩
    obtain ⟨place, hplace⟩ := mem_inPlace.mp hc
    refine hran.unskipped (releaseBounds_interruption? s) (.inl ?_) _ hplace
    rw [releaseBounds, if_pos (hforce c hc hreason).1]
  refine ⟨ended, giving, hran.past, hran.precedes, hran.fanned, hcourses.imp fun _ _ h => h.1, ?_,
    fun c hc hcut => hforce c hc (Fate.isCutOff_iff.mp hcut).1⟩
  exact eq_zipWith_of_forall₂ hcourses hresults fun h c h' ⟨hgave, hmade⟩ ⟨r, hresult⟩ =>
    eq_leftBy_of_gave hgave hmade hresult

/-- A member that gave up its lease has none, unless the grace period ran out. -/
theorem Forgets.forall₂ {f f' : Fleet} {giving : List Step}
    {ended : List (Nat × Course (Handle × Except DeployError Unit))}
    (h : Forgets f s ended giving f' s') :
    List.Forall₂ (fun h h' => h' = { h with lease := {} } ∨
      h' = h ∧ s.isCanceled = true ∧ s.now + gracePeriod ≤ s'.now) f.members f'.members := by
  rw [h.members]
  refine forall₂_zipWith h.gave fun m c hc _ => ?_
  unfold leftBy
  split
  · -- Its own call was cut off.
    rename_i hcut
    exact .inr ⟨rfl, h.cutOff c hc hcut⟩
  · exact .inl rfl

/-- What is left of the leases when not all could be taken: those that were taken were given up in
turn. -/
theorem acquire_forgotten (f : Fleet) (term : Nat) (s : Session σ) :
    Run.Triple env (· = s) (acquire term f) (Work.Post.toRun
      ⟨fun _ _ _ => True, fun f' _ s' => ∃ leased s₁ ended giving,
        s.Precedes s₁ ∧ Forgets leased s₁ ended giving f' s', fun _ _ => True⟩) := by
  refine Run.Triple.bind (acquire_courses f term s) (fun results => ?_) (fun _ _ _ => trivial)
  refine Run.Triple.at_session fun s₁ hs₁ => ?_
  obtain ⟨ended, new, hran, -⟩ := hs₁
  split
  · -- All leases were taken, and none is given up.
    exact Run.Triple.pure fun _ _ => trivial
  · refine Run.Triple.bind (release_forgotten _ s₁)
      (fun x => Run.Triple.pure fun s' hs' => ?_) (fun _ _ h => h)
    obtain ⟨ended', giving, hforgets⟩ := hs'
    exact ⟨_, s₁, ended', giving, hran.precedes, hforgets⟩

/-- The members of a fleet whose leases were given up have none, but those whose own call was cut
off by the grace period because the deployment had been canceled before. So it is also when not all
leases could be taken. -/
theorem release_forgets (env : Environment σ) (s : Session σ) (f f' : Fleet) (s' : Session σ) :
    (∀ r, release f env s = (.done (f', r), s') → ∃ ended giving, Forgets f s ended giving f' s') ∧
    ∀ term e, acquire term f env s = (.done (f', .error e), s') → ∃ leased s₁ ended giving,
      s.Precedes s₁ ∧ Forgets leased s₁ ended giving f' s' := by
  refine ⟨fun r hrelease => ?_, fun term e hacquire => ?_⟩
  · have hforgotten : Run.Post.Holds _ (release f env s) := release_forgotten f s s rfl
    rwa [hrelease] at hforgotten
  · have hforgotten : Run.Post.Holds _ (acquire term f env s) := acquire_forgotten f term s s rfl
    rwa [hacquire] at hforgotten

/-- Where every call is answered, a release of two leases ends so. -/
theorem release_forgets_obliging : ∃ f' r s' ended giving,
    release twoLeased .obliging { remote := () } = (.done (f', r), s') ∧
      Forgets twoLeased { remote := () } ended giving f' s' := by
  have hstart : Run.startAll (releaseBounds (σ := Unit) { remote := () })
      (twoLeased.members.map (·.releasing)) .obliging { remote := () } =
      (.done ([({ machine := { id := "m1" } }, .ok ()),
        ({ machine := { id := "m2" } }, .ok ())].map .finished),
        (Run.startAll (releaseBounds { remote := () }) (twoLeased.members.map (·.releasing))
          .obliging { remote := () }).2) := rfl
  obtain ⟨r, hrelease⟩ := release_of_together (Run.together_run _ hstart)
  obtain ⟨ended, giving, hforgets⟩ := (release_forgets .obliging _ twoLeased _ _).1 r hrelease
  exact ⟨_, r, _, ended, giving, hrelease, hforgets⟩

/-- An outside that answers nothing. -/
def silent : Environment Unit :=
  { Environment.obliging with
    receive := fun c _ st =>
      { remote := st, delay := none, answer := (·, Environment.oblige c) } }

/-- A lease is kept when the grace period is over before the call for it is answered. -/
theorem release_out_of_time :
    ∃ f' r s', release ⟨[leasedMachine "m1"]⟩ silent { remote := (), cancelAt := some 0 } =
      (.done (f', r), s') ∧ ∃ h ∈ f'.members, h.lease ≠ {} := by
  let s : Session Unit := { remote := (), cancelAt := some 0 }
  -- The only call is never answered, so its wait lasts until the deadline.
  have htogether : (Run.together (releaseBounds s) [(leasedMachine "m1").releasing] silent s).1 =
      .done [(0, (leasedMachine "m1", .error (.timeout "lease release" "m1")))] := by
    show (Run.finishAll _ _ (List.mergeSort [(0, _)] _) _ _).1 = _
    rw [List.mergeSort_singleton]
    rfl
  obtain ⟨r, hrelease⟩ := release_of_together (f := ⟨[leasedMachine "m1"]⟩)
    (Prod.ext htogether rfl)
  refine ⟨_, r, _, hrelease, leasedMachine "m1", ?_, by decide⟩
  rw [ofResults, inPlace, List.mergeSort_singleton]
  exact List.mem_singleton_self _

end Fleet

end Rollout
