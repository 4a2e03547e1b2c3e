import Rollout.Proofs.AllOrNone
import Rollout.Proofs.RollingGate
import Rollout.Proofs.Turns

/-!
# The isolation of failures

While the leases last and nothing is canceled, an immediate deployment takes turn after turn once it
has its leases, gives them up and succeeds. A failure of one machine is seen by none of the others.

## Main statements

- `Deployment.deploy_isolates`: every member has its turn, and for all members but one the same is
  asked in any other run that answers the same for them.
-/

namespace Rollout.Deployment

variable {σ : Type} {env : Environment σ} {s s' : Session σ} {p base : List Step}
variable {place : Nat} {r : Resolver} {rest members : List Handle} {d : Deployment}

/-! ## The run of an immediate deployment -/

/-- The deployment that has its leases, about to work on the first member. -/
theorem Reaches.leased_eq {leased : Deployment} {s₂ : Session σ}
    (h : Reaches env d s 0 leased s₂) :
    ∃ c s₁ f, leased = { d with command := c, fleet := f } ∧
      Fleet.acquire d.leaseTimeout d.fleet env s₁ = (.done (f, .ok ()), s₂) := by
  cases h with
  | leased hcommand hleased =>
    rename_i d₁ s₁
    have hvalue : Run.Post.Holds _ (runCommand d env s) := runCommand_value d d s rfl
    rw [hcommand] at hvalue
    obtain ⟨c, rfl⟩ := hvalue
    have hrun : Run.andThen (Fleet.acquire d.leaseTimeout d.fleet) _ env s₁ = _ := hleased
    unfold Run.andThen at hrun
    rcases hacquire : Fleet.acquire d.leaseTimeout d.fleet env s₁ with ⟨⟨f, r⟩ | _ | _, s'⟩ <;>
      rw [hacquire] at hrun <;> cases hrun
    exact ⟨c, s₁, f, rfl, hacquire⟩

/-- What is left to do once the leases are taken heeds the cancellation. -/
theorem finish_heeds (places : List Nat) :
    (finish (σ := σ) places).Heeds Fleet.gracePeriod Fleet.gracePeriod :=
  ((updateMembers_heeds places).attempt.mono (Nat.le_refl _) (Nat.zero_le _)).bind release_heeds

/-- Giving up the leases makes no other calls. It comes to an end if all calls are answered. -/
theorem release_adds (hanswers : env.Answers) :
    Work.Triple env (fun _ s => s.past = p) (onFleet Fleet.release).attempt
      ⟨fun _ _ s => Adds (fun c => ∃ id nonce, c = .release id nonce) p s.past,
        fun _ _ _ => False, fun _ _ => False⟩ := by
  refine Work.Triple.attempt (onFleet_triple fun d => ?_)
  -- A release ends where every call is answered.
  have hends : Run.Triple env (fun _ => True) (Fleet.release d.fleet)
      ⟨fun _ _ => True, fun _ _ => False⟩ :=
    Run.Triple.at_session fun s _ => (Fleet.release_courses d.fleet s).mono (fun _ hs => hs)
      (fun _ _ _ => trivial) (fun _ _ hs => hs.2.1 hanswers)
  refine (((Fleet.release_run_calls d.fleet).triple_at p).and hends).mono
    (fun _ hs => ⟨hs, trivial⟩) ?_ (fun _ _ hs => hs.2)
  have hreleases : ∀ c, d.fleet.Releases c → ∃ id nonce, c = .release id nonce := by
    rintro c ⟨m, -, nonce, hc⟩
    exact ⟨m.id, nonce, hc⟩
  rintro ⟨f', e | _⟩ s ⟨hadds, -⟩ <;> exact hadds.mono hreleases

/-- When the members have had their turns, the leases are given up, and nothing failed. -/
theorem finish_turns (hanswers : env.Answers) (hmem : ∀ h ∈ rest, h ∈ members)
    (hbase : base <:+ p) :
    Work.Triple env (fun d s => At place r rest d ∧ s.past = p)
      (finish (List.range' place rest.length))
      (Work.Post.given ⟨fun _ _ s => ∃ turns, Turns r rest turns ∧
          Adds (fun c => ∃ id nonce, c = .release id nonce) (turns.reverse.flatten ++ p) s.past,
        fun _ _ _ => False, fun _ _ => False⟩ (Calm base members)) := by
  refine Work.Triple.attempt_bind (updateMembers_turns hanswers hmem hbase) (fun _ => ?_)
    (fun e => Work.Triple.given Calm.earlier (release_heeds _).ages fun _ _ h => h.elim)
    (fun _ _ h => h)
  -- Where it was calm to the end, it was calm as the turns were taken.
  refine Work.Triple.given Calm.earlier (release_heeds _).ages
    (Work.Triple.of_exists fun turns => ?_)
  refine Work.Triple.of_and fun hturns => ?_
  exact Work.Triple.bind (release_adds hanswers)
    (fun _ => Work.Triple.pure fun _ s hs _ => ⟨turns, hturns, hs⟩) (fun _ _ _ h => h.elim)
    (fun _ _ h => h.elim)

/-- Whether a deployment goes on undisturbed once it has its leases: it is not canceled, all calls
are answered, and whenever the clock is read, no lease has expired. -/
structure Undisturbed (env : Environment σ) (d : Deployment) (s : Session σ) (leased : Deployment)
    (s₂ : Session σ) : Prop where
  reaches : Reaches env d s 0 leased s₂
  answers : env.Answers
  uncanceled : (deploy d env s).2.isCanceled = false
  unexpired : ∀ now, Seen s₂.past [.looked now] (deploy d env s).2.past →
    ∀ h ∈ leased.fleet.members, h.lease.expiresAt.any (now < ·.millis) = true

/-- How a deployment goes on that has its leases when every member has its turn: it succeeds, and
after the turns the leases are given up. -/
structure TakesTurns (env : Environment σ) (d : Deployment) (s : Session σ) (leased : Deployment)
    (s₂ : Session σ) (turns : List (List Step)) : Prop where
  succeeds : ∃ d', (deploy d env s).1 = .done (d', .ok ())
  taken : Turns leased.resolver leased.fleet.members turns
  past : Adds (fun c => ∃ id nonce, c = .release id nonce) (turns.reverse.flatten ++ s₂.past)
    (deploy d env s).2.past

variable {leased : Deployment} {s₂ : Session σ}

/-- What is left to do of an undisturbed deployment, and that it is calm while it is done. -/
theorem Undisturbed.calm (h : Undisturbed env d s leased s₂) (hfleet : d.fleet.machines ≠ []) :
    deploy d env s = finish (List.range' 0 leased.fleet.members.length) leased env s₂ ∧
      Calm s₂.past leased.fleet.members (deploy d env s).2 := by
  obtain ⟨c, s₁, f, rfl, hacquire⟩ := h.reaches.leased_eq
  have hmachines : Run.Post.Holds _ (Fleet.acquire d.leaseTimeout d.fleet env s₁) :=
    Fleet.acquire_calls (f := d.fleet) d.leaseTimeout s₁.past s₁ rfl
  rw [hacquire] at hmachines
  -- Taking the leases changes no machine, so there are as many places.
  have hlength : d.fleet.machines.length = f.members.length := by
    rw [← hmachines.1, Fleet.machines, List.length_map]
  have hrun := h.reaches.run (Nat.zero_le _) hfleet
  rw [Nat.sub_zero, hlength] at hrun
  have hprecedes : s₂.Precedes (deploy d env s).2 := by
    rw [hrun]
    exact (finish_heeds _).ages _ env s₂
  -- All members have a lease, so a lease that has not expired is held.
  have hnonce := Fleet.nonce_ne_of_acquire hacquire (hprecedes.isCanceled_eq_false h.uncanceled)
  refine ⟨hrun, h.uncanceled, fun now hnow m hm => ?_⟩
  rw [Lease.isHeldAt, h.unexpired now hnow m hm, Bool.and_true, bne_iff_ne]
  exact hnonce m hm

/-- An immediate deployment that is undisturbed succeeds, and every member has its turn. -/
theorem deploy_takesTurns (hstrategy : d.strategy = .immediate) (hfleet : d.fleet.machines ≠ [])
    (h : Undisturbed env d s leased s₂) : ∃ turns, TakesTurns env d s leased s₂ turns := by
  obtain ⟨hrun, hcalm⟩ := h.calm hfleet
  have hat : At 0 leased.resolver leased.fleet.members leased := by
    obtain ⟨c, s₁, f, rfl, -⟩ := h.reaches.leased_eq
    exact ⟨hstrategy, rfl, rfl⟩
  have hbase : s₂.past <:+ s₂.past := List.suffix_rfl
  have hfinish := finish_turns h.answers (fun _ hm => hm) hbase leased s₂ ⟨hat, rfl⟩
  rw [← hrun] at hfinish
  revert hfinish hcalm
  rcases hdeploy : deploy d env s with ⟨⟨d', e | _⟩ | _ | _, s'⟩
  · -- A calm run does not fail.
    exact fun hcalm hfinish => (hfinish hcalm).elim
  · intro hcalm hfinish
    obtain ⟨turns, hturns, hadds⟩ := hfinish hcalm
    refine ⟨turns, ⟨d', by rw [hdeploy]⟩, hturns, ?_⟩
    rw [hdeploy]
    exact hadds
  · exact fun hcalm hfinish => (hfinish hcalm).elim
  · exact fun hcalm hfinish => (hfinish hcalm).elim

/-- An immediate deployment that is undisturbed succeeds, and every member has its turn. In
another run, with any outside, the same is asked for all members but one if the answers for these
are the same. -/
theorem deploy_isolates (hstrategy : d.strategy = .immediate) (hfleet : d.fleet.machines ≠ [])
    (h : Undisturbed env d s leased s₂) :
    ∃ turns, TakesTurns env d s leased s₂ turns ∧
      ∀ {σ' : Type} (env' : Environment σ') s' s₂' turns',
        TakesTurns env' d s' leased s₂' turns' →
        ∀ place, AlikeBut place turns turns' →
          (turns.eraseIdx place).map callsIn = (turns'.eraseIdx place).map callsIn := by
  obtain ⟨turns, htakes⟩ := deploy_takesTurns hstrategy hfleet h
  refine ⟨turns, htakes, fun env' s' s₂' turns' htakes' place halike => ?_⟩
  exact htakes.taken.eraseIdx_callsIn htakes'.taken halike

/-- An immediate deployment of two machines. -/
def immediate : Deployment := assemble {} {} .immediate twoMachines {} {}

/-- The same deployment with its leases. -/
def immediateLeased : Deployment :=
  { immediate with fleet := ⟨[Fleet.leasedMachine "web", Fleet.leasedMachine "worker"]⟩ }

/-- An outside that refuses to update the first machine. -/
def refusing : Environment Unit :=
  { Environment.obliging with
    receive := fun c _ st =>
      { remote := st, delay := some 0
        answer := (·, match c with
          | .update { id := some "web", .. } _ => .error (.transport "refused")
          | c => Environment.oblige c) } }

/-- Whether a session is not canceled, and the clock was always read before a time. -/
def EndsBy (time : Int) (s : Session σ) : Bool :=
  !s.isCanceled && s.past.all fun step => match step with
    | .looked now => now < time
    | _ => true

/-- What is left to do ends when the leases are given up. -/
theorem finish_of_release {places : List Nat} {result : Except DeployError Unit}
    {x : Fleet × Except DeployError Unit} {s₃ : Session σ} {d' : Deployment}
    (hupdate : updateMembers places d env s = (.done (d', result), s'))
    (hrelease : Fleet.release d'.fleet env s' = (.done x, s₃)) :
    (finish places d env s).2 = s₃ := by
  have hrun : finish places d env s = ((onFleet Fleet.release).attempt >>= fun _ =>
    Work.ofExcept result) d' env s' := Work.bind_run (Work.attempt_run hupdate)
  have hgiven : onFleet Fleet.release d' env s' =
      (.done ({ d' with fleet := x.1 }, x.2), s₃) := by
    show Run.andThen (Fleet.release d'.fleet) _ env s' = _
    rw [Run.andThen, hrelease]
    rfl
  rw [hrun, Work.bind_run (Work.attempt_run hgiven)]
  cases result <;> rfl

/-- Whether the rest of a deployment of two members is over by a time, if the answers come with the
calls. -/
def FinishesBy (time : Int) (env : Environment σ) (places : List Nat) (d : Deployment)
    (s : Session σ) : Bool :=
  match updateMembers places d env s with
  | (.done (d', _), s') =>
    match Run.startAll (Fleet.releaseBounds s') (d'.fleet.members.map (·.releasing)) env s' with
    | (.done [.finished _, .finished _], s'') => EndsBy time s''
    | _ => false
  | _ => false

/-- What is over by a time without a wait is over by it. -/
theorem endsBy_of_finishesBy {time : Int} {places : List Nat}
    (h : FinishesBy time env places d s = true) :
    EndsBy time (finish places d env s).2 = true := by
  unfold FinishesBy at h
  split at h
  · rename_i d' result s' hupdate
    split at h
    · rename_i a b s'' hrelease
      obtain ⟨r, hrelease⟩ := Fleet.release_of_together (Run.together_run [a, b] hrelease)
      rw [finish_of_release hupdate hrelease]
      exact h
    · cases h
  · cases h

/-- The deployment is undisturbed though an update is refused. -/
theorem immediate_undisturbed : ∃ s₂,
    Undisturbed refusing immediate { remote := () } immediateLeased s₂ := by
  let s : Session Unit := { remote := () }
  let s₂ := (Run.startAll {} (immediate.fleet.members.map (·.acquiring immediate.leaseTimeout))
    refusing s).2
  have hcommand : runCommand immediate refusing s = (.done (immediate, .ok ()), s) := rfl
  have hstart : Run.startAll {} (immediate.fleet.members.map
      (·.acquiring immediate.leaseTimeout)) refusing s =
      (.done ([(Fleet.leasedMachine "web", .ok ()), (Fleet.leasedMachine "worker", .ok ())].map
        .finished), s₂) := rfl
  have hleased : onFleet (Fleet.acquire immediate.leaseTimeout) immediate refusing s =
      (.done (immediateLeased, .ok ()), s₂) := by
    show Run.andThen (Fleet.acquire immediate.leaseTimeout immediate.fleet) _ refusing s = _
    rw [Run.andThen, Fleet.acquire_of_together (Run.together_run _ hstart) rfl, Fleet.ofResults,
      inPlace_mapIdx]
    rfl
  have hreaches : Reaches refusing immediate s 0 immediateLeased s₂ := .leased hcommand hleased
  -- The clock stands still, and the leases last a minute.
  have hend : EndsBy 60000 (deploy immediate refusing s).2 = true := by
    rw [hreaches.run (Nat.zero_le _) (List.cons_ne_nil _ _)]
    exact endsBy_of_finishesBy (by decide +kernel)
  rw [EndsBy, Bool.and_eq_true, Bool.not_eq_true', List.all_eq_true] at hend
  refine ⟨s₂, hreaches, fun _ _ _ => rfl, hend.1, fun now hnow m hm => ?_⟩
  obtain ⟨new, hpast, hnow⟩ := hnow
  have hearly : now < 60000 := by
    have h := hend.2 (.looked now)
      (hpast ▸ List.mem_append_left _ (hnow.subset (List.mem_singleton_self _)))
    exact of_decide_eq_true h
  have hlease : m.lease.expiresAt = some { millis := 60000 } := by
    rcases List.mem_cons.mp hm with rfl | hm
    · rfl
    · rw [List.mem_singleton.mp hm]
      rfl
  rw [hlease]
  exact decide_eq_true hearly

/-- The machine whose update is refused does not keep the other one from its turn. -/
theorem deploy_isolates_refusing :
    immediate.strategy = .immediate ∧ immediate.fleet.machines ≠ [] ∧
    ∃ s₂, Undisturbed refusing immediate { remote := () } immediateLeased s₂ ∧
    ∃ turns, TakesTurns refusing immediate { remote := () } immediateLeased s₂ turns ∧
      ∀ {σ' : Type} (env' : Environment σ') s' s₂' turns',
        TakesTurns env' immediate s' immediateLeased s₂' turns' →
        ∀ place, AlikeBut place turns turns' →
          (turns.eraseIdx place).map callsIn = (turns'.eraseIdx place).map callsIn := by
  have hfleet : immediate.fleet.machines ≠ [] := List.cons_ne_nil _ _
  obtain ⟨s₂, hundisturbed⟩ := immediate_undisturbed
  exact ⟨rfl, hfleet, s₂, hundisturbed, deploy_isolates rfl hfleet hundisturbed⟩

end Rollout.Deployment
