import Rollout.Proofs.Deployment

/-!
# How one machine is brought to the release

What a deployment does in one place of the fleet: which calls change the machine there, what was
answered when it is altered, and what was answered when it has come up.

## Main statements

- `Deployment.changeMember_slot`: a machine is changed by its own calls only, and if that
  succeeds, the change was answered.
- `Deployment.updateMember_slot`: a machine that was brought to the release is finished.
-/

namespace Rollout

variable {σ α : Type} {env : Environment σ} {base mid past : List Step}

/-- Whether a call changes the machines of an app. -/
def Call.IsMutation : Call → Prop
  | .launch _ | .update .. | .destroy .. => True
  | _ => False

/-- No machine was changed since a moment. -/
def Quiet (base past : List Step) : Prop := CallsSince base past fun _ c => ¬ c.IsMutation

/-- The calls that change a machine as a request asks for: an update, or if the request can't be
met by one, the destruction and a launch. -/
inductive Alters (m : Machine) (input : LaunchInput) : Call → Prop where
  | update (nonce : String) (h : input.requiresReplacement = false) :
      Alters m input (.update input nonce)
  | destroy (nonce : String) (h : input.requiresReplacement = true) :
      Alters m input (.destroy m.id nonce)
  | launch (h : input.requiresReplacement = true) :
      Alters m input (.launch { input with id := none })

/-- The calls that change a machine as the request asks for that a resolver makes for it. -/
def ForMachine (r : Resolver) (m : Machine) (c : Call) : Prop :=
  ∃ r' input, r.resolve m = (r', .ok input) ∧ Alters m input c

/-- The answers by which a machine was changed as a request asks for, and is another one now. -/
inductive Altered (m : Machine) (input : LaunchInput) (now : Machine) : List Step → Prop where
  | updated (nonce : String) (h : input.requiresReplacement = false) :
      Altered m input now [.answered (.update input nonce) (.ok now)]
  | replaced (nonce : String) (h : input.requiresReplacement = true) :
      Altered m input now [.answered (.launch { input with id := none }) (.ok now),
        .answered (.destroy m.id nonce) (.ok ())]

/-- The answers by which a machine has come up as far as it is to: not at all if it stays stopped,
else it has started, and is healthy unless that does not matter or there is nothing to check. -/
inductive CameUp (skipHealthChecks : Bool) (input : LaunchInput) (m : Machine) :
    List Step → Prop where
  | stopped (h : input.skipLaunch = true) : CameUp skipHealthChecks input m []
  | unchecked (left : Nat) (h : skipHealthChecks = true ∨ m.config.checks.isEmpty = true) :
      CameUp skipHealthChecks input m [.answered (.wait m .started left) (.ok ())]
  | healthy (left : Nat) (g : Machine) (h : g.health.allPassing = true) :
      CameUp skipHealthChecks input m
        [.answered (.get m.id) (.ok g), .answered (.wait m .started left) (.ok ())]

/-- No machine was changed between two moments but one, and as its request asks for. -/
def Own (m : Machine) (input : LaunchInput) (base past : List Step) : Prop :=
  CallsSince base past fun _ c => c.IsMutation → Alters m input c

/-- Calls that change nothing but the machine, as its request asks for, are its own. -/
theorem Own.adds {φ : Call → Prop} {m : Machine} {input : LaunchInput} (h : Own m input base mid)
    (hadds : Adds φ mid past) (hφ : ∀ c, φ c → c.IsMutation → Alters m input c) :
    Own m input base past :=
  CallsSince.trans h (hadds.callsSince.mono fun _ c _ _ => hφ c)

/-- Whether a machine was changed and has come up between two moments, with no calls that change
machines but its own. -/
structure Finished (skipHealthChecks : Bool) (m : Machine) (input : LaunchInput)
    (base past : List Step) : Prop where
  seen : ∃ now altered cameUp, Altered m input now altered ∧
    CameUp skipHealthChecks input now cameUp ∧ Seen base (cameUp ++ altered) past
  own : Own m input base past

namespace Deployment

variable {d₀ d : Deployment} {place : Nat} {r : Resolver} {m now : Machine}
variable {input : LaunchInput} {steps : List Step}

/-- A deployment that has another machine in one place and went on resolving. -/
structure Placed (d₀ : Deployment) (place : Nat) (r : Resolver) (now : Machine)
    (d : Deployment) : Prop where
  resolver : d.resolver = r
  strategy : d.strategy = d₀.strategy
  skipHealthChecks : d.skipHealthChecks = d₀.skipHealthChecks
  machines : d.fleet.machines = d₀.fleet.machines.set place now

/-- The member in the place has the machine that is there. -/
theorem Placed.machine_eq (h : Placed d₀ place r now d) {handle : Handle}
    (hh : d.fleet.members[place]? = some handle) : handle.machine = now := by
  have hmachine := Fleet.getElem?_machines hh
  rw [h.machines] at hmachine
  have hlt : place < (d₀.fleet.machines.set place now).length :=
    (List.getElem?_eq_some_iff.mp hmachine).1
  -- There is a member, so the place is one of the fleet.
  rw [List.length_set] at hlt
  rw [List.getElem?_set_self hlt] at hmachine
  exact (Option.some.inj hmachine).symm

/-- Another handle in the place brings its machine there. -/
theorem Placed.set (h : Placed d₀ place r now d) (handle : Handle) :
    Placed d₀ place r handle.machine { d with fleet := d.fleet.set place handle } := by
  refine ⟨h.resolver, h.strategy, h.skipHealthChecks, ?_⟩
  rw [Fleet.machines_set, h.machines, List.set_set]

/-- A deployment at one place: with a machine there, steps that were seen, and no calls that
change machines but those for the place. -/
structure Slot (d₀ : Deployment) (place : Nat) (r : Resolver) (m : Machine) (input : LaunchInput)
    (base : List Step) (now : Machine) (steps : List Step) (d : Deployment)
    (past : List Step) : Prop where
  placed : Placed d₀ place r now d
  seen : Seen base steps past
  own : Own m input base past

/-- Work on the member of a place: it makes only calls of the place, and what it has seen when it
succeeds comes after what was seen before. -/
theorem onMember_slot {x : Work σ Handle Unit} {φ : Call → Prop}
    {S : Machine → Machine → List Step → Prop}
    (hcalls : ∀ h : Handle, h.machine = now → (x h).Calls φ)
    (hφ : ∀ c, φ c → c.IsMutation → Alters m input c)
    (hx : ∀ (h : Handle) p, h.machine = now → Run.Triple env (·.past = p) (x h) (Work.Post.toRun
      ⟨fun h' _ s => ∃ new, S now h'.machine new ∧ Seen p new s.past, fun _ _ _ => True,
        fun _ _ => True⟩)) :
    Work.Triple env (fun d s => Slot d₀ place r m input base now steps d s.past)
      (onMember place x)
      ⟨fun d _ s => ∃ now' new, S now now' new ∧
          Slot d₀ place r m input base now' (new ++ steps) d s.past,
        fun _ _ s => Own m input base s.past, fun _ s => Own m input base s.past⟩ := by
  refine onFleet_triple fun d => Fleet.member_triple (fun _ s hs => hs.own) fun h hh =>
    Run.Triple.of_past fun p hslot => ?_
  have hnow : h.machine = now := hslot.placed.machine_eq hh
  -- However the work ends, its calls are the place's own.
  have hown : ∀ p', Adds φ p p' → Own m input base p' :=
    fun p' hadds => Own.adds hslot.own hadds hφ
  refine (((hcalls h hnow).triple_at p).and (hx h p hnow)).mono (fun s hs => ⟨hs, hs⟩) ?_
    (fun _ s hs => hown s.past hs.1)
  rintro ⟨h', e | _⟩ s ⟨hadds, hs⟩
  · exact hown s.past hadds
  · obtain ⟨new, hnew, hseen⟩ := hs
    exact ⟨h'.machine, new, hnew, hslot.placed.set h', hslot.seen.trans hseen, hown s.past hadds⟩

/-! ## Changing the machine -/

/-- A machine that is destroyed for its request is destroyed by a call of its own. -/
theorem destroy_slot (hreplace : input.requiresReplacement = true) :
    Work.Triple env (fun d s => Slot d₀ place r m input base m [] d s.past)
      (onMember place Handle.destroy)
      ⟨fun d _ s => ∃ now' nonce, Slot d₀ place r m input base now'
          [.answered (.destroy m.id nonce) (.ok ())] d s.past,
        fun _ _ s => Own m input base s.past, fun _ s => Own m input base s.past⟩ := by
  refine (onMember_slot (φ := fun c => ∃ nonce, c = .destroy m.id nonce)
    (S := fun _ _ new => ∃ nonce, new = [.answered (.destroy m.id nonce) (.ok ())]) ?_ ?_ ?_).mono
    (fun _ _ hs => hs) ?_ (fun _ _ _ hs => hs) (fun _ _ hs => hs)
  · rintro h rfl
    exact Handle.destroy_calls h
  · rintro c ⟨nonce, rfl⟩ -
    exact .destroy nonce hreplace
  · -- If it succeeds, the destruction was answered.
    rintro h p rfl
    refine (Handle.destroy_triple h p).mono (fun _ hs => hs) ?_ (fun _ _ _ => trivial)
    rintro ⟨h', e | _⟩ s hs
    · trivial
    · obtain ⟨-, nonce, hseen⟩ := hs
      exact ⟨_, ⟨nonce, rfl⟩, hseen⟩
  · rintro d - s ⟨now', new, ⟨nonce, rfl⟩, hslot⟩
    exact ⟨now', nonce, hslot⟩

/-- The launch for a request of which the machine is destroyed is a call of its own. -/
theorem launch_slot {what name : String} (hreplace : input.requiresReplacement = true) :
    Work.Triple env (fun d s => Slot d₀ place r m input base now steps d s.past)
      (Work.call (.launch { input with id := none }) what name)
      ⟨fun d m' s => Slot d₀ place r m input base now
          (.answered (.launch { input with id := none }) (.ok m') :: steps) d s.past,
        fun _ _ s => Own m input base s.past, fun _ s => Own m input base s.past⟩ := by
  -- The launch is a call of the place from when it is made.
  have hasked : ∀ p time, Own m input base p →
      Own m input base (.asked (.launch { input with id := none }) time :: p) :=
    fun p time hp => CallsSince.asked hp time fun _ => .launch hreplace
  refine Work.Triple.call (K := fun d p => Slot d₀ place r m input base now steps d p)
    (R := fun d m' p => Slot d₀ place r m input base now
      (.answered (.launch { input with id := none }) (.ok m') :: steps) d p)
    (E := fun _ _ p => Own m input base p) (H := Own m input base) ?_ ?_ ?_ ?_ ?_
  · exact fun _ _ _ hp => hp.own
  · exact fun _ _ time p hp => hasked p time hp.own
  · exact fun _ _ time p hp _ => (hasked p time hp.own).skip rfl
  · exact fun m' _ time p hp _ =>
      ⟨hp.placed, (hp.seen.cons _).take _, (hasked p time hp.own).skip rfl⟩
  · exact fun _ time p hp => hasked p time hp.own

/-- A machine is changed by its own calls only, and if that succeeds, the change was answered. -/
theorem changeMember_slot :
    Work.Triple env (fun d s => Slot d₀ place r m input base m [] d s.past)
      (changeMember place m input)
      ⟨fun d _ s => ∃ now altered, Altered m input now altered ∧
          Slot d₀ place r m input base now altered d s.past,
        fun _ _ s => Own m input base s.past, fun _ s => Own m input base s.past⟩ := by
  unfold changeMember
  cases hreplace : input.requiresReplacement with
  | true =>
    refine Work.Triple.bind (destroy_slot hreplace) (fun _ => ?_) (fun _ _ _ hs => hs)
      (fun _ _ hs => hs)
    -- The machine is gone when its successor is launched.
    refine Work.Triple.of_exists fun gone => Work.Triple.of_exists fun nonce => ?_
    refine Work.Triple.bind (launch_slot hreplace) (fun machine => ?_) (fun _ _ _ hs => hs)
      (fun _ _ hs => hs)
    refine onFleet_triple fun d => Run.Triple.pure fun s hs => ?_
    exact ⟨machine, _, .replaced nonce hreplace, hs.placed.set { machine := machine }, hs.seen,
      hs.own⟩
  | false =>
    -- A machine that need not be replaced is updated.
    refine (onMember_slot (φ := fun c => ∃ nonce, c = .update input nonce)
      (S := fun _ now' new => ∃ nonce, new = [.answered (.update input nonce) (.ok now')])
      ?_ ?_ ?_).mono (fun _ _ hs => hs) ?_ (fun _ _ _ hs => hs) (fun _ _ hs => hs)
    · exact fun h _ => Handle.update_calls h input
    · rintro c ⟨nonce, rfl⟩ -
      exact .update nonce hreplace
    · rintro h p -
      refine (Handle.update_triple h p input).mono (fun _ hs => hs) ?_ (fun _ _ _ => trivial)
      rintro ⟨h', e | _⟩ s hs
      · trivial
      · obtain ⟨now, nonce, rfl, -, hseen⟩ := hs
        exact ⟨_, ⟨nonce, rfl⟩, hseen⟩
    · rintro d - s ⟨now, new, ⟨nonce, rfl⟩, hslot⟩
      exact ⟨now, _, .updated nonce hreplace, hslot⟩

/-! ## Waiting for the machine -/

/-- A machine that is waited for has come up. -/
theorem waitFor_cameUp (input : LaunchInput) (hwaits : d.strategy ≠ .immediate) (h : Handle)
    (p : List Step) :
    Work.Triple env (fun h' s => h' = h ∧ s.past = p) (waitFor d)
      ⟨fun _ _ s => ∃ new, CameUp d.skipHealthChecks input h.machine new ∧ Seen p new s.past,
        fun _ _ _ => True, fun _ _ => True⟩ := by
  have hstrategy : d.strategy.waitsForMachines = true := by
    unfold Strategy.waitsForMachines
    simpa using hwaits
  unfold waitFor
  rw [if_pos hstrategy]
  -- The machine has started first, in any case.
  refine Work.Triple.bind (R := ⟨fun h' _ s => h' = h ∧
    ∃ left, Seen p [.answered (.wait h.machine .started left) (.ok ())] s.past,
    fun _ _ _ => True, fun _ _ => True⟩) (fun h' => ?_) (fun _ => ?_) (fun _ _ _ _ => trivial)
    (fun _ _ _ => trivial)
  · refine Run.Triple.of_and fun heq => ?_
    subst heq
    refine (Handle.waitForState_triple h' _ p .started).mono (fun _ hs => hs) ?_
      (fun _ _ _ => trivial)
    rintro ⟨h'', e | _⟩ s hs
    · trivial
    · exact hs
  · cases hskip : d.skipHealthChecks with
    | true =>
      refine Work.Triple.pure fun h' s hs => ?_
      obtain ⟨-, left, hseen⟩ := hs
      exact ⟨_, .unchecked left (.inl rfl), hseen⟩
    | false =>
      refine fun h' => Run.Triple.of_past (K := fun p' => h' = h ∧
        ∃ left, Seen p [.answered (.wait h.machine .started left) (.ok ())] p') fun p' hp' => ?_
      -- Then it is fetched until it is healthy.
      obtain ⟨rfl, left, hstarted⟩ := hp'
      refine (((Handle.waitForHealth_calls (φ := (· = .get h'.id)) h' _ rfl).triple_at p').and
        (Handle.waitForHealth_triple h' _ p')).mono (fun _ hs => ⟨hs, hs⟩) ?_ (fun _ _ _ => trivial)
      rintro ⟨h'', e | _⟩ s ⟨hadds, hs⟩
      · trivial
      · -- Either there was nothing to check, and no call, or a healthy machine was fetched.
        rcases hs with ⟨-, hnone⟩ | ⟨g, -, -, hpassing, hseen⟩
        · exact ⟨_, .unchecked left (.inr hnone), hstarted.later hadds.suffix⟩
        · exact ⟨_, .healthy left g hpassing, hstarted.trans hseen⟩

/-- A machine in a place that is waited for has come up. -/
theorem awaitMember_slot (hwaits : d₀.strategy ≠ .immediate) :
    Work.Triple env (fun d s => Slot d₀ place r m input base now steps d s.past)
      (awaitMember place)
      ⟨fun d _ s => ∃ now' cameUp, CameUp d₀.skipHealthChecks input now cameUp ∧
          Slot d₀ place r m input base now' (cameUp ++ steps) d s.past,
        fun _ _ s => Own m input base s.past, fun _ s => Own m input base s.past⟩ := by
  refine Work.Triple.value_bind fun d => ?_
  refine Work.Triple.extract (p := d.strategy ≠ .immediate ∧
    d.skipHealthChecks = d₀.skipHealthChecks)
    (R := fun d' s => Slot d₀ place r m input base now steps d' s.past) ?_ fun hd => ?_
  · rintro _ s ⟨rfl, hs⟩
    exact ⟨⟨hs.placed.strategy ▸ hwaits, hs.placed.skipHealthChecks⟩, hs⟩
  · -- No machine is changed while one is waited for.
    have hquiet : (waitFor (σ := σ) d).Calls fun c => ¬ c.IsMutation :=
      waitFor_calls d (fun _ _ _ => id) fun _ => id
    refine (onMember_slot (S := fun before _ new => CameUp d₀.skipHealthChecks input before new)
      (fun h _ => hquiet h) (fun c hc hmutation => absurd hmutation hc) ?_).mono
      (fun _ _ hs => hs) (fun _ _ _ hs => hs) (fun _ _ _ hs => hs) (fun _ _ hs => hs)
    rintro h p rfl
    rw [← hd.2]
    refine (waitFor_cameUp input hd.1 h p h).mono (fun _ hs => ⟨rfl, hs⟩) ?_ (fun _ _ _ => trivial)
    rintro ⟨h', e | _⟩ s hs
    · trivial
    · exact hs

/-! ## The whole place -/

/-- The request for a machine is resolved without a call. -/
theorem resolve_slot (hmachine : d₀.fleet.machines[place]? = some m) :
    Work.Triple env (fun d s => d = d₀ ∧ s.past = base) (resolve (·.resolve m))
      ⟨fun d input s => ∃ r', d₀.resolver.resolve m = (r', .ok input) ∧
          Slot d₀ place r' m input base m [] d s.past,
        fun _ _ s => s.past = base, fun _ _ => False⟩ := by
  refine (resolve_triple _).mono (fun _ _ hs => hs) ?_ ?_ (fun _ _ h => h)
  · rintro d input s ⟨d₁, ⟨rfl, rfl⟩, rfl, hinput⟩
    have hself : d₁.fleet.machines.set place m = d₁.fleet.machines := by
      obtain ⟨hlt, rfl⟩ := List.getElem?_eq_some_iff.mp hmachine
      exact List.set_getElem_self hlt
    exact ⟨(d₁.resolver.resolve m).1, Prod.ext rfl hinput, ⟨rfl, rfl, rfl, hself.symm⟩, Seen.nil,
      CallsSince.refl⟩
  · rintro d e s ⟨d₁, ⟨-, hpast⟩, -, -⟩
    exact hpast

/-- A machine that was brought to the release is finished. One that could not be was changed by
its own calls at most. -/
theorem updateMember_slot (hmachine : d₀.fleet.machines[place]? = some m)
    (hwaits : d₀.strategy ≠ .immediate) :
    Work.Triple env (fun d s => d = d₀ ∧ s.past = base) (updateMember place)
      ⟨fun d _ s => ∃ r' input now, d₀.resolver.resolve m = (r', .ok input) ∧
          Placed d₀ place r' now d ∧ Finished d₀.skipHealthChecks m input base s.past,
        fun _ _ s => CallsSince base s.past fun _ c => c.IsMutation → ForMachine d₀.resolver m c,
        fun _ s => CallsSince base s.past fun _ c =>
          c.IsMutation → ForMachine d₀.resolver m c⟩ := by
  -- What was done for the one request was done for a request that the resolver has.
  have hown : ∀ {r' input past}, d₀.resolver.resolve m = (r', .ok input) → Own m input base past →
      CallsSince base past fun _ c => c.IsMutation → ForMachine d₀.resolver m c := by
    intro r' input past hinput hown
    exact hown.mono fun _ c _ _ hc hmutation => ⟨r', input, hinput, hc hmutation⟩
  -- Up to the request nothing was called.
  have hnone : ∀ s : Session σ, s.past = base →
      CallsSince base s.past fun _ c => c.IsMutation → ForMachine d₀.resolver m c := by
    intro s hpast
    rw [hpast]
    exact CallsSince.refl
  refine Work.Triple.bind (R := ⟨fun d orig s => d = d₀ ∧ s.past = base ∧ orig = m,
    fun _ _ s => s.past = base, fun _ _ => False⟩) ((read_triple place _).mono (fun _ _ hs => hs)
      ?_ (fun _ _ _ hs => hs.2) (fun _ _ h => h)) (fun orig => ?_)
    (fun _ _ s hpast => hnone s hpast) (fun _ _ h => h.elim)
  · rintro d orig s ⟨⟨rfl, hpast⟩, h, hh, rfl⟩
    have hread := Fleet.getElem?_machines hh
    rw [hmachine] at hread
    exact ⟨rfl, hpast, (Option.some.inj hread).symm⟩
  refine Work.Triple.extract (p := orig = m) (R := fun d s => d = d₀ ∧ s.past = base)
    (fun d s hs => ⟨hs.2.2, hs.1, hs.2.1⟩) fun horig => ?_
  subst horig
  refine Work.Triple.bind (resolve_slot hmachine) (fun input => ?_)
    (fun _ _ s hpast => hnone s hpast) (fun _ _ h => h.elim)
  -- From here on all calls that change machines are those of one request.
  refine Work.Triple.of_exists fun r' => Work.Triple.of_and fun hinput => ?_
  refine Work.Triple.bind changeMember_slot (fun _ => ?_) (fun _ _ _ hs => hown hinput hs)
    (fun _ _ hs => hown hinput hs)
  refine Work.Triple.of_exists fun now => Work.Triple.of_exists fun altered =>
    Work.Triple.of_and fun haltered => ?_
  -- A machine that stays stopped is not waited for.
  cases hskip : input.skipLaunch with
  | true =>
    refine Work.Triple.pure fun d s hs => ?_
    exact ⟨r', input, now, hinput, hs.placed, ⟨now, altered, [], haltered, .stopped hskip, hs.seen⟩,
      hs.own⟩
  | false =>
    refine (awaitMember_slot hwaits).mono (fun _ _ hs => hs) ?_ (fun _ _ _ hs => hown hinput hs)
      (fun _ _ hs => hown hinput hs)
    rintro d - s ⟨now', cameUp, hcameUp, hslot⟩
    exact ⟨r', input, now', hinput, hslot.placed, ⟨now, altered, cameUp, haltered, hcameUp,
      hslot.seen⟩, hslot.own⟩

end Deployment

end Rollout
