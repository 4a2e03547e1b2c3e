import Rollout.Proofs.Canceling
import Rollout.Proofs.Courses
import Rollout.Proofs.Deployment

/-!
# Turns

Under the immediate strategy an update of members goes on past failures: every member has its turn,
whatever became of those before it. What is asked of the control plane in a turn depends on the
machine, on its lease, on the volumes that are left and on the answers in the turn itself.

## Main statements

- `Resolver.resolve_error`: a request that can't be resolved is a matter of the configuration.
- `Turns.eraseIdx_callsIn`: what becomes of one member changes nothing in what is asked for others.
- `Deployment.updateMembers_turns`: an update of members that is undisturbed takes turn after turn.
-/

namespace Rollout

variable {σ α : Type} {env : Environment σ} {s s' : Session σ} {p base : List Step}

/-! ## Calls under a lease -/

/-- Whether nothing has disturbed work under leases from a moment on: it is not canceled, and
whenever the clock was read, all leases were held. -/
structure Calm (base : List Step) (members : List Handle) (s : Session σ) : Prop where
  uncanceled : s.isCanceled = false
  held : ∀ now, Seen base [.looked now] s.past → ∀ h ∈ members, h.lease.isHeldAt now = true

/-- What is calm in the end was calm before. -/
theorem Calm.earlier {members : List Handle} (s s' : Session σ) (hs : s.Precedes s')
    (h : Calm base members s') : Calm base members s :=
  ⟨hs.isCanceled_eq_false h.uncanceled, fun now hnow => h.held now (hnow.later hs.past)⟩

namespace Handle

variable {h : Handle} {members : List Handle}

/-- A call under a lease is made right after the clock was read, and it is answered. -/
theorem heldNonce_bind_answered {c : Call} (what machine : String)
    {f : String → Work σ Handle Unit} {g : c.Reply → Handle → Handle}
    (hf : f h.lease.nonce h = (Work.call c what machine >>= fun a => Work.change (g a)) h)
    (hanswers : env.Answers) (hmem : h ∈ members) (hbase : base <:+ p) :
    Run.Triple env (·.past = p) ((heldNonce >>= f) h) (Work.Post.toRun
      ⟨fun _ _ s => Calm base members s → ∃ now time a,
          s.past = .answered c (.ok a) :: .asked c time :: .looked now :: p,
        fun _ e s => Calm base members s → e.isCanceled = false ∧ ∃ now time e',
          s.past = .answered c (.error e') :: .asked c time :: .looked now :: p,
        fun _ s => ¬ Calm base members s⟩) := by
  rw [heldNonce_bind, hf]
  refine Run.Triple.bind (R := ⟨fun now s => s.past = .looked now :: p, fun _ _ => False⟩)
    (Run.Triple.readClock fun s now hs => congrArg (_ :: ·) hs) (fun now => ?_)
    (fun _ _ h => h.elim)
  -- If the lease is held, the call is made and answered. If it is not, work was disturbed.
  split
  · refine (Work.Triple.bind (Work.Triple.call_answered (K := fun _ => True) hanswers
      (.looked now :: p)) (fun a => Work.Triple.change fun t s hs hcalm => ?_)
      (fun t e s hs hcalm => ?_) (fun _ s hs hcalm => hs hcalm.uncanceled) h).pre
      fun _ hs => ⟨trivial, hs⟩
    · obtain ⟨-, time, hpast⟩ := hs hcalm.uncanceled
      exact ⟨now, time, a, hpast⟩
    · obtain ⟨-, he, time, e', hpast⟩ := hs hcalm.uncanceled
      exact ⟨he, now, time, e', hpast⟩
  · rename_i hheld
    refine Run.Triple.pure fun s hs hcalm => ?_
    have hseen : Seen base [.looked now] s.past := hs ▸ (Seen.of_suffix hbase).take _
    exact absurd (hcalm.held now hseen h hmem) hheld

end Handle

/-! ## Requests that can't be resolved -/

/-- A machine's configuration is not found for want of its process group only. -/
theorem App.Config.machineConfig_error {c : App.Config} {group image : String}
    {orig : Option Machine.Config} {e : DeployError}
    (h : c.machineConfig group orig image = .error e) :
    ∃ message, e = .configResolution message := by
  unfold machineConfig at h
  split at h
  · cases h
    exact ⟨_, rfl⟩
  · cases h

namespace Resolver

variable {r : Resolver} {orig : Machine} {e : DeployError}

/-- A claim fails for want of a volume. -/
theorem claim_error {m : Machine.Mount} {region missing : String}
    (h : (r.claim m region missing).2 = .error e) : ∃ message, e = .configResolution message := by
  unfold claim at h
  split at h
  · cases h
  · cases h
    exact ⟨_, rfl⟩

/-- A mount is not reconciled for want of a volume. -/
theorem reconcileMount_error {group : String} {config : Machine.Config}
    (h : (r.reconcileMount group orig config).2 = .error e) :
    ∃ message, e = .configResolution message := by
  -- Only a fresh claim can fail.
  have hfresh : ∀ desired, (reconcileMount.claimFresh r group orig config desired).2 = .error e →
      ∃ message, e = .configResolution message := by
    intro desired h
    unfold reconcileMount.claimFresh at h
    split at h
    · rename_i hclaim
      cases h
      exact claim_error (congrArg (·.2) hclaim)
    · cases h
  unfold reconcileMount at h
  split at h
  · cases h
  · cases h
  · split at h
    · cases h
    · split at h
      · cases h
      · exact hfresh _ h
  · exact hfresh _ h

/-- A host is refused as a matter of the configuration. -/
theorem reconcileHost_error {config : Machine.Config}
    (h : r.reconcileHost orig config = .error e) : ∃ message, e = .configResolution message := by
  unfold reconcileHost at h
  split at h
  · split at h
    · cases h
      exact ⟨_, rfl⟩
    · cases h
  · cases h

/-- A request that can't be resolved is a matter of the configuration. -/
theorem resolve_error (h : (r.resolve orig).2 = .error e) :
    ∃ message, e = .configResolution message := by
  unfold resolve at h
  split at h
  · cases h
  · -- Any of the three steps of an update may fail, the configuration first.
    unfold update at h
    dsimp only at h
    split at h
    · cases h
      exact App.Config.machineConfig_error ‹_›
    · split at h
      · rename_i hmount
        cases h
        exact reconcileMount_error (congrArg (·.2) hmount)
      · split at h
        · cases h
          exact reconcileHost_error ‹_›
        · cases h

end Resolver

/-! ## Turns -/

namespace Deployment

/-- What a member does in its turn when nothing is waited for, the latest first: it is updated, or
destroyed and, if this succeeds, launched anew. A member whose request can't be resolved does
nothing. -/
inductive Turn (h : Handle) : Except DeployError LaunchInput → List Step → Prop where
  | unresolved (e : DeployError) : Turn h (.error e) []
  | updated {input : LaunchInput} (hkeeps : input.requiresReplacement = false) (now : Int)
      (time : Nat) (o : (Call.update input h.lease.nonce).Outcome) :
      Turn h (.ok input) [.answered (.update input h.lease.nonce) o,
        .asked (.update input h.lease.nonce) time, .looked now]
  | undestroyed {input : LaunchInput} (hreplaces : input.requiresReplacement = true) (now : Int)
      (time : Nat) (e : ApiError) :
      Turn h (.ok input) [.answered (.destroy h.id h.lease.nonce) (.error e),
        .asked (.destroy h.id h.lease.nonce) time, .looked now]
  | replaced {input : LaunchInput} (hreplaces : input.requiresReplacement = true) (now : Int)
      (time time' : Nat) (o : (Call.launch { input with id := none }).Outcome) :
      Turn h (.ok input) [.answered (.launch { input with id := none }) o,
        .asked (.launch { input with id := none }) time',
        .answered (.destroy h.id h.lease.nonce) (.ok ()),
        .asked (.destroy h.id h.lease.nonce) time, .looked now]

/-- The turns of members, one after the other. Each leaves the volumes that its request did not
take. -/
inductive Turns : Resolver → List Handle → List (List Step) → Prop where
  | nil (r) : Turns r [] []
  | cons {h r rest turn turns} (hturn : Turn h (r.resolve h.machine).2 turn)
      (hrest : Turns (r.resolve h.machine).1 rest turns) : Turns r (h :: rest) (turn :: turns)

/-- Whether in all turns but one the same calls were answered the same. -/
def AlikeBut (place : Nat) (turns turns' : List (List Step)) : Prop :=
  ∀ other turn turn', other ≠ place → turns[other]? = some turn → turns'[other]? = some turn' →
    ∀ (c : Call) (o o' : c.Outcome), .answered c o ∈ turn → .answered c o' ∈ turn' → o = o'

section Turns

variable {h : Handle} {r : Resolver} {members : List Handle} {turn turn' : List Step}
variable {turns turns' : List (List Step)}

/-- What is asked in a turn depends on the answers in the turn only. -/
theorem Turn.callsIn_eq {request : Except DeployError LaunchInput} (hturn : Turn h request turn)
    (hturn' : Turn h request turn')
    (halike : ∀ (c : Call) (o o' : c.Outcome), .answered c o ∈ turn → .answered c o' ∈ turn' →
      o = o') : callsIn turn = callsIn turn' := by
  cases hturn with
  | unresolved e =>
    cases hturn'
    rfl
  | updated hkeeps now time o =>
    cases hturn' with
    | updated => rfl
    | undestroyed hreplaces | replaced hreplaces =>
      rw [hkeeps] at hreplaces
      cases hreplaces
  -- One destruction can't be refused in the one run and answered in the other.
  | undestroyed hreplaces now time e =>
    cases hturn' with
    | updated hkeeps =>
      rw [hreplaces] at hkeeps
      cases hkeeps
    | undestroyed => rfl
    | replaced =>
      have hanswers := halike (.destroy h.id h.lease.nonce) (.error e) (.ok ()) (by simp) (by simp)
      cases hanswers
  | replaced hreplaces now time time' o =>
    cases hturn' with
    | updated hkeeps =>
      rw [hreplaces] at hkeeps
      cases hkeeps
    | undestroyed hreplaces' now' time' e =>
      have hanswers := halike (.destroy h.id h.lease.nonce) (.ok ()) (.error e) (by simp) (by simp)
      cases hanswers
    | replaced => rfl

/-- Every member has one turn. -/
theorem Turns.length_eq (h : Turns r members turns) : turns.length = members.length := by
  induction h with
  | nil => rfl
  | cons _ _ ih => rw [List.length_cons, List.length_cons, ih]

/-- Where the answers of a turn are the same, the calls are. -/
theorem Turns.callsIn_eq (h : Turns r members turns) (h' : Turns r members turns') {place : Nat}
    (hturn : turns[place]? = some turn) (hturn' : turns'[place]? = some turn')
    (halike : ∀ (c : Call) (o o' : c.Outcome), .answered c o ∈ turn → .answered c o' ∈ turn' →
      o = o') : callsIn turn = callsIn turn' := by
  -- By induction on the turns, which go by the same resolvers in both runs.
  induction h generalizing turns' place with
  | nil => cases hturn
  | cons hfirst _ ih =>
    cases h' with
    | cons hfirst' hrest' =>
      cases place with
      | zero =>
        cases hturn
        cases hturn'
        exact hfirst.callsIn_eq hfirst' halike
      | succ place => exact ih hrest' hturn hturn'

/-- What becomes of one member changes nothing in what is asked for the others. -/
theorem Turns.eraseIdx_callsIn (h : Turns r members turns) (h' : Turns r members turns')
    {place : Nat} (halike : AlikeBut place turns turns') :
    (turns.eraseIdx place).map callsIn = (turns'.eraseIdx place).map callsIn := by
  -- In any other place there is a turn in both runs, or in neither.
  have hother : ∀ other, other ≠ place →
      turns[other]?.map callsIn = turns'[other]?.map callsIn := by
    intro other hne
    have hlength : turns.length = turns'.length := h.length_eq.trans h'.length_eq.symm
    rcases Nat.lt_or_ge other turns.length with hlt | hge
    · have hturn := List.getElem?_eq_getElem hlt
      have hturn' := List.getElem?_eq_getElem (hlength ▸ hlt)
      rw [hturn, hturn']
      exact congrArg some (h.callsIn_eq h' hturn hturn' (halike other _ _ hne hturn hturn'))
    · rw [List.getElem?_eq_none hge, List.getElem?_eq_none (hlength ▸ hge)]
  refine List.ext_getElem? fun i => ?_
  rw [List.getElem?_map, List.getElem?_map, List.getElem?_eraseIdx, List.getElem?_eraseIdx]
  split
  · -- Places before the one that is left out keep their number, those behind it move up.
    exact hother i (by omega)
  · exact hother (i + 1) (by omega)

end Turns

/-- Whether an immediate deployment has come to a place, with some members from there on. -/
structure At (place : Nat) (r : Resolver) (rest : List Handle) (d : Deployment) : Prop where
  strategy : d.strategy = .immediate
  resolver : d.resolver = r
  rest : d.fleet.members.drop place = rest

variable {place : Nat} {h : Handle} {r r' : Resolver} {rest members : List Handle} {d : Deployment}

/-- The next member is in the place. -/
theorem At.getElem? (hat : At place r (h :: rest) d) : d.fleet.members[place]? = some h := by
  have hrest := congrArg (·[0]?) hat.rest
  simpa using hrest

/-- What is put in a place does not matter from the next place on. -/
theorem At.set (hat : At (place + 1) r rest d) (h' : Handle) :
    At (place + 1) r rest { d with fleet := d.fleet.set place h' } := by
  refine ⟨hat.strategy, hat.resolver, ?_⟩
  rw [← hat.rest]
  exact List.drop_set_of_lt (Nat.lt_succ_self place)

/-- Past a member the others are left. -/
theorem At.next (hat : At place r (h :: rest) d) : At (place + 1) r rest d := by
  refine ⟨hat.strategy, hat.resolver, ?_⟩
  rw [← List.tail_drop, hat.rest]
  rfl

/-- Whether a member has had its turn, and the deployment has come to the next place. -/
def HadTurn (h : Handle) (request : Except DeployError LaunchInput) (place : Nat) (r : Resolver)
    (rest : List Handle) (p : List Step) (d : Deployment) (s : Session σ) : Prop :=
  ∃ turn, Turn h request turn ∧ s.past = turn ++ p ∧ At (place + 1) r rest d

/-- The turn of a member comes to its end, with success or with a failure. -/
def turned (h : Handle) (request : Except DeployError LaunchInput) (place : Nat) (r : Resolver)
    (rest : List Handle) (p : List Step) : Work.Post σ Deployment Unit where
  ok d _ s := HadTurn h request place r rest p d s
  error d e s := e.isCanceled = false ∧ HadTurn h request place r rest p d s
  halts _ _ := False

/-- Work on a member is done on the one that is known to be there. -/
theorem onMember_at {P : Deployment → Session σ → Prop} {x : Work σ Handle α}
    {Q : Work.Post σ Deployment α} (hplace : ∀ d s, P d s → d.fleet.members[place]? = some h)
    (hx : ∀ d, Run.Triple env (P d) (x h) (Work.Post.toRun
      ⟨fun h' a s => Q.ok { d with fleet := d.fleet.set place h' } a s,
        fun h' e s => Q.error { d with fleet := d.fleet.set place h' } e s, Q.halts⟩)) :
    Work.Triple env P (onMember place x) Q := by
  refine onFleet_triple fun d => Fleet.member_triple (fun hnone s hs => ?_) (fun h' hh' s hs => ?_)
  · -- There is a member, so it is not missing.
    have hplace := hplace d s hs
    rw [hnone] at hplace
    cases hplace
  · have hplace := hplace d s hs
    rw [hh'] at hplace
    cases hplace
    exact hx d s hs

/-- What the destruction of a machine leaves, the latest first. -/
def destroyedSteps (h : Handle) (now : Int) (time : Nat) : List Step :=
  [.answered (.destroy h.id h.lease.nonce) (.ok ()), .asked (.destroy h.id h.lease.nonce) time,
    .looked now]

section Turn

variable {input : LaunchInput} (hanswers : env.Answers) (hmem : h ∈ members) (hbase : base <:+ p)

include hanswers hmem hbase

/-- A machine that can't be updated is destroyed and launched anew in its turn. -/
theorem replaceMember_turn (hreplaces : input.requiresReplacement = true) :
    Work.Triple env (fun d s => At place r (h :: rest) d ∧ s.past = p)
      (replaceMember place h.machine input)
      ((turned h (.ok input) place r rest p).given (Calm base members)) := by
  refine Work.Triple.bind (R := Work.Post.given ⟨fun d _ s => ∃ now time,
      At (place + 1) r rest d ∧ s.past = destroyedSteps h now time ++ p,
    fun d e s => e.isCanceled = false ∧ HadTurn h (.ok input) place r rest p d s,
    fun _ _ => False⟩ (Calm base members)) ?_ (fun _ => ?_) (fun _ _ _ h => h) (fun _ _ h => h)
  · refine onMember_at (fun d s hs => hs.1.getElem?) fun d => Run.Triple.of_and fun hat => ?_
    refine (Handle.heldNonce_bind_answered (c := .destroy h.id h.lease.nonce) "destroy" h.id
      (g := fun _ => Handle.destroyed) rfl hanswers hmem hbase).mono (fun _ hs => hs) ?_
      (fun _ _ hs => hs)
    rintro ⟨h', e | _⟩ s hs hcalm
    · -- The destruction is refused, so nothing is launched.
      obtain ⟨he, now, time, e', hpast⟩ := hs hcalm
      exact ⟨he, _, .undestroyed hreplaces now time e', hpast, hat.next.set h'⟩
    · obtain ⟨now, time, a, hpast⟩ := hs hcalm
      exact ⟨now, time, hat.next.set h', hpast⟩
  · -- The launch follows, if nothing disturbs it.
    refine Work.Triple.given Calm.earlier
      ((Work.Heeds.call _ _ _).bind fun _ => onFleet_heeds (.change _)).ages ?_
    refine Work.Triple.of_exists fun now => Work.Triple.of_exists fun time => ?_
    refine Work.Triple.bind (Work.Triple.call_answered hanswers (destroyedSteps h now time ++ p))
      (fun machine => onFleet_triple fun d => ?_) (fun d e s hs hcalm => ?_)
      (fun _ s hs hcalm => hs hcalm.uncanceled)
    · refine Run.Triple.pure fun s hs hcalm => ?_
      obtain ⟨hat, time', hpast⟩ := hs hcalm.uncanceled
      exact ⟨_, .replaced hreplaces now time time' (.ok machine), hpast, hat.set _⟩
    · obtain ⟨hat, he, time', e', hpast⟩ := hs hcalm.uncanceled
      exact ⟨he, _, .replaced hreplaces now time time' (.error e'), hpast, hat⟩

/-- In its turn a machine is changed as its request asks for. -/
theorem changeMember_turn :
    Work.Triple env (fun d s => At place r (h :: rest) d ∧ s.past = p)
      (changeMember place h.machine input)
      ((turned h (.ok input) place r rest p).given (Calm base members)) := by
  unfold changeMember
  split
  · exact replaceMember_turn hanswers hmem hbase ‹_›
  · rename_i hkeeps
    rw [Bool.not_eq_true] at hkeeps
    refine onMember_at (fun d s hs => hs.1.getElem?) fun d => Run.Triple.of_and fun hat => ?_
    refine (Handle.heldNonce_bind_answered (c := .update input h.lease.nonce) "update" h.id
      (g := fun machine => ({ · with machine := machine })) rfl hanswers hmem hbase).mono
      (fun _ hs => hs) ?_ (fun _ _ hs => hs)
    -- The update is refused or answered; either way it was the turn.
    rintro ⟨h', e | _⟩ s hs hcalm
    · obtain ⟨he, now, time, e', hpast⟩ := hs hcalm
      exact ⟨he, _, .updated hkeeps now time (.error e'), hpast, hat.next.set h'⟩
    · obtain ⟨now, time, machine, hpast⟩ := hs hcalm
      exact ⟨_, .updated hkeeps now time (.ok machine), hpast, hat.next.set h'⟩

omit hanswers hmem hbase in
/-- The immediate strategy does not wait for a machine. -/
theorem awaitMember_turn :
    Work.Triple env (fun d s => HadTurn h (.ok input) place r rest p d s) (awaitMember place)
      (turned h (.ok input) place r rest p) := by
  refine Work.Triple.value_bind fun d₀ => ?_
  refine Work.Triple.extract (R := fun d s => HadTurn h (.ok input) place r rest p d s)
    (p := d₀.strategy = .immediate) ?_ fun hstrategy => ?_
  · rintro _ s ⟨rfl, hs⟩
    obtain ⟨-, -, -, hat⟩ := id hs
    exact ⟨hat.strategy, hs⟩
  -- There is nothing to be waited for.
  have hwait : waitFor (σ := σ) d₀ = pure () := by
    unfold waitFor
    rw [hstrategy]
    rfl
  rw [hwait]
  refine onFleet_triple fun d => Fleet.member_triple (fun _ s hs => ⟨rfl, hs⟩) fun h' _ =>
    Run.Triple.pure fun s hs => ?_
  obtain ⟨turn, hturn, hpast, hat⟩ := hs
  exact ⟨turn, hturn, hpast, hat.set h'⟩

/-- A member has its turn, however it ends. -/
theorem updateMember_turn :
    Work.Triple env (fun d s => At place r (h :: rest) d ∧ s.past = p) (updateMember place)
      ((turned h (r.resolve h.machine).2 place (r.resolve h.machine).1 rest p).given
        (Calm base members)) := by
  refine Work.Triple.bind (R := ⟨fun d orig s => orig = h.machine ∧ At place r (h :: rest) d ∧
    s.past = p, fun _ _ _ => False, fun _ _ => False⟩) ?_ (fun orig => ?_)
    (fun _ _ _ h => h.elim) (fun _ _ h => h.elim)
  · refine onMember_at (fun d s hs => hs.1.getElem?) fun d => Run.Triple.pure fun s hs => ?_
    refine ⟨rfl, ?_, hs.2⟩
    rw [Fleet.set_self hs.1.getElem?]
    exact hs.1
  · refine Work.Triple.of_and fun horig => ?_
    subst horig
    -- The request is resolved with the volumes that are left, or the turn is over.
    refine Work.Triple.bind (resolve_triple _) (fun input => ?_) (fun d e s hs hcalm => ?_)
      (fun _ _ h => h.elim)
    · refine Work.Triple.extract (p := (r.resolve h.machine).2 = .ok input)
        (R := fun d s => At place (r.resolve h.machine).1 (h :: rest) d ∧ s.past = p) ?_
        fun hinput => ?_
      · rintro _ s ⟨d₀, ⟨hat, hpast⟩, rfl, hinput⟩
        obtain rfl := hat.resolver
        exact ⟨hinput, ⟨hat.strategy, rfl, hat.rest⟩, hpast⟩
      · rw [hinput]
        refine Work.Triple.bind (changeMember_turn hanswers hmem hbase) (fun _ => ?_)
          (fun _ _ _ h => h) (fun _ _ h => h)
        split
        · exact Work.Triple.given Calm.earlier (awaitMember_heeds place).ages
            (awaitMember_turn.mono (fun _ _ hs => hs) (fun _ _ _ hs _ => hs)
              (fun _ _ _ hs _ => hs) (fun _ _ h => h.elim))
        · exact Work.Triple.pure fun _ _ hs => hs
    · obtain ⟨d₀, ⟨hat, hpast⟩, rfl, hinput⟩ := hs
      obtain rfl := hat.resolver
      rw [hinput]
      obtain ⟨message, rfl⟩ := Resolver.resolve_error hinput
      exact ⟨rfl, [], .unresolved _, hpast, hat.strategy, rfl, hat.next.rest⟩

end Turn

/-- Members have their turns one after the other, whatever comes of them. -/
theorem updateMembers_turns (hanswers : env.Answers) (hmem : ∀ h ∈ rest, h ∈ members)
    (hbase : base <:+ p) :
    Work.Triple env (fun d s => At place r rest d ∧ s.past = p)
      (updateMembers (List.range' place rest.length))
      (Work.Post.given ⟨fun _ _ s => ∃ turns, Turns r rest turns ∧
        s.past = turns.reverse.flatten ++ p, fun _ _ _ => False, fun _ _ => False⟩
        (Calm base members)) := by
  -- By induction on the members that are left.
  induction rest generalizing place r p with
  | nil => exact Work.Triple.pure fun d s hs _ => ⟨[], .nil r, hs.2⟩
  | cons h rest ih =>
    rw [List.forall_mem_cons] at hmem
    rw [List.length_cons, List.range'_succ]
    -- However the turn ends, the rest have theirs from there on.
    have hrest : Work.Triple env (fun d s => Calm base members s →
        HadTurn h (r.resolve h.machine).2 place (r.resolve h.machine).1 rest p d s)
        (updateMembers (List.range' (place + 1) rest.length))
        (Work.Post.given ⟨fun _ _ s => ∃ turns, Turns r (h :: rest) turns ∧
          s.past = turns.reverse.flatten ++ p, fun _ _ _ => False, fun _ _ => False⟩
          (Calm base members)) := by
      refine Work.Triple.given Calm.earlier (updateMembers_heeds _).ages ?_
      refine Work.Triple.of_exists fun turn => Work.Triple.of_and fun hturn => ?_
      refine (ih (r := (r.resolve h.machine).1) hmem.2
        (hbase.trans (List.suffix_append turn p))).mono (fun _ _ hs => ⟨hs.2, hs.1⟩) ?_
        (fun _ _ _ hs => hs) (fun _ _ hs => hs)
      intro d _ s hs hcalm
      obtain ⟨turns, hturns, hpast⟩ := hs hcalm
      refine ⟨turn :: turns, .cons hturn hturns, ?_⟩
      rw [hpast, List.reverse_cons, List.flatten_append, List.flatten_singleton,
        List.append_assoc]
    refine Work.Triple.attempt_bind (updateMember_turn hanswers hmem.1 hbase) (fun _ => hrest)
      (fun e => ?_) (fun _ _ h => h)
    refine Work.Triple.value_bind fun d => ?_
    split
    · exact hrest.pre fun _ s hs hcalm => (hs.2 hcalm).2
    · -- An immediate update goes on, unless the failure is a cancellation, and that would have
      -- disturbed it.
      rename_i hstops
      refine Work.Triple.fail fun d' s hs hcalm => hstops ?_
      obtain ⟨rfl, hs⟩ := hs
      obtain ⟨he, turn, -, -, hat⟩ := hs hcalm
      rw [hat.strategy, he]
      rfl

end Deployment

end Rollout
