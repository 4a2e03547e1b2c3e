import Rollout.Proofs.Discovery
import Rollout.Proofs.Owning
import Rollout.Proofs.Preparation
import Rollout.Proofs.Snapshots

/-!
# Whose machines are touched

A deployment names a machine in a call only if the machine is the app's, runs its release command,
or was launched by the deployment itself. Which machines are the app's is decided once, when the
machines are listed. The release command and the rollout are two phases with a fleet each. Both keep
their fleet owned, so neither names a machine of the other's.

## Main statements

- `ReleaseCommand.run_keepsOwning`, `Deployment.rollOut_keepsOwning`: both phases keep their fleet
  owned.
- `Deployment.prepare_deploy_touches`: which machines a deployment touches, and when.
-/

namespace Rollout

variable {σ τ ρ α β : Type} {env : Environment σ} {base mid past past' : List Step}
variable {ids needed known : List String} {id : String}

/-! ## The release command -/

namespace ReleaseCommand

variable {r : Resolver} {line : String}

/-- Work that keeps a fleet owned keeps the fleet of the command owned. -/
theorem onFleet_keepsOwning {x : Work σ Fleet α}
    (hx : x.KeepsOwning env ids base (fun f => f) needed) :
    (onFleet x).KeepsOwning env ids base (·.fleet) needed :=
  Work.KeepsOwning.within (fun _ _ => rfl) hx

/-- Work that keeps a single machine owned may be done on the command's. -/
theorem onMachine_keepsOwning {x : Work σ Handle α}
    (hx : x.KeepsOwning env ids base Fleet.single needed) :
    (onMachine x).KeepsOwning env ids base (·.fleet) needed :=
  onFleet_keepsOwning (Fleet.member_keepsOwning hx)

/-- To record an event changes the job only. -/
theorem record_keepsOwning (e : ReleaseJob.Event) :
    (record (σ := σ) e).KeepsOwning env ids base (·.fleet) needed :=
  fun _ _ => (record_triple (fun _ _ _ hs => hs) e).mono (fun _ _ hs => hs) (fun _ _ _ hs => hs)
    (fun _ _ _ hs => hs) (fun _ _ h => h.elim)

/-- The machine of the command is a member of its fleet. -/
theorem machine_givesOwned :
    (onMachine (do return (← Work.value).machine) : Work σ _ _).GivesOwned env ids base (·.fleet)
      needed (·.id) := by
  refine fun known _ => (read_triple (·.machine)).mono (fun _ _ hs => hs) ?_ (fun _ _ _ hs => hs)
    (fun _ _ h => h.elim)
  rintro c m s ⟨hs, h, hh, rfl⟩
  exact Fleet.owning_member hs hh

/-- The machine that is launched for a command becomes its only one. -/
theorem create_keepsOwning :
    (create (σ := σ) r line).KeepsOwning env ids base (·.fleet) needed := by
  refine (Work.KeepsOwning.ofExcept _).bind fun input => ?_
  refine Work.KeepsOwning.given_bind .launch fun m => ?_
  refine Work.KeepsOwning.bind ?_ fun _ => record_keepsOwning _
  exact onFleet_keepsOwning (Fleet.push_keepsOwning (h := { machine := m }) List.mem_cons_self)

/-- The machine that is updated is the one that is there. -/
theorem update_keepsOwning (hechoes : env.Echoes) :
    (update (σ := σ) r line).KeepsOwning env ids base (·.fleet) needed := by
  refine Work.KeepsOwning.value_bind fun c => ?_
  refine (onMachine_keepsOwning (Handle.waitForState_keepsOwning _ _)).bind fun _ => ?_
  refine Work.KeepsOwning.given_bind machine_givesOwned fun m => ?_
  refine Work.KeepsOwning.ofExcept_bind fun input hinput => ?_
  refine (onFleet_keepsOwning (Fleet.acquire_keepsOwning _)).bind fun _ => ?_
  have hid : input.id = some m.id := Resolver.releaseCommand_id hinput
  have hupdate : (Handle.update (σ := σ) (oneShot input line)).KeepsOwning env ids base
      Fleet.single (m.id :: needed) :=
    Handle.update_keepsOwning hechoes (show (oneShot input line).id = _ from hid) List.mem_cons_self
  refine (onMachine_keepsOwning hupdate).attempt.bind fun updated => ?_
  refine (onFleet_keepsOwning Fleet.release_keepsOwning).attempt.bind fun _ => ?_
  exact (Work.KeepsOwning.ofExcept updated).bind fun _ => record_keepsOwning _

/-- A verdict names no machine. -/
theorem judge_keepsOwning (id machine : String) (event : Machine.Event) :
    (judge (σ := σ) id machine event).KeepsOwning env ids base (·.fleet) needed := by
  unfold judge
  split
  · exact Work.KeepsOwning.fail _
  · refine (record_keepsOwning _).bind fun _ => ?_
    split
    · exact (Work.KeepsOwning.report _ _).bind fun _ => Work.KeepsOwning.fail _
    · exact Work.KeepsOwning.pure _

/-- The waits for the verdict name the machine of the command. -/
theorem awaitVerdict_keepsOwning (hechoes : env.Echoes) :
    (awaitVerdict (σ := σ)).KeepsOwning env ids base (·.fleet) needed := by
  have hwait : ∀ state timeout, (onMachine (Handle.waitForState (σ := σ) state timeout)).KeepsOwning
      env ids base (·.fleet) needed :=
    fun state timeout => onMachine_keepsOwning (Handle.waitForState_keepsOwning state timeout)
  -- To read the id off the handle changes nothing.
  have hread : (onMachine (do return (← Work.value).id) : Work σ _ _).KeepsOwning env ids base
      (·.fleet) needed :=
    fun _ _ => (read_triple (·.id)).mono (fun _ _ hs => hs) (fun _ _ _ hs => hs.1)
      (fun _ _ _ hs => hs) (fun _ _ h => h.elim)
  refine Work.KeepsOwning.value_bind fun c => ?_
  refine hread.bind fun id => ?_
  refine (hwait _ _).mapError.bind fun _ => (record_keepsOwning _).bind fun _ => ?_
  refine (hwait _ _).mapError.bind fun _ => (record_keepsOwning _).bind fun _ => ?_
  have hevent : ∀ timeout, (onMachine (Handle.waitForEvent (σ := σ) "exit" "start"
      timeout)).KeepsOwning env ids base (·.fleet) needed :=
    fun timeout => onMachine_keepsOwning (Handle.fetchUntil_keepsOwning hechoes _ _ _ timeout)
  exact (hevent _).mapError.bind fun event => judge_keepsOwning _ _ event

/-- However a machine is made ready, the fleet of the command stays owned. -/
theorem makeReady_keepsOwning (hechoes : env.Echoes) :
    (makeReady (σ := σ) r line).KeepsOwning env ids base (·.fleet) needed := by
  refine Work.KeepsOwning.value_bind fun c => ?_
  split
  · exact create_keepsOwning.mapError
  · exact (update_keepsOwning hechoes).mapError

/-- A command that is run keeps its fleet owned. -/
theorem runLine_keepsOwning (hechoes : env.Echoes) :
    (runLine (σ := σ) r line).KeepsOwning env ids base (·.fleet) needed :=
  (makeReady_keepsOwning hechoes).bind fun _ => awaitVerdict_keepsOwning hechoes

/-- The release command keeps its fleet owned. -/
theorem run_keepsOwning (hechoes : env.Echoes) :
    (run (σ := σ) r).KeepsOwning env ids base (·.fleet) needed := by
  refine Work.KeepsOwning.value_bind fun c => ?_
  split
  · exact Work.KeepsOwning.pure _
  · split
    · exact Work.KeepsOwning.pure _
    · refine (runLine_keepsOwning hechoes).attempt.bind fun result => ?_
      split
      · exact Work.KeepsOwning.pure _
      · -- A failure is recorded in the job.
        refine Work.KeepsOwning.bind (Work.KeepsOwning.change fun c => ?_) fun _ =>
          Work.KeepsOwning.fail _
        split <;> exact List.subset_append_right _ _

end ReleaseCommand

/-! ## The deployment -/

namespace Deployment

variable {d : Deployment} {place : Nat}

/-- The release command works on its own fleet. -/
theorem runCommand_keepsOwning (hechoes : env.Echoes) :
    (runCommand (σ := σ)).KeepsOwning env ids base (·.command.fleet) needed := by
  refine Work.KeepsOwning.value_bind fun d => ?_
  have hrun : ((ReleaseCommand.run (σ := σ) d.resolver).within (τ := Deployment) (·.command)
      ({ · with command := · })).KeepsOwning env ids base (·.command.fleet) needed :=
    Work.KeepsOwning.within (fun _ _ => rfl) (ReleaseCommand.run_keepsOwning hechoes)
  refine hrun.attempt.bind fun result => ?_
  split
  · exact Work.KeepsOwning.pure _
  · exact (Work.KeepsOwning.report _ _).bind fun _ => Work.KeepsOwning.fail _

/-- Work that keeps a fleet owned keeps the fleet of the deployment owned. -/
theorem onFleet_keepsOwning {x : Work σ Fleet α}
    (hx : x.KeepsOwning env ids base (fun f => f) needed) :
    (onFleet x).KeepsOwning env ids base (·.fleet) needed :=
  Work.KeepsOwning.within (fun _ _ => rfl) hx

/-- Work that keeps a single machine owned may be done on a member. -/
theorem onMember_keepsOwning {x : Work σ Handle α}
    (hx : x.KeepsOwning env ids base Fleet.single needed) :
    (onMember place x).KeepsOwning env ids base (·.fleet) needed :=
  onFleet_keepsOwning (Fleet.member_keepsOwning hx)

/-- The machine that is read off a member is owned. -/
theorem member_givesOwned :
    (onMember place (do return (← Work.value).machine) : Work σ _ _).GivesOwned env ids base
      (·.fleet) needed (·.id) := by
  refine fun known _ => (read_triple place (·.machine)).mono (fun _ _ hs => hs) ?_
    (fun _ _ _ hs => hs) (fun _ _ h => h.elim)
  rintro d m s ⟨hs, h, hh, rfl⟩
  exact Fleet.owning_member hs hh

/-- What a member is waited for names that member. -/
theorem waitFor_keepsOwning (hechoes : env.Echoes) (d : Deployment) :
    (waitFor (σ := σ) d).KeepsOwning env ids base Fleet.single needed := by
  unfold waitFor
  split
  · refine (Handle.waitForState_keepsOwning _ _).bind fun _ => ?_
    split
    · exact Handle.waitForHealth_keepsOwning hechoes _
    · exact Work.KeepsOwning.pure _
  · exact Work.KeepsOwning.pure _

/-- A request is resolved without the fleet. -/
theorem resolve_bind_keepsOwning {f : Resolver → Resolver × Except DeployError LaunchInput}
    {g : LaunchInput → Work σ Deployment α}
    (hg : ∀ r input, (f r).2 = .ok input → (g input).KeepsOwning env ids base (·.fleet) needed) :
    (resolve f >>= g).KeepsOwning env ids base (·.fleet) needed := by
  intro known hneeded
  have hresolve : Work.Triple env (fun d s => Owning ids base known d.fleet s.past) (resolve f)
      ⟨fun d input s => (∃ r, (f r).2 = .ok input) ∧ Owning ids base known d.fleet s.past,
        fun d _ s => Owning ids base known d.fleet s.past, fun _ _ => False⟩ := by
    refine (resolve_triple f).mono (fun _ _ hs => hs) ?_ ?_ (fun _ _ h => h)
    · rintro _ input s ⟨d, hs, rfl, hinput⟩
      exact ⟨⟨d.resolver, hinput⟩, hs⟩
    · rintro _ e s ⟨d, hs, rfl, -⟩
      exact hs
  refine Work.Triple.bind hresolve (fun input => Work.Triple.of_and fun hinput => ?_)
    (fun _ _ _ hs => hs) (fun _ _ h => h.elim)
  obtain ⟨r, hinput⟩ := hinput
  exact hg r input hinput known hneeded

/-- What becomes of a machine that is destroyed and replaced. -/
theorem replaceMember_keepsOwning (place : Nat) (orig : Machine) (input : LaunchInput) :
    (replaceMember (σ := σ) place orig input).KeepsOwning env ids base (·.fleet) needed := by
  refine (onMember_keepsOwning Handle.destroy_keepsOwning).bind fun _ => ?_
  refine Work.KeepsOwning.given_bind .launch fun m => ?_
  refine onFleet_keepsOwning (Work.KeepsOwning.change fun f => ?_)
  have hset := Fleet.memberIds_set_subset f place { machine := m }
  intro id hid
  -- The member is the new machine, which was just launched, or one of those before.
  rcases List.mem_append.mp (hset hid) with hid | hid
  · exact List.mem_append_right _ hid
  · obtain rfl := List.mem_singleton.mp hid
    exact List.mem_append_left _ List.mem_cons_self

/-- In its turn a member is changed by the request for it. -/
theorem updateMember_keepsOwning (hechoes : env.Echoes) (place : Nat) :
    (updateMember (σ := σ) place).KeepsOwning env ids base (·.fleet) needed := by
  refine Work.KeepsOwning.given_bind member_givesOwned fun orig => ?_
  refine resolve_bind_keepsOwning fun r input hinput => ?_
  have hid : input.id = some orig.id := Resolver.resolve_id hinput
  have hchange : (changeMember (σ := σ) place orig input).KeepsOwning env ids base (·.fleet)
      (orig.id :: needed) := by
    unfold changeMember
    split
    · exact replaceMember_keepsOwning place orig input
    · exact onMember_keepsOwning (Handle.update_keepsOwning hechoes hid List.mem_cons_self)
  refine hchange.bind fun _ => ?_
  split
  · exact Work.KeepsOwning.value_bind fun d =>
      onMember_keepsOwning (waitFor_keepsOwning hechoes d)
  · exact Work.KeepsOwning.pure _

/-- However many members are updated, and whether the updates go on past failures or not, the fleet
stays owned. -/
theorem updateMembers_keepsOwning (hechoes : env.Echoes) (places : List Nat) :
    (updateMembers (σ := σ) places).KeepsOwning env ids base (·.fleet) needed := by
  -- By induction on the members that are left.
  induction places with
  | nil => exact Work.KeepsOwning.pure _
  | cons place rest ih =>
    refine (updateMember_keepsOwning hechoes place).attempt.bind fun result => ?_
    cases result with
    | ok _ => exact ih
    | error e =>
      refine Work.KeepsOwning.value_bind fun d => ?_
      split
      · exact ih
      · exact Work.KeepsOwning.fail e

/-- The update of a fleet keeps it owned. -/
theorem updateFleet_keepsOwning (hechoes : env.Echoes) :
    (updateFleet (σ := σ)).KeepsOwning env ids base (·.fleet) needed := by
  refine Work.KeepsOwning.value_bind fun d => ?_
  refine (onFleet_keepsOwning (Fleet.acquire_keepsOwning _)).bind fun _ => ?_
  refine (updateMembers_keepsOwning hechoes _).attempt.bind fun result => ?_
  refine (onFleet_keepsOwning Fleet.release_keepsOwning).attempt.bind fun _ => ?_
  exact Work.KeepsOwning.ofExcept result

/-- The machine that is launched for an app without machines becomes its only member. -/
theorem createFirst_keepsOwning (hechoes : env.Echoes) :
    (createFirst (σ := σ)).KeepsOwning env ids base (·.fleet) needed := by
  refine resolve_bind_keepsOwning fun r input _ => ?_
  refine Work.KeepsOwning.given_bind .launch fun m => Work.KeepsOwning.value_bind fun d => ?_
  -- The wait is for a handle that is no member yet.
  refine Work.KeepsOwning.given_bind (.aside (h := { machine := m })
    (waitFor_keepsOwning hechoes d) List.mem_cons_self) fun result => ?_
  refine (Work.KeepsOwning.ofExcept result.2).bind fun _ => ?_
  exact onFleet_keepsOwning (Fleet.push_keepsOwning List.mem_cons_self)

/-- The rollout keeps the fleet owned. -/
theorem rollOut_keepsOwning (hechoes : env.Echoes) :
    (rollOut (σ := σ)).KeepsOwning env ids base (·.fleet) needed := by
  refine Work.KeepsOwning.value_bind fun d => ?_
  split
  · exact createFirst_keepsOwning hechoes
  · exact updateFleet_keepsOwning hechoes

/-! ## The phases -/

/-- Calls that a fleet is owned for name the ids that it began with, and those that were launched
since. -/
theorem namesOwned_of_keepsOwning (fleet : Deployment → Fleet) {x : Work σ Deployment α}
    (hx : ∀ base, x.KeepsOwning env (fleet d).memberIds base fleet []) (s : Session σ) :
    CallsSince s.past (x d env s).2.past (NamesOwned (fleet d).memberIds s.past) := by
  have hstart : Owning (fleet d).memberIds s.past [] (fleet d) s.past :=
    ⟨fun _ hid => .inl hid, CallsSince.refl⟩
  refine Work.Triple.always (P := fun d s' => Owning _ s.past [] (fleet d) s'.past)
    (R := fun s' => CallsSince s.past s'.past _) ?_ hstart
  exact (hx s.past [] (List.nil_subset _)).mono (fun _ _ hs => hs) (fun _ _ _ hs => hs.calls)
    (fun _ _ _ hs => hs.calls) (fun _ _ hs => hs)

/-- Until the app is rolled out, the machine that was found for the release command is named, and
those that were launched. -/
theorem runCommand_namesOwned (hechoes : env.Echoes) (d : Deployment) (s : Session σ) :
    CallsSince s.past (runCommand d env s).2.past
      (NamesOwned d.command.fleet.memberIds s.past) :=
  namesOwned_of_keepsOwning (·.command.fleet) (fun _ => runCommand_keepsOwning hechoes) s

/-- From then on the machines that were listed are named, and those that were launched. -/
theorem rollOut_namesOwned (hechoes : env.Echoes) (d : Deployment) (s : Session σ) :
    CallsSince (runCommand d env s).2.past (deploy d env s).2.past
      (NamesOwned d.fleet.memberIds (runCommand d env s).2.past) := by
  rcases deploy_cases d env s with ⟨c, s₁, hcommand, hdeploy⟩ | ⟨ending, hdeploy, -⟩
  · -- The rollout begins with the fleet that was listed.
    rw [hcommand, hdeploy]
    exact namesOwned_of_keepsOwning (d := { d with command := c }) (·.fleet)
      (fun _ => rollOut_keepsOwning hechoes) s₁
  · rw [hdeploy]
    exact CallsSince.refl

/-- One part of the preparation after the other makes the calls of both. -/
theorem calls_bind {φ : Call → Prop} {x : ExceptT DeployError (Run σ) α}
    {f : α → ExceptT DeployError (Run σ) β} (hx : x.run.Calls φ) (hf : ∀ a, (f a).run.Calls φ) :
    (x >>= f).run.Calls φ := by
  refine Run.Calls.bind hx fun result => ?_
  cases result with
  | ok a => exact hf a
  | error e => exact Run.Calls.pure _

/-- Preparing a deployment names no machine. -/
theorem prepare_calls (b : Bounds) (o : Options) (app : App.Config) :
    (prepare (σ := σ) b o app).Calls fun c => c.machineId? = none := by
  refine calls_bind (Run.Calls.pure _) fun _ => ?_
  refine calls_bind (Run.Calls.pure _) fun app => ?_
  refine calls_bind (Run.Calls.pure _) fun strategy => ?_
  refine calls_bind (setUp_calls b rfl) fun roster => ?_
  refine calls_bind (Run.Calls.pure _) fun _ => ?_
  refine calls_bind (findVolumes_calls b app rfl) fun volumes => ?_
  exact calls_bind (setUp_calls b rfl) fun release => Run.Calls.pure _

/-! ## The listed machines -/

end Deployment

/-- Whether the outside has some machines to list: any list that it answers with is the roster that
the client makes of them. -/
def Environment.Lists (env : Environment σ) (listed : List Machine) : Prop :=
  ∀ roster, env.Gives .list (.ok roster) → roster = Machine.Roster.ofList listed

/-- What is answered by an outside that has some machines and grants what it is asked for. -/
def Environment.answerWith (listed : List Machine) : (c : Call) → c.Outcome
  | .list => .ok (.ofList listed)
  | c => oblige c

/-- An outside that has some machines and grants what it is asked for at once. -/
def Environment.listing (listed : List Machine) : Environment Unit where
  receive c _ st := { remote := st, delay := some 0, answer := (·, answerWith listed c) }
  clock _ _ := 0
  jitter _ := 0
  uptime := 0

/-- An outside that lists some machines lists them. -/
theorem Environment.listing_lists (listed : List Machine) : (listing listed).Lists listed := by
  rintro roster ⟨now, before, later, hanswer⟩
  exact (Except.ok.inj hanswer).symm

/-- It names the machine that was asked for. -/
theorem Environment.listing_echoes (listed : List Machine) : (listing listed).Echoes := by
  constructor
  · rintro id m ⟨now, before, later, hanswer⟩
    exact obliging_echoes.get id m ⟨now, before, later, hanswer⟩
  · rintro input nonce m id ⟨now, before, later, hanswer⟩
    exact obliging_echoes.update input nonce m id ⟨now, before, later, hanswer⟩

/-- Whether the calls between two moments leave a machine alone. A call may name its id only if a
launch was answered with that id before, which an outside does that gives one id twice. -/
def LeftAlone (mid past : List Step) (m : Machine) : Prop :=
  CallsSince mid past fun before c => c.machineId? = some m.id → LaunchedSince mid before m.id

/-- A machine is left alone by calls that name others only, and those that were launched. -/
theorem LeftAlone.of_namesOwned {m : Machine} (h : CallsSince mid past (NamesOwned ids mid))
    (hm : m.id ∉ ids) : LeftAlone mid past m :=
  h.mono fun _ _ _ _ hc hid => (hc m.id hid).resolve_left hm

namespace Machine

variable {listed : List Machine} {m m' : Machine}

/-- Whether a listed machine is none that a deployment works on: it is of another platform, on its
way out, or a further one for release commands. -/
def IsForeign (listed : List Machine) (m : Machine) : Prop :=
  m.isOnPlatform = false ∨ m.isLeaving = true ∨
    (m.runsReleaseCommand = true ∧ (Roster.ofList listed).releaseCommand ≠ some m)

/-- A machine that is foreign to a deployment is not the app's. -/
theorem IsForeign.not_mem_app (h : IsForeign listed m) : m ∉ (Roster.ofList listed).app := by
  intro hm
  have happ := (Roster.mem_app.mp hm).2
  simp only [isAppMachine, Bool.and_eq_true, Bool.not_eq_true'] at happ
  obtain ⟨⟨hplatform, hleaving⟩, hruns⟩ := happ
  rcases h with h | h | ⟨h, -⟩
  · exact Bool.false_ne_true (h.symm.trans hplatform)
  · exact Bool.false_ne_true (hleaving.symm.trans h)
  · exact Bool.false_ne_true (hruns.symm.trans h)

/-- It is not the one of the release command either. -/
theorem IsForeign.ne_releaseCommand (h : IsForeign listed m) :
    (Roster.ofList listed).releaseCommand ≠ some m := by
  intro hm
  have hcandidate := (Roster.mem_releaseCommand hm).2
  simp only [isReleaseCandidate, Bool.and_eq_true, Bool.not_eq_true'] at hcandidate
  obtain ⟨⟨hplatform, hleaving⟩, -⟩ := hcandidate
  rcases h with h | h | ⟨-, h⟩
  · exact Bool.false_ne_true (h.symm.trans hplatform)
  · exact Bool.false_ne_true (hleaving.symm.trans h)
  · exact h hm

/-- No machine is in both groups. -/
theorem Roster.disjoint (h : m ∈ (Roster.ofList listed).app) :
    (Roster.ofList listed).releaseCommand ≠ some m := by
  intro hm
  have happ := isAppMachine_iff.mp (Roster.mem_app.mp h).2
  have hcandidate := isReleaseCandidate_iff.mp (Roster.mem_releaseCommand hm).2
  exact happ.2.2 hcandidate.1.group

/-- The machines that a deployment works on: the app's, and the one of the release command. -/
def Roster.own (roster : Roster) : List Machine := roster.app ++ roster.releaseCommand.toList

/-- A machine is worked on as the app's or as the one of the release command. -/
theorem Roster.mem_own {roster : Roster} :
    m ∈ roster.own ↔ m ∈ roster.app ∨ m ∈ roster.releaseCommand := by
  rw [own, List.mem_append, Option.mem_toList]
  rfl

/-- They were all listed. -/
theorem Roster.own_subset : (Roster.ofList listed).own ⊆ listed := by
  intro m hm
  rcases mem_own.mp hm with hm | hm
  · exact (mem_app.mp hm).1
  · exact (mem_releaseCommand hm).1

/-- A foreign machine is none of them. -/
theorem IsForeign.not_mem_own (h : IsForeign listed m) : m ∉ (Roster.ofList listed).own := by
  intro hm
  rcases Roster.mem_own.mp hm with hm | hm
  · exact h.not_mem_app hm
  · exact h.ne_releaseCommand hm

/-- Where ids are distinct, the id of a machine is not among those of others. -/
theorem id_not_mem_map {machines : List Machine} (hids : (listed.map (·.id)).Nodup)
    (hlisted : machines ⊆ listed) (hm : m ∈ listed) (hother : m ∉ machines) :
    m.id ∉ machines.map (·.id) := by
  intro hid
  obtain ⟨m', hm', heq⟩ := List.mem_map.mp hid
  obtain rfl := List.inj_on_of_nodup_map hids (hlisted hm') hm heq
  exact hother hm'

end Machine

namespace Deployment

variable {listed : List Machine} {o : Options} {app app' : App.Config}

/-- Which machines a deployment touches that was prepared and carried out since a moment, and had
come past its release command at another. -/
structure Touches (listed : List Machine) (o : Options) (app : App.Config)
    (base commanded past : List Step) : Prop where
  /-- Every machine that is named is the app's, or the one of the release command, or one that was
  launched before. -/
  owned : CallsSince base past fun before c => ∀ id, c.machineId? = some id →
    (∃ m ∈ (Machine.Roster.ofList listed).app, m.id = id) ∨
    (∃ m ∈ (Machine.Roster.ofList listed).releaseCommand, m.id = id) ∨
    LaunchedSince base before id
  /-- Machines that the deployment has nothing to do with are left alone. -/
  foreign : ∀ m ∈ listed, m.IsForeign listed → LeftAlone base past m
  /-- Past the release command, every machine that is named is the app's, or one that was launched
  since: a machine that was launched for the command is not named any more either. -/
  rollOut : CallsSince commanded past fun before c => ∀ id, c.machineId? = some id →
    (∃ m ∈ (Machine.Roster.ofList listed).app, m.id = id) ∨ LaunchedSince commanded before id
  /-- Past the release command, the machine that was found for it is left alone. -/
  found : ∀ m ∈ (Machine.Roster.ofList listed).releaseCommand, LeftAlone commanded past m
  /-- If there is no command to run, that machine is left alone from the start. -/
  idle : app.releaseCommand = none ∨ o.restartOnly = true →
    ∀ m ∈ (Machine.Roster.ofList listed).releaseCommand, LeftAlone base past m

/-- The ids of a fleet are those of the machines that it was made of. -/
theorem memberIds_ofMachines (machines : List Machine) :
    (Fleet.ofMachines machines).memberIds = machines.map (·.id) := by
  unfold Fleet.memberIds Fleet.machines Fleet.ofMachines
  rw [List.map_map, List.map_map]
  rfl

/-- A deployment without a release command to run is past it at once. -/
theorem runCommand_past_of_idle {d : Deployment} (s : Session σ)
    (hidle : d.command.effective? = none ∨ d.command.restartOnly = true) :
    (runCommand d env s).2.past = s.past := by
  refine Work.Triple.always (P := fun d' s' => d' = d ∧ s'.past = s.past)
    (R := fun s' => s'.past = s.past) ?_ ⟨rfl, rfl⟩
  exact (runCommand_idle hidle).mono (fun _ _ hs => hs) (fun _ _ _ hs => hs)
    (fun _ _ _ h => h.elim) (fun _ _ h => h.elim)

/-- The ids of an assembled fleet are those of the machines of the app. -/
theorem assemble_memberIds (o : Options) (app : App.Config) (strategy : Strategy)
    (roster : Machine.Roster) (volumes : Volume.Pool) (release : Release) :
    (assemble o app strategy roster volumes release).fleet.memberIds = roster.app.map (·.id) :=
  memberIds_ofMachines _

/-- The only id of the fleet of the command is that of its machine, if one was found. -/
theorem assemble_commandIds (o : Options) (app : App.Config) (strategy : Strategy)
    (roster : Machine.Roster) (volumes : Volume.Pool) (release : Release) :
    (assemble o app strategy roster volumes release).command.fleet.memberIds =
      roster.releaseCommand.toList.map (·.id) :=
  memberIds_ofMachines _

/-- Without a command to run, an assembled deployment is past it at once. -/
theorem assemble_past_of_idle {strategy : Strategy} {roster : Machine.Roster}
    {volumes : Volume.Pool} {release : Release}
    (hidle : app.releaseCommand = none ∨ o.restartOnly = true) (s : Session σ) :
    (runCommand (assemble o app strategy roster volumes release) env s).2.past = s.past := by
  refine runCommand_past_of_idle s (hidle.imp_left fun hnone => ?_)
  show (app.releaseCommand.map Text.trim).filter _ = none
  rw [hnone]
  rfl

/-- From its preparation on, a deployment names the machines of both phases, and those that were
launched. -/
theorem deploy_namesOwned (hechoes : env.Echoes) (d : Deployment) {s : Session σ}
    (hsetUp : CallsSince base s.past fun _ c => c.machineId? = none) :
    CallsSince base (deploy d env s).2.past
      (NamesOwned (d.fleet.memberIds ++ d.command.fleet.memberIds) base) := by
  have hruns := runCommand_namesOwned hechoes d s
  have hbase := hsetUp.suffix
  refine CallsSince.trans (hsetUp.mono fun _ c _ _ hc => ?_) (CallsSince.trans
    (hruns.mono fun _ c _ _ hc => hc.mono (List.subset_append_right _ _) hbase)
    ((rollOut_namesOwned hechoes d s).mono fun _ c _ _ hc =>
      hc.mono (List.subset_append_left _ _) (hbase.trans hruns.suffix)))
  exact NamesOwned.of_eq_none hc

/-- A deployment that was assembled from the listed machines touches them as it may. -/
theorem deploy_touches (hechoes : env.Echoes) (hids : (listed.map (·.id)).Nodup)
    (strategy : Strategy) (volumes : Volume.Pool) (release : Release)
    (hcommand : app'.releaseCommand = app.releaseCommand) {s : Session σ}
    (hsetUp : CallsSince base s.past fun _ c => c.machineId? = none) {d : Deployment}
    (hd : d = assemble o app' strategy (.ofList listed) volumes release) :
    Touches listed o app base (runCommand d env s).2.past (deploy d env s).2.past := by
  have hown := deploy_namesOwned hechoes d hsetUp
  have hrolls := rollOut_namesOwned hechoes d s
  have hfleet : d.fleet.memberIds = (Machine.Roster.ofList listed).app.map (·.id) := by
    rw [hd, assemble_memberIds]
  have hjob : d.command.fleet.memberIds =
      (Machine.Roster.ofList listed).releaseCommand.toList.map (·.id) := by
    rw [hd, assemble_commandIds]
  rw [hfleet, hjob, ← List.map_append] at hown
  rw [hfleet] at hrolls
  have happ : (Machine.Roster.ofList listed).app ⊆ listed :=
    List.Subset.trans (List.subset_append_left _ _) Machine.Roster.own_subset
  -- A machine of the release command is none of the app's.
  have hfound : ∀ m ∈ (Machine.Roster.ofList listed).releaseCommand,
      LeftAlone (runCommand d env s).2.past (deploy d env s).2.past m := by
    refine fun m hm => LeftAlone.of_namesOwned hrolls (Machine.id_not_mem_map hids happ ?_ ?_)
    · exact (Machine.Roster.mem_releaseCommand hm).1
    · exact fun hm' => Machine.Roster.disjoint hm' hm
  refine ⟨hown.mono fun _ c _ _ hc id hid => ?_, fun m hm hforeign => ?_,
    hrolls.mono fun _ _ _ _ hc _ hid => hc.of_machines List.suffix_rfl hid, hfound,
    fun hidle m hm => ?_⟩
  · rcases hc.of_machines List.suffix_rfl hid with ⟨m, hm, hmid⟩ | hlaunched
    · rcases Machine.Roster.mem_own.mp hm with hm | hm
      · exact .inl ⟨m, hm, hmid⟩
      · exact .inr (.inl ⟨m, hm, hmid⟩)
    · exact .inr (.inr hlaunched)
  · exact LeftAlone.of_namesOwned hown
      (Machine.id_not_mem_map hids Machine.Roster.own_subset hm hforeign.not_mem_own)
  · -- Without a command the rollout starts where the preparation ended.
    have hafter := hfound m hm
    have hpast : (runCommand d env s).2.past = s.past := by
      rw [hd, assemble_past_of_idle (hidle.imp_left hcommand.trans) s]
    rw [hpast] at hafter
    refine CallsSince.trans (hsetUp.mono fun _ c _ _ hc hid => ?_)
      (hafter.mono fun _ c _ _ hc hid => (hc hid).since_earlier hsetUp.suffix)
    rw [hc] at hid
    cases hid

/-- A deployment to an app whose machines are told apart by their ids names none of them to prepare
itself, and then touches its own only. No machine is both the app's and the release command's. -/
theorem prepare_deploy_touches (hechoes : env.Echoes) (hids : (listed.map (·.id)).Nodup)
    (hlists : env.Lists listed) (b : Bounds) (o : Options) (app : App.Config) (s : Session σ) :
    CallsSince s.past (prepare b o app env s).2.past (fun _ c => c.machineId? = none) ∧
    (∀ d s₁, prepare b o app env s = (.done (.ok d), s₁) →
      Touches listed o app s.past (runCommand d env s₁).2.past (deploy d env s₁).2.past) ∧
    ∀ m ∈ (Machine.Roster.ofList listed).app,
      (Machine.Roster.ofList listed).releaseCommand ≠ some m := by
  have hsetUp := (prepare_calls b o app env s).callsSince
  refine ⟨hsetUp, fun d s₁ hprepare => ?_, fun m hm => Machine.Roster.disjoint hm⟩
  have hassembles : Run.Post.Holds _ (prepare b o app env s) :=
    prepare_assembles b o app s List.suffix_rfl
  rw [hprepare] at hassembles hsetUp
  obtain ⟨app', strategy, roster, volumes, release, happ, hgives, -, hd⟩ := hassembles d rfl
  obtain rfl := hlists roster hgives
  -- The overrides leave the release command as it is.
  have hcommand : app'.releaseCommand = app.releaseCommand := by
    obtain ⟨settings, -, -, rfl⟩ := (checkApp_ok_iff.mp happ).1
    rfl
  exact deploy_touches hechoes hids strategy volumes release hcommand hsetUp hd

/-- A machine of an app, two for its release command, one of another platform and one that is being
destroyed. -/
def neighbours : List Machine :=
  let metadata : Dict String := Dict.insert {} Metadata.platformVersion Metadata.platformV2
  let forJobs := metadata.insert Metadata.processGroup Metadata.releaseCommandGroup
  [{ id := "web", config := { metadata := metadata } },
    { id := "job", config := { metadata := forJobs } },
    { id := "second", config := { metadata := forJobs } },
    { id := "other" },
    { id := "leaving", state := .destroying, config := { metadata := metadata } }]

/-- A deployment among machines of every kind touches its own only. -/
theorem prepare_deploy_touches_neighbours : ∃ d s₁,
    (Environment.listing neighbours).Echoes ∧ (neighbours.map (·.id)).Nodup ∧
    (Environment.listing neighbours).Lists neighbours ∧
    prepare {} { image := some "web:v2" } { migrating with appName := "web" }
      (.listing neighbours) { remote := () } = (.done (.ok d), s₁) ∧
    Touches neighbours { image := some "web:v2" } { migrating with appName := "web" } []
      (runCommand d (.listing neighbours) s₁).2.past
      (deploy d (.listing neighbours) s₁).2.past := by
  have hends : Run.endsWith (fun result _ => result.isOk) (prepare {} { image := some "web:v2" }
      { migrating with appName := "web" } (.listing neighbours) { remote := () }) = true := by
    decide +kernel
  obtain ⟨e | d, s₁, hprepare, hok⟩ := Run.exists_of_endsWith hends
  · cases hok
  have hids : (neighbours.map (·.id)).Nodup := by decide
  have htouches := prepare_deploy_touches (Environment.listing_echoes neighbours) hids
    (Environment.listing_lists neighbours) {} { image := some "web:v2" }
    { migrating with appName := "web" } { remote := () }
  exact ⟨d, s₁, Environment.listing_echoes neighbours, hids, Environment.listing_lists neighbours,
    hprepare, htouches.2.1 d s₁ hprepare⟩

end Deployment

end Rollout
