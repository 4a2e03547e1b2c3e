import Rollout.Proofs.RollingGate

/-!
# Restarts

A restart keeps the app as it is. Every machine that was listed is updated to its own configuration
with the metadata of the release, no release command runs, nothing is destroyed, and nothing is
launched as long as there is a machine. An app without machines is the exception: a restart gives
it its first one, of no image.

The members of the fleet change while they are updated, each in its turn. So the invariant of the
updates speaks of the members whose turn is still to come: they have the machines that were listed.

## Main statements

- `Resolver.stampMetadata_get?`: a release renews its own keys of the metadata and no others.
- `Deployment.deploy_restarts`: what a restart asks of the control plane.
- `Deployment.restart_launches`: a restart of an app without machines launches one.
-/

namespace Rollout

variable {σ α : Type} {env : Environment σ} {base past past' : List Step}

/-- The metadata keys that a release renews. -/
def Metadata.renewed : List String :=
  [releaseId, releaseVersion, toolVersion, platformVersion, processGroup, managedPostgres]

namespace Resolver

/-- A value that is put where there is none changes no other. -/
theorem get?_orInsert {d : Dict String} {key key' : String} (value : String) (hne : key' ≠ key) :
    (orInsert d key value).get? key' = d.get? key' := by
  unfold orInsert
  split
  · rfl
  · rw [Dict.get?_insert, if_neg hne]

/-- A release renews its own keys of the metadata and no others. -/
theorem stampMetadata_get? (r : Resolver) (d : Dict String) {key : String}
    (hkey : key ∉ Metadata.renewed) : (r.stampMetadata d).get? key = d.get? key := by
  simp only [Metadata.renewed, List.mem_cons, List.not_mem_nil, or_false, not_or] at hkey
  obtain ⟨hid, hversion, htool, hplatform, hgroup, hpostgres⟩ := hkey
  unfold stampMetadata
  dsimp only
  -- The mark of a database is put or taken away, and is one of the keys that are renewed.
  split
  · rw [Dict.get?_insert, if_neg hpostgres]
    simp only [get?_orInsert _ hgroup, get?_orInsert _ hplatform, Dict.get?_insert, hid, hversion,
      htool, if_false]
  · rw [Dict.get?_erase, if_neg hpostgres]
    simp only [get?_orInsert _ hgroup, get?_orInsert _ hplatform, Dict.get?_insert, hid, hversion,
      htool, if_false]

end Resolver

/-- Whether a request keeps a machine as it is, but for the metadata that a release renews. -/
structure LaunchInput.Keeps (input : LaunchInput) (m : Machine) : Prop where
  id : input.id = some m.id
  region : input.region = m.region
  config : { input.config with metadata := m.config.metadata } = m.config
  metadata : ∀ key, key ∉ Metadata.renewed →
    input.config.metadata.get? key = m.config.metadata.get? key

/-- A restart keeps the machine as it is. -/
theorem Resolver.restart_keeps (r : Resolver) (m : Machine) : (r.restart m).Keeps m :=
  ⟨rfl, rfl, rfl, fun _ hkey => r.stampMetadata_get? m.config.metadata hkey⟩

/-- Whether a call keeps an app with some machines as it is. The machines are kept when they are
updated, and an app without any may be given one. -/
def Call.KeepsApp (machines : List Machine) : Call → Prop
  | .launch _ => machines = []
  | .destroy .. => False
  | .update input _ => ∃ m ∈ machines, input.Keeps m
  | _ => True

namespace Deployment

variable {r : Resolver} {machines : List Machine} {place : Nat} {places : List Nat}
variable {d : Deployment}

/-- Whether a restart has kept the app since a moment, and has the machines that were listed in
some places still to update. -/
structure Restarting (r : Resolver) (machines : List Machine) (base : List Step)
    (places : List Nat) (d : Deployment) (past : List Step) : Prop where
  resolver : d.resolver = r
  listed : ∀ place ∈ places, ∀ h, d.fleet.members[place]? = some h → h.machine ∈ machines
  kept : CallsSince base past fun _ c => c.KeepsApp machines

namespace Restarting

/-- Fewer members may be left to update. -/
theorem mono (h : Restarting r machines base places d past) {places' : List Nat}
    (hsubset : ∀ place ∈ places', place ∈ places) :
    Restarting r machines base places' d past :=
  ⟨h.resolver, fun place hplace => h.listed place (hsubset place hplace), h.kept⟩

/-- Calls that keep the app change nothing for the members that are left. -/
theorem adds (h : Restarting r machines base places d past)
    (hadds : Adds (Call.KeepsApp machines) past past') :
    Restarting r machines base places d past' :=
  ⟨h.resolver, h.listed, h.kept.trans hadds.callsSince⟩

/-- What becomes of a member is nothing to those that are still to be updated. -/
theorem set (h : Restarting r machines base places d past) (hplace : place ∉ places)
    (h' : Handle) :
    Restarting r machines base places { d with fleet := d.fleet.set place h' } past := by
  refine ⟨h.resolver, fun other hother member hmember => h.listed other hother member ?_, h.kept⟩
  -- The others are in other places.
  have hne : place ≠ other := fun heq => hplace (heq ▸ hother)
  rw [← hmember]
  exact (List.getElem?_set_ne hne).symm

/-- What is left in the end, however the updates went. -/
def post (machines : List Machine) (base : List Step) : Work.Post σ Deployment α :=
  ⟨fun _ _ s => CallsSince base s.past fun _ c => c.KeepsApp machines,
    fun _ _ s => CallsSince base s.past fun _ c => c.KeepsApp machines,
    fun _ s => CallsSince base s.past fun _ c => c.KeepsApp machines⟩

/-- What is left when a member had its turn. -/
def turned (r : Resolver) (machines : List Machine) (base : List Step) (places : List Nat) :
    Work.Post σ Deployment α :=
  ⟨fun d _ s => Restarting r machines base places d s.past,
    fun d _ s => Restarting r machines base places d s.past,
    fun _ s => CallsSince base s.past fun _ c => c.KeepsApp machines⟩

end Restarting

/-- Work on one member leaves the others to be updated. -/
theorem onMember_restarting (hplace : place ∉ places) {x : Work σ Handle α}
    (hx : x.Calls (Call.KeepsApp machines)) :
    Work.Triple env (fun d s => Restarting r machines base places d s.past) (onMember place x)
      (Restarting.turned r machines base places) := by
  refine onFleet_triple fun d => Fleet.member_triple (fun _ s hs => hs) fun h hh => ?_
  refine (hx h).triple.mono (fun _ hs => hs) ?_ ?_
  · -- Whether the work succeeds or fails, only this member can have changed.
    rintro ⟨h', e | a⟩ s ⟨s₀, hs₀, hadds⟩
    · exact (hs₀.adds hadds).set hplace h'
    · exact (hs₀.adds hadds).set hplace h'
  · rintro e s ⟨s₀, hs₀, hadds⟩
    exact (hs₀.adds hadds).kept

/-- To wait for a machine changes nothing. -/
theorem waitFor_keepsApp (d : Deployment) :
    (waitFor (σ := σ) d).Calls (Call.KeepsApp machines) :=
  waitFor_calls d (fun _ _ _ => trivial) fun _ => trivial

/-- In its turn a member is asked to stay as it was listed. -/
theorem updateMember_restarting (hrestart : r.restartOnly = true) (hplace : place ∉ places) :
    Work.Triple env (fun d s => Restarting r machines base (place :: places) d s.past)
      (updateMember place) (Restarting.turned r machines base places) := by
  -- The member in its turn is not left to update any more.
  have hrest : ∀ d past, Restarting r machines base (place :: places) d past →
      Restarting r machines base places d past :=
    fun d past h => h.mono fun _ => List.mem_cons_of_mem place
  refine Work.Triple.bind (read_triple place _) (fun orig => ?_)
    (fun d _ s hs => hrest d s.past hs) (fun _ _ h => h.elim)
  -- The request is the one that keeps the machine, and takes nothing from the resolver.
  refine Work.Triple.bind (R := ⟨fun d input s => (orig ∈ machines ∧ input = r.restart orig) ∧
    Restarting r machines base places d s.past,
    fun d _ s => Restarting r machines base places d s.past, fun _ _ => False⟩)
    ((resolve_triple _).mono (fun _ _ hs => hs) ?_ ?_ (fun _ _ h => h)) (fun input => ?_)
    (fun _ _ _ hs => hs) (fun _ _ h => h.elim)
  · rintro _ input s ⟨d, ⟨hs, h, hh, rfl⟩, rfl, hinput⟩
    have hresolve : d.resolver.resolve h.machine = (r, .ok (r.restart h.machine)) := by
      rw [Resolver.resolve, hs.resolver, if_pos hrestart]
    rw [hresolve] at hinput ⊢
    have hlisted : h.machine ∈ machines := hs.listed place List.mem_cons_self h hh
    exact ⟨⟨hlisted, (Except.ok.inj hinput).symm⟩, rfl, (hrest d s.past hs).listed, hs.kept⟩
  · -- A restart refuses no machine.
    rintro _ e s ⟨d, ⟨hs, h, hh, rfl⟩, rfl, hinput⟩
    rw [Resolver.resolve, hs.resolver, if_pos hrestart] at hinput
    cases hinput
  · refine Work.Triple.of_and fun hinput => ?_
    obtain ⟨hlisted, rfl⟩ := hinput
    -- The one call of the update is the request itself.
    have hupdate : (Handle.update (σ := σ) (r.restart orig)).Calls (Call.KeepsApp machines) := by
      refine fun h => (Handle.update_calls h _).mono ?_
      rintro c ⟨nonce, rfl⟩
      exact ⟨orig, hlisted, r.restart_keeps orig⟩
    refine Work.Triple.bind (onMember_restarting hplace hupdate) (fun _ => ?_)
      (fun _ _ _ hs => hs) (fun _ _ hs => hs)
    split
    · exact Work.Triple.value_bind fun d =>
        (onMember_restarting hplace (waitFor_keepsApp d)).pre fun _ _ hs => hs.2
    · exact Work.Triple.pure fun _ _ hs => hs

/-- However many members are updated, each is asked to stay as it was listed. -/
theorem updateMembers_restarting (hrestart : r.restartOnly = true) (hnodup : places.Nodup) :
    Work.Triple env (fun d s => Restarting r machines base places d s.past)
      (updateMembers places) (Restarting.post machines base) := by
  -- By induction on the members that are left, which are distinct.
  induction places with
  | nil => exact Work.Triple.pure fun _ _ hs => hs.kept
  | cons place rest ih =>
    rw [List.nodup_cons] at hnodup
    have ih := ih hnodup.2
    refine Work.Triple.attempt_bind (updateMember_restarting hrestart hnodup.1) (fun _ => ih)
      (fun e => ?_) (fun _ _ hs => hs)
    -- A failure ends the updates, or is passed over.
    refine Work.Triple.value_bind fun d => ?_
    split
    · exact ih.pre fun _ _ hs => hs.2
    · exact Work.Triple.fail fun _ _ hs => hs.2.kept

/-- Where no machine is changed, the app is kept. -/
theorem Quiet.kept (h : Quiet past past') :
    CallsSince past past' fun _ c => c.KeepsApp machines := by
  refine CallsSince.mono h fun _ c _ _ hc => ?_
  -- Nothing but these three is more than quiet.
  cases c with
  | launch | update | destroy => exact absurd trivial hc
  | _ => trivial

/-- When the fleet is leased, all machines are still to be updated. -/
theorem acquire_restarting (d : Deployment) (term : Nat) :
    Work.Triple env (fun d' s => d' = d ∧ s.past = base) (onFleet (Fleet.acquire term))
      ⟨fun d' _ s =>
          Restarting d.resolver d.fleet.machines base (List.range d.fleet.size) d' s.past,
        fun _ _ s => CallsSince base s.past fun _ c => c.KeepsApp d.fleet.machines,
        fun _ s => CallsSince base s.past fun _ c => c.KeepsApp d.fleet.machines⟩ := by
  refine onFleet_triple fun d' => Run.Triple.of_and fun hd => ?_
  subst hd
  refine (Fleet.acquire_calls term base).mono (fun _ hs => hs) ?_
    (fun _ _ hs => Quiet.kept (quiet_of_leases hs))
  rintro ⟨f', e | _⟩ s ⟨hmachines, hadds⟩
  · exact Quiet.kept (quiet_of_leases hadds)
  · refine ⟨rfl, fun place _ h hh => ?_, Quiet.kept (quiet_of_leases hadds)⟩
    rw [← hmachines]
    exact List.mem_map_of_mem (List.mem_of_getElem? hh)

/-- A fleet that is restarted is kept as it is, however the updates end. -/
theorem updateFleet_restarting (d : Deployment) (hrestart : d.resolver.restartOnly = true) :
    Work.Triple env (fun d' s => d' = d ∧ s.past = base) updateFleet
      (Restarting.post d.fleet.machines base) := by
  -- The leases are given up in every case, and that is quiet.
  have hrelease : ∀ result : Except DeployError Unit, Work.Triple env
      (fun _ s => CallsSince base s.past fun _ c => c.KeepsApp d.fleet.machines)
      ((onFleet Fleet.release).attempt >>= fun _ => Work.ofExcept result)
      (Restarting.post d.fleet.machines base) :=
    fun result => (release_then (fun _ _ h hquiet => CallsSince.trans h (Quiet.kept hquiet))
      result).mono (fun _ _ hs => hs) (fun _ _ _ hs => hs.2) (fun _ _ _ hs => hs.2)
      (fun _ _ hs => hs)
  refine Work.Triple.value_bind_of_eq ?_
  refine Work.Triple.bind (acquire_restarting d _) (fun _ => ?_) (fun _ _ _ hs => hs)
    (fun _ _ hs => hs)
  exact Work.Triple.attempt_bind (updateMembers_restarting hrestart List.nodup_range)
    (fun _ => hrelease _) (fun _ => hrelease _) (fun _ _ hs => hs)

/-- All that is called for the first machine of an app keeps an app without machines. -/
theorem createFirst_keepsApp : (createFirst (σ := σ)).Calls (Call.KeepsApp []) := by
  refine Work.Calls.bind (fun d => Run.Calls.pure _) fun input => ?_
  -- The launch is what an app without machines may be given.
  have hlaunch : (Call.launch input).KeepsApp [] := rfl
  refine (Work.Calls.call hlaunch).bind fun machine => ?_
  refine Work.Calls.value.bind fun d => ?_
  refine (Work.Calls.lift (waitFor_keepsApp d _)).bind fun x => ?_
  refine (Work.Calls.ofExcept _).bind fun _ => ?_
  exact Work.Calls.within (Work.Calls.change _)

/-- To roll out a restart keeps the app as it is. -/
theorem rollOut_restarting (d : Deployment) (hrestart : d.resolver.restartOnly = true) :
    Work.Triple env (fun d' s => d' = d ∧ s.past = base) rollOut
      (Restarting.post d.fleet.machines base) := by
  refine Work.Triple.value_bind_of_eq ?_
  split
  · -- An app without machines gets its first one.
    rename_i hempty
    have hmachines : d.fleet.machines = [] := by
      rw [Fleet.machines, List.isEmpty_iff.mp hempty]
      rfl
    rw [hmachines]
    refine fun d' => ((createFirst_keepsApp d').triple_at base).mono (fun _ hs => hs.2) ?_
      (fun _ _ hs => hs.callsSince)
    rintro ⟨d', e | _⟩ s hs
    · exact hs.callsSince
    · exact hs.callsSince
  · exact updateFleet_restarting d hrestart

/-- A restart destroys no machine. It updates machines that were listed only, each in its region
and to its own configuration but for the metadata that a release renews. It launches a machine
only for an app that has none. -/
theorem deploy_restarts (o : Options) (hrestart : o.restartOnly = true) (app : App.Config)
    (strategy : Strategy) (roster : Machine.Roster) (volumes : Volume.Pool) (release : Release)
    (s : Session σ) :
    CallsSince s.past
      (deploy (assemble o app strategy roster volumes release) env s).2.past
      fun _ c => c.KeepsApp roster.app := by
  let d := assemble o app strategy roster volumes release
  have hmachines : d.fleet.machines = roster.app :=
    assemble_machines o app strategy roster volumes release
  -- No command runs, so the roll-out begins with what was assembled.
  have hcommand : Work.Triple env (fun d' s' => d' = d ∧ s'.past = s.past) runCommand
      ⟨fun d' _ s' => AgreesBut d d' ∧ s'.past = s.past, fun _ _ _ => False,
        fun _ _ => False⟩ :=
    ((runCommand_value d).and (runCommand_idle (.inr hrestart))).mono
      (fun _ _ hs => ⟨hs.1, hs⟩) (fun _ _ _ hs => hs) (fun _ _ _ hs => hs.2) (fun _ _ hs => hs.2)
  have hdeploy : Work.Triple env (fun d' s' => d' = d ∧ s'.past = s.past) deploy
      (Restarting.post roster.app s.past) := by
    refine Work.Triple.bind hcommand (fun _ => ?_) (fun _ _ _ h => h.elim) (fun _ _ h => h.elim)
    intro d' s' hs
    obtain ⟨⟨c, rfl⟩, hpast⟩ := hs
    rw [← hmachines]
    exact rollOut_restarting { d with command := c } hrestart _ s' ⟨rfl, hpast⟩
  exact hdeploy.always ⟨rfl, rfl⟩

/-- A restart of two machines keeps both. -/
theorem deploy_restarts_obliging : ({ restartOnly := true } : Options).restartOnly = true ∧
    CallsSince [] (deploy (assemble { restartOnly := true } migrating .rolling twoMachines {} {})
        .obliging { remote := () }).2.past fun _ c => c.KeepsApp twoMachines.app :=
  ⟨rfl, deploy_restarts { restartOnly := true } rfl migrating .rolling twoMachines {} {}
    { remote := () }⟩

/-- A restart of an app without machines launches one, of no image. -/
theorem restart_launches : ∃ input time, input.config.image = "" ∧
    .asked (.launch input) time ∈ (deploy (assemble { restartOnly := true } {} .immediate {} {} {})
      .obliging { remote := () }).2.past := by
  refine ⟨_, _, rfl, List.mem_cons_of_mem _ List.mem_cons_self⟩

end Deployment

end Rollout
