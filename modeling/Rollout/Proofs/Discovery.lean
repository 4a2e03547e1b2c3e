import Rollout.Machine.Discovery
import Rollout.Proofs.Inputs
import Rollout.Proofs.Restarting

/-!
# Discovery after a deployment

Whom a machine belongs to is read off two keys of its metadata: the platform version and the process
group. Three paths write metadata: an update lays the group over what the machine had, a restart
keeps the configuration, and the release is stamped on either. The stamp binds the two keys only
where they are unbound, so what is there has to be right already, and it is for machines that were
discovered.

So the next deployment finds a machine in the same role. What was deployed as the app's is the app's
again, and what ran a release command never becomes one of the app's machines.

## Main statements

- `Resolver.resolve_deployedFor`, `Resolver.launch_deployedFor`,
  `Resolver.releaseCommand_deployedFor`: whom the configurations of the requests belong to.
- `Resolver.rediscovered`: every machine of such a configuration is discovered in the same role.
-/

namespace Rollout

/-- The metadata that a release binds where it is unbound. -/
def Metadata.defaults : List (String × String) :=
  [(platformVersion, platformV2), (processGroup, appGroup)]

namespace Machine

variable {c c' : Config} {m : Machine} {group : String} {listed : List Machine}

/-- Whether machines of a configuration are on the platform, for a process group. -/
structure Config.DeployedFor (c : Config) (group : String) : Prop where
  platform : c.metadata.get? Metadata.platformVersion = some Metadata.platformV2
  group : c.processGroup = group

namespace Config

/-- The process group is read off the metadata. -/
theorem processGroup_congr (h : c'.metadata.get? Metadata.processGroup =
    c.metadata.get? Metadata.processGroup) : c'.processGroup = c.processGroup := by
  unfold processGroup
  rw [h]

/-- A group that is written down is the group. -/
theorem processGroup_of_get? (h : c.metadata.get? Metadata.processGroup = some group)
    (hne : group ≠ "") : c.processGroup = group := by
  unfold processGroup
  rw [h]
  exact if_neg hne

/-- A process group always has a name. -/
theorem processGroup_ne (c : Config) : c.processGroup ≠ "" := by
  have happ : Metadata.appGroup ≠ "" := by decide
  unfold processGroup
  -- What is written down counts only if it is not empty.
  split
  · split
    · exact happ
    · rename_i hne
      exact hne
  · exact happ

/-- Whom machines belong to is told by the metadata alone. -/
theorem DeployedFor.congr (h : c.DeployedFor group) (hmetadata : c'.metadata = c.metadata) :
    c'.DeployedFor group :=
  ⟨hmetadata ▸ h.platform, (processGroup_congr (by rw [hmetadata])).trans h.group⟩

end Config

/-! ## Roles -/

/-- A machine is the app's if it is on the platform, stays, and is in another group than the release
command. -/
theorem isAppMachine_iff : m.isAppMachine = true ↔
    m.config.DeployedFor m.processGroup ∧ m.isLeaving = false ∧
      m.processGroup ≠ Metadata.releaseCommandGroup := by
  simp only [isAppMachine, isOnPlatform, runsReleaseCommand, Bool.and_eq_true, beq_iff_eq,
    Bool.not_eq_true', beq_eq_false_iff_ne, and_assoc]
  exact and_congr_left' ⟨fun h => ⟨h, rfl⟩, fun h => h.platform⟩

/-- A machine may run the release command if it is on the platform for it and stays. -/
theorem isReleaseCandidate_iff : m.isReleaseCandidate = true ↔
    m.config.DeployedFor Metadata.releaseCommandGroup ∧ m.isLeaving = false := by
  simp only [isReleaseCandidate, isOnPlatform, runsReleaseCommand, Bool.and_eq_true, beq_iff_eq,
    Bool.not_eq_true']
  exact ⟨fun h => ⟨⟨h.1.1, h.2⟩, h.1.2⟩, fun h => ⟨⟨h.1.platform, h.2⟩, h.1.group⟩⟩

/-- A machine of the release command is not the app's. -/
theorem not_isAppMachine (h : m.config.DeployedFor Metadata.releaseCommandGroup) :
    m.isAppMachine = false :=
  Bool.eq_false_iff.mpr fun happ => (isAppMachine_iff.mp happ).2.2 h.group

/-- The machines of the app are those of the listing that are the app's. -/
theorem Roster.mem_app : m ∈ (Roster.ofList listed).app ↔ m ∈ listed ∧ m.isAppMachine = true :=
  List.mem_filter

/-- The machine of the release command is one of the listing that may run it. -/
theorem Roster.mem_releaseCommand (h : m ∈ (Roster.ofList listed).releaseCommand) :
    m ∈ listed ∧ m.isReleaseCandidate = true :=
  ⟨List.mem_of_find?_eq_some h, List.find?_some h⟩

end Machine

namespace Resolver

variable {r r' : Resolver} {orig m : Machine} {group : String} {input : LaunchInput}
variable {config config' : Machine.Config} {remounts : Bool}

/-! ## Metadata that requests write -/

/-- What is bound unless it is bound: what it was bound to before, or else the value. -/
theorem get?_orInsert_self (d : Dict String) (key value : String) :
    (orInsert d key value).get? key = some ((d.get? key).getD value) := by
  unfold orInsert Dict.contains
  split
  · -- What is bound stays.
    rename_i hbound
    obtain ⟨old, hold⟩ := Option.isSome_iff_exists.mp hbound
    rw [hold]
    rfl
  · rename_i hunbound
    rw [Dict.get?_insert, if_pos rfl, Option.not_isSome_iff_eq_none.mp hunbound]
    rfl

/-- The platform version and the process group are stamped where they are missing. -/
theorem stampMetadata_default (r : Resolver) (d : Dict String) {key value : String}
    (h : (key, value) ∈ Metadata.defaults) :
    (r.stampMetadata d).get? key = some ((d.get? key).getD value) := by
  have hne : Metadata.platformVersion ≠ Metadata.processGroup := by decide
  -- All other keys that are stamped are none of the two.
  have hothers : key ∉ [Metadata.releaseId, Metadata.releaseVersion, Metadata.toolVersion,
      Metadata.managedPostgres] := by
    simp only [Metadata.defaults, List.mem_cons, Prod.mk.injEq, List.not_mem_nil, or_false] at h
    obtain ⟨rfl, -⟩ | ⟨rfl, -⟩ := h <;> decide
  simp only [List.mem_cons, List.not_mem_nil, or_false, not_or] at hothers
  obtain ⟨hid, hversion, htool, hpostgres⟩ := hothers
  -- The two are bound last, and neither overwrites the other.
  have hbound : ∀ d' : Dict String,
      (orInsert (orInsert d' Metadata.platformVersion Metadata.platformV2) Metadata.processGroup
        Metadata.appGroup).get? key = some ((d'.get? key).getD value) := by
    intro d'
    simp only [Metadata.defaults, List.mem_cons, Prod.mk.injEq, List.not_mem_nil, or_false] at h
    obtain ⟨rfl, rfl⟩ | ⟨rfl, rfl⟩ := h
    · rw [get?_orInsert _ hne, get?_orInsert_self]
    · rw [get?_orInsert_self, get?_orInsert _ hne.symm]
  unfold stampMetadata
  split
  · rw [Dict.get?_insert, if_neg hpostgres, hbound]
    simp only [Dict.get?_insert, hid, hversion, htool, if_false]
  · rw [Dict.get?_erase, if_neg hpostgres, hbound]
    simp only [Dict.get?_insert, hid, hversion, htool, if_false]

/-- Of a configuration only the metadata is stamped. -/
theorem stamp_metadata (r : Resolver) (c : Machine.Config) :
    (r.stamp c).metadata = r.stampMetadata c.metadata := rfl

/-- Stamping a configuration leaves it in its process group. -/
theorem stamp_processGroup (r : Resolver) (c : Machine.Config) :
    (r.stamp c).processGroup = c.processGroup := by
  have hgroup : (r.stamp c).metadata.get? Metadata.processGroup =
      some ((c.metadata.get? Metadata.processGroup).getD Metadata.appGroup) :=
    r.stampMetadata_default c.metadata (List.mem_cons_of_mem _ List.mem_cons_self)
  unfold Machine.Config.processGroup
  rw [hgroup]
  cases c.metadata.get? Metadata.processGroup with
  | none => exact if_neg (by decide)
  | some group => rfl

/-- What is stamped with a release is on the platform, unless it was on another one before. -/
theorem stamp_deployedFor (r : Resolver)
    (hplatform : ∀ version ∈ config.metadata.get? Metadata.platformVersion,
      version = Metadata.platformV2) :
    (r.stamp config).DeployedFor config.processGroup := by
  refine ⟨?_, r.stamp_processGroup config⟩
  rw [stamp_metadata, r.stampMetadata_default _ List.mem_cons_self]
  cases hversion : config.metadata.get? Metadata.platformVersion with
  | none => rfl
  | some version => exact congrArg some (hplatform version hversion)

/-- What is deployed for a group stays so when it is stamped with a release. -/
theorem restamp_deployedFor (r : Resolver) (h : config.DeployedFor group) :
    (r.stamp config).DeployedFor group := by
  rw [← h.group]
  refine r.stamp_deployedFor fun version hversion => ?_
  exact Option.some.inj (hversion.symm.trans h.platform)

/-- The configuration of a group keeps the metadata of what it is laid over, but for the group. -/
theorem machineConfig_metadata {c : App.Config} {old : Option Machine.Config} {image : String}
    (h : c.machineConfig group old image = .ok config) :
    config.metadata = (old.getD {}).metadata.insert Metadata.processGroup group := by
  rw [App.Config.machineConfig_ok h]
  rfl

/-- The configuration of a group is that group's on the platform. What it is laid over must not be
on another one. -/
theorem Lays.deployedFor {old : Option Machine.Config} (h : r.Lays group old config)
    (hne : group ≠ "")
    (hold : ∀ o ∈ old, o.metadata.get? Metadata.platformVersion = some Metadata.platformV2) :
    config.DeployedFor group := by
  obtain ⟨laid, hlaid, hplaced⟩ := h
  -- The group is written when the configuration is laid.
  have hgroup : laid.processGroup = group := by
    refine Machine.Config.processGroup_of_get? ?_ hne
    rw [machineConfig_metadata hlaid, Dict.get?_insert, if_pos rfl]
  rw [← hgroup]
  refine (r.stamp_deployedFor fun version hversion => ?_).congr hplaced.metadata
  rw [machineConfig_metadata hlaid, Dict.get?_insert, if_neg (by decide)] at hversion
  cases old with
  | none => cases hversion
  | some o => exact Option.some.inj (hversion.symm.trans (hold o rfl))

/-! ## Whom requests are for -/

/-- An update leaves a machine in its process group. -/
theorem update_deployedFor (h : (r.update orig).2 = .ok input)
    (horig : orig.config.DeployedFor group) : input.config.DeployedFor group := by
  have hgroup : orig.processGroup = group := horig.group
  rw [← hgroup]
  refine (update_lays h).deployedFor orig.config.processGroup_ne fun o ho => ?_
  obtain rfl := Option.some.inj ho
  exact horig.platform

/-- A request for an existing machine, be it a restart or an update, leaves it in its group. -/
theorem resolve_deployedFor (h : (r.resolve orig).2 = .ok input)
    (horig : orig.config.DeployedFor group) : input.config.DeployedFor group := by
  -- A restart only stamps; everything else is an update.
  rcases r.resolve_cases orig with hresolve | hresolve
  · rw [hresolve] at h
    cases h
    exact r.restamp_deployedFor horig
  · rw [hresolve] at h
    exact update_deployedFor h horig

/-- A new machine is launched for the process group that was asked for. -/
theorem launch_deployedFor {standbys : List String}
    (h : (r.launch group standbys).2 = .ok input) (hne : group ≠ "") :
    input.config.DeployedFor group :=
  (launch_lays h).deployedFor hne fun o ho => by cases ho

/-- The machine of the release command is in the command's process group. -/
theorem releaseCommand_deployedFor {orig : Option Machine}
    (h : r.releaseCommand orig = .ok input)
    (horig : ∀ m ∈ orig, m.config.DeployedFor Metadata.releaseCommandGroup) :
    input.config.DeployedFor Metadata.releaseCommandGroup := by
  refine (releaseCommand_lays h).deployedFor (by decide) fun o ho => ?_
  obtain ⟨m, hm, rfl⟩ := Option.map_eq_some_iff.mp ho
  exact (horig m hm).platform

/-! ## Discovered again -/

/-- Whether a request is for a machine of the app: one of those that are listed, or a new one. -/
inductive ForApp (r : Resolver) (listed : List Machine) (input : LaunchInput) : Prop where
  | listed {m : Machine} (hlisted : m ∈ (Machine.Roster.ofList listed).app)
      (hresolve : (r.resolve m).2 = .ok input) : ForApp r listed input
  | new {standbys : List String}
      (hlaunch : (r.launch Metadata.appGroup standbys).2 = .ok input) : ForApp r listed input

/-- Whether a request is for a machine that runs a command line: the one that is listed for it, or
a new one. -/
inductive ForCommand (r : Resolver) (listed : List Machine) (commandLine : String) :
    LaunchInput → Prop where
  | listed {m : Machine} {input : LaunchInput}
      (hlisted : (Machine.Roster.ofList listed).releaseCommand = some m)
      (hinput : r.releaseCommand (some m) = .ok input) :
      ForCommand r listed commandLine (ReleaseCommand.oneShot input commandLine)
  | new {input : LaunchInput} (hinput : r.releaseCommand none = .ok input) :
      ForCommand r listed commandLine (ReleaseCommand.oneShot input commandLine)

variable {listed : List Machine} {commandLine : String}

/-- A request for the app is in a group other than the release command's. -/
theorem ForApp.deployedFor (h : r.ForApp listed input) :
    ∃ group, group ≠ Metadata.releaseCommandGroup ∧ input.config.DeployedFor group := by
  cases h with
  | listed hlisted hresolve =>
    obtain ⟨horig, -, hgroup⟩ := Machine.isAppMachine_iff.mp (Machine.Roster.mem_app.mp hlisted).2
    exact ⟨_, hgroup, resolve_deployedFor hresolve horig⟩
  | new hlaunch => exact ⟨Metadata.appGroup, by decide, launch_deployedFor hlaunch (by decide)⟩

/-- A request for the release command is in its group. -/
theorem ForCommand.deployedFor (h : r.ForCommand listed commandLine input) :
    input.config.DeployedFor Metadata.releaseCommandGroup := by
  cases h with
  | listed hlisted hinput =>
    refine (releaseCommand_deployedFor hinput fun m hm => ?_).congr rfl
    obtain rfl := Option.some.inj hm
    exact (Machine.isReleaseCandidate_iff.mp (Machine.Roster.mem_releaseCommand hlisted).2).1
  | new hinput => exact (releaseCommand_deployedFor hinput fun m hm => by cases hm).congr rfl

/-- Discovery is closed under deployment. Whatever machine has the configuration of a request for
the app is the app's in every later listing, unless it is on its way out. Whatever machine has the
configuration of a request for the release command is never the app's, and may run the command
again. -/
theorem rediscovered (r : Resolver) (listed : List Machine) (commandLine : String) (m : Machine) :
    (∀ input, r.ForApp listed input → m.config = input.config → m.isLeaving = false →
      ∀ later, m ∈ later → m ∈ (Machine.Roster.ofList later).app) ∧
    ∀ input, r.ForCommand listed commandLine input → m.config = input.config →
      (∀ later, m ∉ (Machine.Roster.ofList later).app) ∧
      (m.isLeaving = false → m.isReleaseCandidate = true ∧
        ∀ later, m ∈ later → (Machine.Roster.ofList later).releaseCommand.isSome) := by
  constructor
  · -- A machine in the release command's group is no machine of the app.
    intro input hinput hm hstays later hlater
    obtain ⟨group, hgroup, hdeployed⟩ := hinput.deployedFor
    rw [← hm] at hdeployed
    refine Machine.Roster.mem_app.mpr ⟨hlater, Machine.isAppMachine_iff.mpr ⟨?_, hstays, ?_⟩⟩
    · exact ⟨hdeployed.platform, rfl⟩
    · -- Its group is not the release command's.
      exact fun h => hgroup (hdeployed.group.symm.trans h)
  · intro input hinput hm
    have hdeployed := hinput.deployedFor
    rw [← hm] at hdeployed
    constructor
    · intro later hlater
      have happ := (Machine.Roster.mem_app.mp hlater).2
      rw [Machine.not_isAppMachine hdeployed] at happ
      cases happ
    · intro hstays
      have hcandidate := Machine.isReleaseCandidate_iff.mpr ⟨hdeployed, hstays⟩
      exact ⟨hcandidate, fun later hlater => List.find?_isSome.mpr ⟨m, hlater, hcandidate⟩⟩

/-- A resolver of an app that says nothing. -/
def plain : Resolver where
  app := {}
  image := "web:v2"
  release := { id := "rel_1", version := 2 }
  restartOnly := false
  volumes := {}

/-- A machine on the platform that is in no process group. -/
def ungrouped : Machine :=
  { id := "m1", config := { metadata := .ofList [("platform_version", "v2")] } }

/-- A machine on the platform that runs release commands. -/
def commandRunner : Machine where
  id := "job"
  config := {
    metadata := .ofList [("platform_version", "v2"), ("process_group", "release_command")] }

/-- A machine in no group is the app's again, and the one that runs commands stays what it is. -/
theorem rediscovered_plain : ∃ input command : LaunchInput,
    plain.ForApp [ungrouped, commandRunner] input ∧
    plain.ForCommand [ungrouped, commandRunner] "migrate" command ∧
    input.id = some "m1" ∧ command.id = some "job" ∧
    (∀ later, { id := "m1", config := input.config } ∈ later →
      { id := "m1", config := input.config } ∈ (Machine.Roster.ofList later).app) ∧
    (∀ later, { id := "job", config := command.config } ∉ (Machine.Roster.ofList later).app) ∧
    ({ id := "job", config := command.config } : Machine).isReleaseCandidate = true := by
  have happ : ∃ input, plain.ForApp [ungrouped, commandRunner] input ∧ input.id = some "m1" :=
    ⟨_, .listed (m := ungrouped) List.mem_cons_self rfl, rfl⟩
  have hcommand : ∃ command, plain.ForCommand [ungrouped, commandRunner] "migrate" command ∧
      command.id = some "job" :=
    ⟨_, .listed (m := commandRunner) rfl rfl, rfl⟩
  obtain ⟨input, hinput, hid⟩ := happ
  obtain ⟨command, hrequest, hjob⟩ := hcommand
  have hweb := (plain.rediscovered [ungrouped, commandRunner] "migrate"
    { id := "m1", config := input.config }).1 input hinput rfl rfl
  have hrun := (plain.rediscovered [ungrouped, commandRunner] "migrate"
    { id := "job", config := command.config }).2 command hrequest rfl
  exact ⟨input, command, hinput, hrequest, hid, hjob, hweb, hrun.1, (hrun.2 rfl).1⟩

end Resolver

end Rollout
