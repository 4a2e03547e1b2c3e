import Mathlib.Data.List.Nodup
import Rollout.Launch.Resolver

/-!
# Volumes handed out

A resolver gives free volumes away, and requests of five kinds draw on the same pool in any order.
A request that succeeds either leaves the pool alone and keeps volumes its machine had, or takes
one volume and mounts it. A volume that was taken never comes back, so no two requests get the
same one.

A request that fails takes nothing, with one exception: a machine that has to move to another host
is refused because of its volume only after a new one was claimed for it.

## Main statements

- `Resolver.performAll_volumes`: what any sequence of requests does with the volumes listed.
- `Resolver.perform_failed`: what is left of the pool by a request that fails.
- `Resolver.update_loses_volume`: a request that fails may lose a volume.
-/

namespace Rollout

namespace Volume.Pool

variable {p p' : Pool} {v w : Volume} {name region : String}

/-- Whether a pool gave a volume away and kept all others in their order. -/
def Gave (p : Pool) (v : Volume) (p' : Pool) : Prop :=
  ∃ before after, p.volumes = before ++ v :: after ∧ p'.volumes = before ++ after

/-- What was given away was in the pool. -/
theorem Gave.mem (h : p.Gave v p') : v ∈ p.volumes := by
  obtain ⟨before, after, hp, -⟩ := h
  rw [hp]
  exact List.mem_append_right before List.mem_cons_self

/-- What is left was in the pool as well. -/
theorem Gave.sublist (h : p.Gave v p') : p'.volumes.Sublist p.volumes := by
  obtain ⟨before, after, hp, hp'⟩ := h
  rw [hp, hp']
  exact (List.Sublist.refl before).append (List.sublist_cons_self v after)

/-- A volume that was given away is not in the pool any more. -/
theorem Gave.id_ne (h : p.Gave v p') (hids : (p.volumes.map (·.id)).Nodup)
    (hw : w ∈ p'.volumes) : v.id ≠ w.id := by
  obtain ⟨before, after, hp, hp'⟩ := h
  rw [hp] at hids
  -- The volume may as well have been the first.
  have hmiddle : ((v :: (before ++ after)).map (·.id)).Nodup :=
    (List.perm_middle.map _).nodup_iff.mp hids
  rw [List.map_cons, List.nodup_cons] at hmiddle
  intro hid
  rw [hp'] at hw
  exact hmiddle.1 (hid ▸ List.mem_map_of_mem hw)

/-- What is taken is given away, and is of the name and in the region. -/
theorem take?_gave (h : p.take? name region = some (v, p')) :
    p.Gave v p' ∧ v.name = name ∧ v.region = region := by
  simp only [take?, Option.map_eq_some_iff, Prod.mk.injEq] at h
  obtain ⟨v', hfind, rfl, rfl⟩ := h
  obtain ⟨hfits, before, after, hp, hbefore⟩ := List.find?_eq_some_iff_append.mp hfind
  -- It is the first that fits, so the others stay in their order.
  have herase : p.volumes.eraseP (fits name region) = before ++ after := by
    rw [hp, List.eraseP_append_right _ (fun a ha => by simpa using hbefore a ha),
      List.eraseP_cons_of_pos hfits]
  simp only [fits, Bool.and_eq_true, beq_iff_eq] at hfits
  exact ⟨⟨before, after, hp, herase⟩, hfits⟩

/-- What is free of the volumes listed was listed so. -/
theorem mem_ofList {listed : List Volume} (h : v ∈ (ofList listed).volumes) :
    v ∈ listed ∧ v.attachedMachineId.getD "" = "" ∧
      v.state ∉ ["destroyed", "destroying", "pending_destroy"] := by
  simpa [ofList, isUnattached, isLeaving] using h

end Volume.Pool

namespace App.Config

/-- The configuration of a group, laid over another one. -/
def laidOver (c : Config) (group image : String) (base : Machine.Config) : Machine.Config :=
  { base with
    image := image
    env := c.envFor base.env
    init := if c.processes.isEmpty then base.init else { base.init with cmd := c.commandFor group }
    metadata := base.metadata.insert Metadata.processGroup group
    services := c.servicesFor group
    checks := c.checksFor group
    metrics := c.metrics
    mounts := (c.mountFor group).toList
    guest := c.guestFor base.guest }

/-- A configuration that is resolved is the group's, laid over the other one. -/
theorem machineConfig_ok {c : Config} {group image : String} {old : Option Machine.Config}
    {config : Machine.Config} (h : c.machineConfig group old image = .ok config) :
    config = c.laidOver group image (old.getD {}) := by
  unfold machineConfig at h
  split at h
  · cases h
  · exact (Except.ok.inj h).symm

end App.Config

namespace Resolver

variable {r r' : Resolver} {orig : Machine} {group : String} {e : DeployError} {v : Volume}
variable {config config' : Machine.Config} {input : LaunchInput} {remounts : Bool}

/-! ## What is mounted -/

@[simp] theorem stamp_mounts (r : Resolver) (c : Machine.Config) :
    (r.stamp c).mounts = c.mounts := rfl

@[simp] theorem withMount_mounts (c : Machine.Config) (m : Machine.Mount) :
    (withMount c m).mounts = m :: c.mounts.tail := rfl

@[simp] theorem creation_region (r : Resolver) (c : Machine.Config) :
    (r.creation c).region = r.app.primaryRegion := rfl

@[simp] theorem creation_mounts (r : Resolver) (c : Machine.Config) :
    (r.creation c).config.mounts = c.mounts := by
  unfold creation
  split <;> rfl

/-- The configuration of a group has the group's mount, if there is one, and no other. -/
theorem machineConfig_mounts {c : App.Config} {old : Option Machine.Config} {image : String}
    (h : c.machineConfig group old image = .ok config) :
    config.mounts = (c.mountFor group).toList := by
  rw [App.Config.machineConfig_ok h]
  rfl

/-- So it has one mount at most. -/
theorem machineConfig_tail {c : App.Config} {old : Option Machine.Config} {image : String}
    (h : c.machineConfig group old image = .ok config) : config.mounts.tail = [] := by
  rw [machineConfig_mounts h]
  cases c.mountFor group <;> rfl

/-! ## Volumes that are claimed -/

/-- Whether a resolver gave a volume of a name in a region away, and is as before but for that. -/
structure Took (r : Resolver) (name region : String) (v : Volume) (r' : Resolver) : Prop where
  gave : r.volumes.Gave v r'.volumes
  name : v.name = name
  region : v.region = region
  others : r' = { r with volumes := r'.volumes }

/-- The app is none of what is changed. -/
theorem Took.app {name region : String} {v : Volume} (h : r.Took name region v r') :
    r'.app = r.app := by
  rw [h.others]

section Claim

variable {m m' : Machine.Mount} {region missing : String}

/-- A claim that succeeds takes a volume and mounts it. -/
theorem claim_ok (h : r.claim m region missing = (r', .ok m')) :
    ∃ v, r.Took m.name region v r' ∧ m' = { m with volume := v.id } := by
  unfold claim at h
  split at h
  · rename_i v rest htake
    obtain ⟨hgave, hname, hregion⟩ := Volume.Pool.take?_gave htake
    cases h
    exact ⟨v, ⟨hgave, hname, hregion, rfl⟩, rfl⟩
  · cases h

/-- A claim that fails takes nothing. -/
theorem claim_failed (h : r.claim m region missing = (r', .error e)) : r' = r := by
  unfold claim at h
  split at h
  · cases h
  · cases h
    rfl

end Claim

/-- What a request does with the pool. Either it leaves the pool alone, and its mounts are mounts
that its machine had; or its one mount is on a volume out of the pool, of the mount's name and in
the region of the request. -/
inductive Mounted (orig : Option Machine) (region : String) (p : Volume.Pool) :
    List Machine.Mount → Volume.Pool → Prop where
  | kept {mounts : List Machine.Mount} (hkept : ∀ m ∈ mounts, ∃ machine ∈ orig,
      ∃ old ∈ machine.config.mounts, m.volume = old.volume ∧ m.name = old.name) :
      Mounted orig region p mounts p
  | claimed {m : Machine.Mount} {v : Volume} {p' : Volume.Pool} (hgave : p.Gave v p')
      (hvolume : m.volume = v.id) (hname : v.name = m.name) (hregion : v.region = region) :
      Mounted orig region p [m] p'

/-- To mount nothing takes nothing. -/
theorem Mounted.nil {machine : Option Machine} {region : String} {p : Volume.Pool} :
    Mounted machine region p [] p :=
  .kept fun _ hm => by cases hm

/-- Whatever is mounted, the pool gets no volume. -/
theorem Mounted.sublist {machine : Option Machine} {region : String} {p p' : Volume.Pool}
    {mounts : List Machine.Mount} (h : Mounted machine region p mounts p') :
    p'.volumes.Sublist p.volumes := by
  cases h with
  | kept => exact List.Sublist.refl _
  | claimed hgave => exact hgave.sublist

/-- A mount on a volume that was taken is one. -/
theorem Took.mounted {m : Machine.Mount} {region : String} (h : r.Took m.name region v r')
    (machine : Option Machine) :
    Mounted machine region r.volumes [{ m with volume := v.id }] r'.volumes :=
  .claimed h.gave rfl h.name h.region

/-! ## New machines -/

section Launch

variable {standbys : List String}

/-- A machine that is launched mounts what it took, or nothing. -/
theorem launch_ok (h : r.launch group standbys = (r', .ok input)) :
    Mounted none input.region r.volumes input.config.mounts r'.volumes := by
  unfold launch at h
  split at h
  · cases h
  · rename_i hconfig
    dsimp only at h
    split at h
    · rename_i hnone
      cases h
      rw [creation_mounts, List.head?_eq_none_iff.mp hnone]
      exact .nil
    · split at h
      · cases h
      · rename_i hclaim
        cases h
        -- The claim was for the region in which the machine is created.
        obtain ⟨v, htook, rfl⟩ := claim_ok hclaim
        rw [creation_mounts, withMount_mounts, machineConfig_tail hconfig, creation_region,
          htook.app]
        exact htook.mounted none

/-- A launch that fails takes nothing. -/
theorem launch_failed (h : r.launch group standbys = (r', .error e)) : r' = r := by
  unfold launch at h
  split at h
  · cases h
    rfl
  · dsimp only at h
    split at h
    · cases h
    · split at h
      · rename_i hclaim
        cases h
        exact claim_failed hclaim
      · cases h

end Launch

/-- Either way the pool gets no volume. -/
theorem launch_sublist (r : Resolver) (group : String) (standbys : List String) :
    (r.launch group standbys).1.volumes.volumes.Sublist r.volumes.volumes := by
  rcases h : r.launch group standbys with ⟨r', e | input⟩
  · rw [launch_failed h]
  · exact (launch_ok h).sublist

/-! ## Machines that are there -/

/-- How the mount of a configuration comes about: nothing is to be mounted, a mount stays on the
volume it was on, or a volume is claimed because there was no mount or one of another name. -/
inductive Reconciled (r : Resolver) (orig : Machine) (config : Machine.Config) :
    Resolver → Machine.Config → Prop where
  | bare (hnone : config.mounts = []) : Reconciled r orig config r config
  | stays {m old : Machine.Mount} (hold : orig.config.mounts.head? = some old)
      (hvolume : m.volume = old.volume) (hname : m.name = old.name) :
      Reconciled r orig config r (withMount config m)
  | fresh {desired : Machine.Mount} {v : Volume} {r' : Resolver}
      (hdesired : config.mounts.head? = some desired)
      (hold : ∀ old, orig.config.mounts.head? = some old →
        old.name ≠ "" ∧ old.name ≠ desired.name)
      (htook : r.Took desired.name orig.region v r') :
      Reconciled r orig config r' (withMount config { desired with volume := v.id })

/-- A claim for a mount that is new, or has another name, is a fresh one. -/
theorem claimFresh_ok {desired : Machine.Mount}
    (h : reconcileMount.claimFresh r group orig config desired = (r', .ok (config', remounts)))
    (hdesired : config.mounts.head? = some desired)
    (hold : ∀ old, orig.config.mounts.head? = some old → old.name ≠ "" ∧ old.name ≠ desired.name) :
    Reconciled r orig config r' config' := by
  unfold reconcileMount.claimFresh at h
  split at h
  · cases h
  · rename_i hclaim
    cases h
    obtain ⟨v, htook, rfl⟩ := claim_ok hclaim
    exact .fresh hdesired hold htook

/-- If it fails, nothing is taken. -/
theorem claimFresh_failed {desired : Machine.Mount}
    (h : reconcileMount.claimFresh r group orig config desired = (r', .error e)) : r' = r := by
  unfold reconcileMount.claimFresh at h
  split at h
  · rename_i hclaim
    cases h
    exact claim_failed hclaim
  · cases h

/-- A mount is reconciled in one of the ways. -/
theorem reconcileMount_ok
    (h : r.reconcileMount group orig config = (r', .ok (config', remounts))) :
    Reconciled r orig config r' config' := by
  unfold reconcileMount at h
  split at h
  · rename_i hnone
    cases h
    exact .bare (List.head?_eq_none_iff.mp hnone)
  · rename_i hnone
    cases h
    exact .bare (List.head?_eq_none_iff.mp hnone)
  · rename_i old desired hold hdesired
    -- A mount stays on its volume if it has no name, or the name that is asked for.
    split at h
    · cases h
      exact .stays hold rfl rfl
    · rename_i hunnamed
      split at h
      · cases h
        exact .stays hold rfl rfl
      · rename_i hrenamed
        refine claimFresh_ok h hdesired fun old' hold' => ?_
        obtain rfl := Option.some.inj (hold.symm.trans hold')
        exact ⟨hunnamed, hrenamed⟩
  · rename_i hnone hdesired
    refine claimFresh_ok h hdesired fun old hold => ?_
    rw [hnone] at hold
    cases hold

/-- A mount that can't be reconciled takes nothing. -/
theorem reconcileMount_failed
    (h : r.reconcileMount group orig config = (r', .error e)) : r' = r := by
  unfold reconcileMount at h
  split at h
  · cases h
  · cases h
  · split at h
    · cases h
    · split at h
      · cases h
      · exact claimFresh_failed h
  · exact claimFresh_failed h

/-- In each of the ways the mounts are old ones, or one that is claimed. -/
theorem Reconciled.mounted (h : Reconciled r orig config r' config')
    (htail : config.mounts.tail = []) :
    Mounted (some orig) orig.region r.volumes config'.mounts r'.volumes := by
  cases h with
  | bare hnone =>
    rw [hnone]
    exact .nil
  | stays hold hvolume hname =>
    rw [withMount_mounts, htail]
    refine .kept fun m hm => ?_
    obtain rfl := List.mem_singleton.mp hm
    exact ⟨orig, rfl, _, List.mem_of_head? hold, hvolume, hname⟩
  | fresh hdesired hold htook =>
    rw [withMount_mounts, htail]
    exact htook.mounted (some orig)

/-- Moving to another host changes no mount. -/
theorem reconcileHost_mounts (h : r.reconcileHost orig config = .ok config') :
    config'.mounts = config.mounts := by
  unfold reconcileHost at h
  split at h
  · split at h
    · cases h
    · cases h
      rfl
  · cases h
    rfl

/-- A host is refused to a machine that has to move and has a mount. -/
theorem reconcileHost_failed (h : r.reconcileHost orig config = .error e) :
    r.movesHost orig = true ∧ orig.config.mounts ≠ [] := by
  unfold reconcileHost at h
  split at h
  · rename_i hmoves
    split at h
    · -- The refusal is for the mount.
      rename_i hmounts
      exact ⟨hmoves, by simp_all⟩
    · cases h
  · cases h

/-- A machine that is updated keeps its volumes or takes one. -/
theorem update_ok (h : r.update orig = (r', .ok input)) :
    Mounted (some orig) input.region r.volumes input.config.mounts r'.volumes := by
  unfold update at h
  dsimp only at h
  split at h
  · cases h
  · rename_i config hconfig
    have htail : (r.stamp config).mounts.tail = [] := by
      rw [stamp_mounts, machineConfig_tail hconfig]
    split at h
    · cases h
    · rename_i hmount
      split at h
      · cases h
      · rename_i hhost
        cases h
        -- The host comes last, and has no say in the mounts.
        have hmounted := (reconcileMount_ok hmount).mounted htail
        rw [← reconcileHost_mounts hhost] at hmounted
        dsimp only
        split
        · exact hmounted
        · exact hmounted

/-- Whether a volume is lost to a machine that can't be updated: the machine has to move to
another host, which its mount forbids, and its mount has another name than the one it is to get,
for which the volume is claimed. -/
structure Strands (r : Resolver) (orig : Machine) (v : Volume) : Prop where
  moves : r.movesHost orig = true
  renamed : ∃ old desired, orig.config.mounts.head? = some old ∧ old.name ≠ "" ∧
    r.app.mountFor orig.processGroup = some desired ∧ old.name ≠ desired.name ∧
    v.name = desired.name
  region : v.region = orig.region

/-- A request that can't be resolved loses no volume but one that is stranded. -/
theorem update_failed (h : r.update orig = (r', .error e)) :
    r' = r ∨ ∃ v, r.Strands orig v ∧ r.volumes.Gave v r'.volumes ∧
      r' = { r with volumes := r'.volumes } := by
  unfold update at h
  dsimp only at h
  split at h
  · cases h
    exact .inl rfl
  · rename_i config hconfig
    split at h
    · -- The mount fails first, and takes nothing then.
      rename_i hmount
      cases h
      exact .inl (reconcileMount_failed hmount)
    · rename_i hmount
      split at h
      · rename_i hhost
        cases h
        -- The host is refused when the mount is settled: a volume that was claimed for it is lost.
        obtain ⟨hmoves, hmounts⟩ := reconcileHost_failed hhost
        cases reconcileMount_ok hmount with
        | bare => exact .inl rfl
        | stays => exact .inl rfl
        | fresh hdesired hold htook =>
          rename_i desired v
          right
          rw [stamp_mounts, machineConfig_mounts hconfig, Option.head?_toList] at hdesired
          rw [movesHost, htook.app] at hmoves
          obtain ⟨old, hhead⟩ := Option.isSome_iff_exists.mp (List.isSome_head?.mpr hmounts)
          obtain ⟨hunnamed, hrenamed⟩ := hold old hhead
          exact ⟨v, ⟨hmoves, ⟨old, desired, hhead, hunnamed, hdesired, hrenamed, htook.name⟩,
            htook.region⟩, htook.gave, htook.others⟩
      · cases h

/-- Either way the pool gets no volume. -/
theorem update_sublist (r : Resolver) (orig : Machine) :
    (r.update orig).1.volumes.volumes.Sublist r.volumes.volumes := by
  rcases h : r.update orig with ⟨r', e | input⟩
  · rcases update_failed h with rfl | ⟨v, -, hgave, -⟩
    · exact List.Sublist.refl _
    · exact hgave.sublist
  · exact (update_ok h).sublist

/-- A machine is restarted or updated. -/
theorem resolve_cases (r : Resolver) (orig : Machine) :
    r.resolve orig = (r, .ok (r.restart orig)) ∨ r.resolve orig = r.update orig := by
  unfold resolve
  split
  · exact .inl rfl
  · exact .inr rfl

/-- A restart keeps the mounts. -/
theorem restart_mounted (r : Resolver) (orig : Machine) :
    Mounted (some orig) (r.restart orig).region r.volumes (r.restart orig).config.mounts
      r.volumes :=
  .kept fun m hm => ⟨orig, rfl, m, hm, rfl, rfl⟩

/-- The machine of the release command mounts nothing. -/
theorem releaseCommand_mounts {machine : Option Machine}
    (h : r.releaseCommand machine = .ok input) : input.config.mounts = [] := by
  unfold releaseCommand at h
  split at h
  · cases h
  · cases h
    rfl

/-! ## One request -/

/-- The requests that a resolver is asked for. -/
inductive Operation where
  | resolve (orig : Machine)
  | update (orig : Machine)
  | launch (group : String) (standbys : List String)
  | restart (orig : Machine)
  | releaseCommand (orig : Option Machine)
deriving DecidableEq

namespace Operation

/-- The machine that a request is for, none for a new one. -/
def machine? : Operation → Option Machine
  | resolve orig | update orig | restart orig => some orig
  | releaseCommand orig => orig
  | launch _ _ => none

/-- The request, and the resolver after it. -/
def perform (r : Resolver) : Operation → Resolver × Except DeployError LaunchInput
  | resolve orig => r.resolve orig
  | update orig => r.update orig
  | launch group standbys => r.launch group standbys
  | restart orig => (r, .ok (r.restart orig))
  | releaseCommand orig => (r, r.releaseCommand orig)

end Operation

variable {op : Operation}

/-- A request that succeeds keeps volumes that its machine had, or mounts one that it takes. -/
theorem perform_ok (h : op.perform r = (r', .ok input)) :
    Mounted op.machine? input.region r.volumes input.config.mounts r'.volumes := by
  cases op with
  | resolve orig =>
    rcases resolve_cases r orig with hkeeps | hupdates
    · obtain ⟨rfl, hinput⟩ := Prod.mk.inj (hkeeps.symm.trans h)
      cases hinput
      exact restart_mounted r orig
    · exact update_ok (hupdates.symm.trans h)
  | update orig => exact update_ok h
  | launch group standbys => exact launch_ok h
  | restart orig =>
    cases h
    exact restart_mounted r orig
  | releaseCommand orig =>
    obtain ⟨rfl, hinput⟩ := Prod.mk.inj h
    rw [releaseCommand_mounts hinput]
    exact .nil

/-- A request that fails leaves the resolver as it was, but for the volume that it loses where a
machine with a mount of another name has to move to another host. Then nothing else is changed. -/
theorem perform_failed (r r' : Resolver) (op : Operation) (e : DeployError)
    (h : op.perform r = (r', .error e)) :
    r' = r ∨ ∃ orig v, op.machine? = some orig ∧ r.Strands orig v ∧
      r.volumes.Gave v r'.volumes ∧ r' = { r with volumes := r'.volumes } := by
  cases op with
  | resolve orig =>
    -- A restart does not fail.
    rcases resolve_cases r orig with hkeeps | hupdates
    · cases hkeeps.symm.trans h
    · rcases update_failed (hupdates.symm.trans h) with heq | ⟨v, hv⟩
      · exact .inl heq
      · exact .inr ⟨orig, v, rfl, hv⟩
  | update orig =>
    rcases update_failed h with heq | ⟨v, hv⟩
    · exact .inl heq
    · exact .inr ⟨orig, v, rfl, hv⟩
  | launch group standbys => exact .inl (launch_failed h)
  | restart orig => cases h
  | releaseCommand orig => exact .inl (Prod.mk.inj h).1.symm

/-- A resolver of an app that mounts `data` and has to run on a host of its own. -/
def moving : Resolver where
  app := {
    primaryRegion := "ord", mounts := some { source := "data", destination := "/data" },
    hostDedicationId := "host" }
  image := "web:v2"
  release := { id := "release", version := 2 }
  restartOnly := false
  volumes := .ofList [{ id := "vol_2", name := "data", region := "ord", state := "created" }]

/-- A machine elsewhere, on a volume of another name. -/
def renamed : Machine where
  id := "m1"
  region := "ord"
  config := { mounts := [{ volume := "vol_1", name := "logs", path := "/data" }] }

/-- A machine without a volume. -/
def bare : Machine where
  id := "m2"
  region := "ord"

/-- The machine that has to move is refused. -/
theorem perform_failed_moving : ∃ r' e, (Operation.update renamed).perform moving =
    (r', .error e) ∧ (r' = moving ∨ ∃ orig v, (Operation.update renamed).machine? = some orig ∧
      moving.Strands orig v ∧ moving.volumes.Gave v r'.volumes ∧
      r' = { moving with volumes := r'.volumes }) :=
  ⟨_, _, rfl, perform_failed moving _ (.update renamed) _ rfl⟩

/-- A request that fails may lose a volume, and with it the next machine its update. -/
theorem update_loses_volume : ∃ r' e, moving.update renamed = (r', .error e) ∧
    r'.volumes ≠ moving.volumes ∧ (∃ r₂ input, moving.update bare = (r₂, .ok input)) ∧
      ∃ r₂ e', r'.update bare = (r₂, .error e') :=
  ⟨_, _, rfl, by decide, ⟨_, _, rfl⟩, _, _, rfl⟩

/-- Whatever becomes of a request, no volume gets into the pool by it. -/
theorem perform_sublist (r : Resolver) (op : Operation) :
    (op.perform r).1.volumes.volumes.Sublist r.volumes.volumes := by
  cases op with
  | resolve orig =>
    show (r.resolve orig).1.volumes.volumes.Sublist r.volumes.volumes
    rcases resolve_cases r orig with hkeeps | hupdates
    · rw [hkeeps]
    · rw [hupdates]
      exact update_sublist r orig
  | update orig => exact update_sublist r orig
  | launch group standbys => exact launch_sublist r group standbys
  | restart orig => exact List.Sublist.refl _
  | releaseCommand orig => exact List.Sublist.refl _

/-! ## Requests one after the other -/

/-- A request in a sequence, with the resolver before and after it. -/
structure Performed where
  before : Resolver
  operation : Operation
  result : Except DeployError LaunchInput
  after : Resolver

/-- Asks a resolver for one request after the other, whatever becomes of each. -/
def performAll (r : Resolver) : List Operation → List Performed
  | [] => []
  | op :: ops =>
    ⟨r, op, (op.perform r).2, (op.perform r).1⟩ :: performAll (op.perform r).1 ops

/-- The volume that a request of a sequence took out of the pool. -/
def Performed.Took (step : Performed) (v : Volume) : Prop :=
  step.before.volumes.Gave v step.after.volumes

/-- Whether a request of a sequence draws on the volumes listed as it should. -/
structure Performed.Sound (listed : List Volume) (step : Performed) : Prop where
  /-- It succeeds with mounts that its machine had, or takes the volume that it mounts. -/
  mounted : ∀ input, step.result = .ok input → Mounted step.operation.machine? input.region
    step.before.volumes input.config.mounts step.after.volumes
  /-- What it takes was listed as free. -/
  free : ∀ v, step.Took v → v ∈ listed ∧ v.attachedMachineId.getD "" = "" ∧
    v.state ∉ ["destroyed", "destroying", "pending_destroy"]
  restart : ∀ orig, step.operation = .restart orig → step.after = step.before
  releaseCommand : ∀ orig, step.operation = .releaseCommand orig → step.after = step.before

/-- A request in a sequence is one by itself, of a resolver that has no volumes but those of the
first. -/
theorem performAll_step {ops : List Operation} {step : Performed}
    (h : step ∈ performAll r ops) :
    step.operation.perform step.before = (step.after, step.result) ∧
      step.before.volumes.volumes.Sublist r.volumes.volumes := by
  -- By induction on the requests, each asked of the resolver that the one before it has left.
  induction ops generalizing r with
  | nil => cases h
  | cons op ops ih =>
    rcases List.mem_cons.mp h with rfl | h
    · exact ⟨rfl, List.Sublist.refl _⟩
    · obtain ⟨hperform, hsublist⟩ := ih h
      exact ⟨hperform, hsublist.trans (perform_sublist r op)⟩

/-- No two requests take the same volume. -/
theorem performAll_apart (ops : List Operation) (hids : (r.volumes.volumes.map (·.id)).Nodup) :
    (performAll r ops).Pairwise fun first later =>
      ∀ v w, first.Took v → later.Took w → v.id ≠ w.id := by
  induction ops generalizing r with
  | nil => exact List.Pairwise.nil
  | cons op ops ih =>
    -- What the first request took is gone from every pool that comes after.
    have hids' := hids.sublist ((perform_sublist r op).map (·.id))
    refine List.pairwise_cons.mpr ⟨fun later hlater v w hv hw => ?_, ih hids'⟩
    obtain ⟨-, hsublist⟩ := performAll_step hlater
    exact Volume.Pool.Gave.id_ne hv hids (hsublist.subset (Volume.Pool.Gave.mem hw))

/-- Whatever requests a resolver is asked for, one after the other: each that succeeds keeps
volumes its machine had or takes one that was listed as free and mounts it, in its region and
under its name, and no volume is taken twice. -/
theorem performAll_volumes (listed : List Volume) (hids : (listed.map (·.id)).Nodup)
    (r : Resolver) (hpool : r.volumes = .ofList listed) (ops : List Operation) :
    (∀ step ∈ performAll r ops, step.Sound listed) ∧
      (performAll r ops).Pairwise fun first later =>
        ∀ v w, first.Took v → later.Took w → v.id ≠ w.id := by
  refine ⟨fun step hstep => ?_, performAll_apart ops ?_⟩
  · obtain ⟨hperform, hsublist⟩ := performAll_step hstep
    rw [hpool] at hsublist
    refine ⟨fun input hinput => ?_, fun v hv => ?_, fun orig hop => ?_, fun orig hop => ?_⟩
    · rw [hinput] at hperform
      exact perform_ok hperform
    · -- What is taken is still in the pool, which has none but the free volumes listed.
      exact Volume.Pool.mem_ofList (hsublist.subset (Volume.Pool.Gave.mem hv))
    · rw [hop] at hperform
      exact (Prod.mk.inj hperform).1.symm
    · rw [hop] at hperform
      exact (Prod.mk.inj hperform).1.symm
  · rw [hpool]
    exact hids.sublist (List.filter_sublist.map _)

/-- Volumes of one name, of which one is attached. -/
def threeVolumes : List Volume := [
  { id := "vol_1", name := "data", region := "ord", attachedMachineId := some "m1" },
  { id := "vol_2", name := "data", region := "ord" },
  { id := "vol_3", name := "data", region := "ord" }]

/-- A resolver that hands them out. -/
def handingOut : Resolver := { moving with volumes := .ofList threeVolumes }

/-- Requests that compete for them. -/
def competing : List Operation :=
  [.update bare, .update renamed, .launch "app" [], .resolve bare]

/-- The first request takes a volume, the second loses the other one, and none is left. -/
theorem performAll_volumes_competing : (threeVolumes.map (·.id)).Nodup ∧
    handingOut.volumes = .ofList threeVolumes ∧
    (performAll handingOut competing).map (·.after.volumes.volumes.map (·.id)) =
      [["vol_3"], [], [], []] ∧
    (∀ step ∈ performAll handingOut competing, step.Sound threeVolumes) ∧
    (performAll handingOut competing).Pairwise fun first later =>
      ∀ v w, first.Took v → later.Took w → v.id ≠ w.id :=
  ⟨by decide, rfl, by decide, performAll_volumes threeVolumes (by decide) handingOut rfl competing⟩

end Resolver

end Rollout
