import Rollout.Proofs.Inputs

/-!
# In place or anew

An update is resolved in stages: the configuration of the group is laid over that of the machine
and stamped with the release, the mount is settled, the machine is put on its host, and if it
serves it stands by for no other machine. Two of the stages may ask for a new machine. The host
does where the app has one of its own and the machine is on another; the mount does where it
appears, goes, or changes its name.

A machine that is updated in place stays where it is, on the volume it has. One that is replaced
gets its volume out of the pool, so it never gets the one that is attached to its predecessor. A
machine with a volume can't change its host and keep a mount: its update is refused.

## Main statements

- `Resolver.update_ok_iff`: the stages of an update.
- `Resolver.update_settles`: when a machine is replaced, and what it keeps in either case.
- `Resolver.update_leaves_attached`: a machine that is replaced gets no volume that is attached.
-/

namespace Rollout

namespace Machine.Config

/-- A configuration that stands by for no other machine if it serves. -/
def serving (c : Config) : Config := if c.services.isEmpty then c else { c with standbys := [] }

/-- A configuration that serves has the same mounts. -/
@[simp] theorem serving_mounts (c : Config) : c.serving.mounts = c.mounts := by
  unfold serving
  split <;> rfl

/-- A configuration that serves has the same guest. -/
@[simp] theorem serving_guest (c : Config) : c.serving.guest = c.guest := by
  unfold serving
  split <;> rfl

end Machine.Config

/-- Whether a request leaves a machine and its data where they are. -/
structure LaunchInput.StaysWith (input : LaunchInput) (orig : Machine) : Prop where
  id : input.id = some orig.id
  region : input.region = orig.region
  host : input.config.hostDedicationId = orig.config.hostDedicationId
  mounts : input.config.mounts.map (fun m => (m.volume, m.name)) =
    orig.config.mounts.map (fun m => (m.volume, m.name))

namespace Resolver

variable {r r' : Resolver} {orig : Machine} {group image : String} {input : LaunchInput}
variable {config config' laid mounted placed : Machine.Config} {remounts : Bool}

/-! ## The stages of an update -/

/-- The stages of an update that succeeds. -/
structure Stages (r : Resolver) (orig : Machine) (r' : Resolver) (input : LaunchInput)
    (laid mounted placed : Machine.Config) (remounts : Bool) : Prop where
  lays : r.app.machineConfig orig.processGroup (some orig.config) r.image = .ok laid
  mounts : r.reconcileMount orig.processGroup orig (r.stamp laid) = (r', .ok (mounted, remounts))
  places : r'.reconcileHost orig mounted = .ok placed
  serves : input = {
    id := some orig.id, region := orig.region, config := placed.serving,
    skipLaunch := skipsLaunch orig placed.serving,
    requiresReplacement := r'.movesHost orig || remounts }

/-- An update succeeds just if each of its stages does. -/
theorem update_ok_iff : r.update orig = (r', .ok input) ↔
    ∃ laid mounted placed remounts, r.Stages orig r' input laid mounted placed remounts := by
  constructor
  · -- The first stage that fails ends the update, so in a success none has.
    intro h
    unfold update at h
    dsimp only at h
    split at h
    · cases h
    · rename_i laid hlays
      split at h
      · cases h
      · rename_i mounted remounts hmounts
        split at h
        · cases h
        · rename_i placed hplaces
          cases h
          exact ⟨laid, mounted, placed, remounts, hlays, hmounts, hplaces, rfl⟩
  · rintro ⟨laid, mounted, placed, remounts, hlays, hmounts, hplaces, rfl⟩
    unfold update
    simp only [hlays, hmounts, hplaces]
    rfl

/-- Settling a mount changes nothing that decides on the host. -/
theorem reconcileMount_app
    (h : r.reconcileMount group orig config = (r', .ok (config', remounts))) :
    r'.app = r.app := by
  obtain ⟨p, hp⟩ := r.reconcileMount_frame group orig config
  have hr : r' = { r with volumes := p } := (congrArg Prod.fst h).symm.trans hp
  rw [hr]

/-- Whether a machine has to move is decided by the app configuration. -/
theorem movesHost_congr (h : r'.app = r.app) : r'.movesHost orig = r.movesHost orig := by
  unfold movesHost
  rw [h]

/-- A machine has to move if the app has a host and the machine is on another. -/
theorem movesHost_iff : r.movesHost orig = true ↔ r.app.hostDedicationId ≠ "" ∧
    r.app.hostDedicationId ≠ orig.config.hostDedicationId := by
  simp [movesHost]

/-! ## Hosts -/

/-- Stamping a configuration leaves its guest alone. -/
@[simp] theorem stamp_guest (r : Resolver) (c : Machine.Config) : (r.stamp c).guest = c.guest := rfl

/-- The size of machines changes, their host doesn't. -/
theorem guestFor_host (c : App.Config) (old : Option Machine.Guest) :
    (c.guestFor old).elim "" (·.hostDedicationId) = old.elim "" (·.hostDedicationId) := by
  unfold App.Config.guestFor
  split <;> rfl

/-- The configuration of a group has the guest that the app gives the old one. -/
theorem machineConfig_guest {c : App.Config} {old : Machine.Config}
    (h : c.machineConfig group (some old) image = .ok config) :
    config.guest = c.guestFor old.guest := by
  rw [App.Config.machineConfig_ok h]
  rfl

/-- Settling a mount leaves the guest alone. -/
theorem reconcileMount_guest
    (h : r.reconcileMount group orig config = (r', .ok (config', remounts))) :
    config'.guest = config.guest := by
  cases reconcileMount_ok h with
  | bare => rfl
  | stays => rfl
  | fresh => rfl

/-- A machine that has to move is put on the app's host, and one that need not stays. -/
theorem reconcileHost_ok_iff : r.reconcileHost orig config = .ok config' ↔
    (r.movesHost orig = true ∧ (orig.config.mounts = [] ∨ config.mounts = []) ∧
      config' = onHost config r.app.hostDedicationId) ∨
    (r.movesHost orig = false ∧ config' = config) := by
  unfold reconcileHost
  -- Where the machine has to move, a mount on both sides is refused.
  by_cases hmoves : r.movesHost orig = true
  · simp only [hmoves, if_true]
    by_cases hmounts : orig.config.mounts = [] ∨ config.mounts = []
    · rw [if_neg (by simpa [or_iff_not_imp_left] using hmounts)]
      simp [hmounts, eq_comm]
    · rw [if_pos (by simpa [not_or] using hmounts)]
      simp [hmounts]
  · simp [hmoves, eq_comm]

/-! ## Mounts -/

/-- The ways in which a mount is settled: what is mounted in the end, and whether the machine has to
be replaced for it. -/
inductive Mounting (r : Resolver) (orig : Machine) (config : Machine.Config) :
    Resolver → Machine.Config → Bool → Prop where
  | bare (hold : orig.config.mounts.head? = none) (hdesired : config.mounts.head? = none) :
      Mounting r orig config r config false
  | dropped {old : Machine.Mount} (hold : orig.config.mounts.head? = some old)
      (hdesired : config.mounts.head? = none) : Mounting r orig config r config true
  | unnamed {old desired : Machine.Mount} (hold : orig.config.mounts.head? = some old)
      (hdesired : config.mounts.head? = some desired) (hunnamed : old.name = "") :
      Mounting r orig config r (withMount config (growingLike old desired)) false
  | same {old desired : Machine.Mount} (hold : orig.config.mounts.head? = some old)
      (hdesired : config.mounts.head? = some desired) (hnamed : old.name ≠ "")
      (hsame : old.name = desired.name) :
      Mounting r orig config r
        (withMount config (growingLike { old with path := desired.path } desired)) false
  | fresh {desired : Machine.Mount} {v : Volume} {r' : Resolver}
      (hdesired : config.mounts.head? = some desired)
      (hold : ∀ old, orig.config.mounts.head? = some old →
        old.name ≠ "" ∧ old.name ≠ desired.name)
      (htook : r.Took desired.name orig.region v r') :
      Mounting r orig config r' (withMount config { desired with volume := v.id }) true

/-- What is mounted afresh is what the pool gave. -/
theorem claimFresh_mounting {desired : Machine.Mount}
    (h : reconcileMount.claimFresh r group orig config desired = (r', .ok (config', remounts)))
    (hdesired : config.mounts.head? = some desired)
    (hold : ∀ old, orig.config.mounts.head? = some old → old.name ≠ "" ∧ old.name ≠ desired.name) :
    Mounting r orig config r' config' remounts := by
  unfold reconcileMount.claimFresh at h
  split at h
  · cases h
  · rename_i hclaim
    cases h
    obtain ⟨v, htook, rfl⟩ := claim_ok hclaim
    exact .fresh hdesired hold htook

/-- A mount that is settled is settled in one of the ways. -/
theorem reconcileMount_mounting
    (h : r.reconcileMount group orig config = (r', .ok (config', remounts))) :
    Mounting r orig config r' config' remounts := by
  unfold reconcileMount at h
  split at h
  · rename_i hold hdesired
    cases h
    exact .bare hold hdesired
  · rename_i hold hdesired
    cases h
    exact .dropped hold hdesired
  · -- There is a mount and one is asked for: they are told apart by their names.
    rename_i old desired hold hdesired
    by_cases hnamed : old.name = ""
    · rw [if_pos hnamed] at h
      cases h
      exact .unnamed hold hdesired hnamed
    · rw [if_neg hnamed] at h
      by_cases hsame : old.name = desired.name
      · rw [if_pos hsame] at h
        cases h
        exact .same hold hdesired hnamed hsame
      · rw [if_neg hsame] at h
        apply claimFresh_mounting h hdesired
        intro old' hold'
        obtain rfl := Option.some.inj (hold.symm.trans hold')
        exact ⟨hnamed, hsame⟩
  · rename_i hold hdesired
    apply claimFresh_mounting h hdesired
    intro old hold'
    rw [hold] at hold'
    cases hold'

/-- Whether a machine has to be replaced for its mount, given the one it has and the one it is to
get. A mount without a name goes with any. -/
inductive Remounts : Option Machine.Mount → Option Machine.Mount → Prop where
  | dropped {old : Machine.Mount} : Remounts (some old) none
  | added {desired : Machine.Mount} : Remounts none (some desired)
  | renamed {old desired : Machine.Mount} (hnamed : old.name ≠ "")
      (hother : old.name ≠ desired.name) : Remounts (some old) (some desired)

namespace Mounting

/-- The machine is replaced for its mount just if it is dropped, added or renamed. -/
theorem remounts_iff (h : Mounting r orig config r' config' remounts) :
    remounts = true ↔ Remounts orig.config.mounts.head? config.mounts.head? := by
  cases h with
  | bare hold hdesired =>
    rw [hold, hdesired]
    exact ⟨nofun, nofun⟩
  | dropped hold hdesired =>
    rw [hold, hdesired]
    exact ⟨fun _ => .dropped, fun _ => rfl⟩
  | unnamed hold hdesired hunnamed =>
    rw [hold, hdesired]
    exact ⟨nofun, fun | .renamed hnamed _ => absurd hunnamed hnamed⟩
  | same hold hdesired hnamed hsame =>
    rw [hold, hdesired]
    exact ⟨nofun, fun | .renamed _ hother => absurd hsame hother⟩
  | fresh hdesired hold htook =>
    rw [hdesired]
    refine ⟨fun _ => ?_, fun _ => rfl⟩
    cases hhead : orig.config.mounts.head? with
    | none => exact .added
    | some old => exact .renamed (hold old hhead).1 (hold old hhead).2

/-- A machine that is not replaced for its mount stays on the volume it has, and nothing is taken
out of the pool for it. -/
theorem kept (h : Mounting r orig config r' config' false)
    (hmounts : orig.config.mounts.length ≤ 1) (htail : config.mounts.tail = []) :
    r' = r ∧ config'.mounts.map (fun m => (m.volume, m.name)) =
      orig.config.mounts.map (fun m => (m.volume, m.name)) := by
  -- A machine with one mount at most has no other than its first.
  have horig : ∀ old, orig.config.mounts.head? = some old → orig.config.mounts = [old] := by
    intro old hold
    obtain ⟨rest, hrest⟩ := List.head?_eq_some_iff.mp hold
    have hnil : rest = [] := by simpa [hrest] using hmounts
    rw [hrest, hnil]
  cases h with
  | bare hold hdesired =>
    rw [List.head?_eq_none_iff.mp hold, List.head?_eq_none_iff.mp hdesired]
    exact ⟨rfl, rfl⟩
  | unnamed hold hdesired hunnamed =>
    rw [withMount_mounts, htail, horig _ hold]
    exact ⟨rfl, rfl⟩
  | same hold hdesired hnamed hsame =>
    rw [withMount_mounts, htail, horig _ hold]
    exact ⟨rfl, rfl⟩

/-- A machine without a mount that need not be replaced for one gets none. -/
theorem unmounted (h : Mounting r orig config r' config' false) (hnone : orig.config.mounts = []) :
    config'.mounts = [] := by
  cases h with
  | bare hold hdesired => exact List.head?_eq_none_iff.mp hdesired
  | unnamed hold hdesired hunnamed =>
    rw [hnone] at hold
    cases hold
  | same hold hdesired hnamed hsame =>
    rw [hnone] at hold
    cases hold

/-- What a machine mounts that is replaced for its mount is a volume out of the pool. -/
theorem claimed (h : Mounting r orig config r' config' true) (htail : config.mounts.tail = [])
    {mount : Machine.Mount} (hmount : mount ∈ config'.mounts) :
    ∃ v, r.Took mount.name orig.region v r' ∧ mount.volume = v.id := by
  cases h with
  | dropped hold hdesired =>
    rw [List.head?_eq_none_iff.mp hdesired] at hmount
    cases hmount
  | fresh hdesired hold htook =>
    rw [withMount_mounts, htail, List.mem_singleton] at hmount
    subst hmount
    exact ⟨_, htook, rfl⟩

end Mounting

/-! ## What an update settles -/

/-- Why a machine can't take an update where it is. -/
inductive Outgrows (r : Resolver) (orig : Machine) : Prop where
  /-- The app has a host of its own, and the machine is on another. -/
  | host (hasked : r.app.hostDedicationId ≠ "")
      (hother : r.app.hostDedicationId ≠ orig.config.hostDedicationId)
  /-- Only one of the machine and its group has a mount. -/
  | mount (hone : orig.config.mounts = [] ↔ r.app.mountFor orig.processGroup ≠ none)
  /-- The machine's mount has a name, and that of its group has another. -/
  | name {old desired : Machine.Mount} (hold : old ∈ orig.config.mounts)
      (hdesired : r.app.mountFor orig.processGroup = some desired) (hnamed : old.name ≠ "")
      (hother : old.name ≠ desired.name)

/-- Whether an update that succeeds is settled as it should be. -/
structure Settles (r : Resolver) (orig : Machine) (r' : Resolver) (input : LaunchInput) : Prop where
  replaces_iff : input.requiresReplacement = true ↔ r.Outgrows orig
  /-- In place, the machine keeps its host and its volume, and the pool is left alone. -/
  stays : input.requiresReplacement = false → input.StaysWith orig ∧ r' = r
  /-- Replaced, it mounts nothing but what is taken out of the pool by this very update. -/
  claims : input.requiresReplacement = true → ∀ mount ∈ input.config.mounts,
    ∃ v, r.Took mount.name orig.region v r' ∧ mount.volume = v.id

namespace Stages

variable (h : r.Stages orig r' input laid mounted placed remounts)

include h

/-- The mount of an update is settled in one of the ways. -/
theorem mounting : Mounting r orig (r.stamp laid) r' mounted remounts :=
  reconcileMount_mounting h.mounts

/-- The configuration of a group asks for one mount at most. -/
theorem tail : (r.stamp laid).mounts.tail = [] := by
  rw [stamp_mounts, machineConfig_tail h.lays]

/-- The mount that is asked for is the one of the group. -/
theorem head? : (r.stamp laid).mounts.head? = r.app.mountFor orig.processGroup := by
  rw [stamp_mounts, machineConfig_mounts h.lays, Option.head?_toList]

/-- What is settled is what the request mounts. -/
theorem config_mounts : input.config.mounts = mounted.mounts := by
  rw [h.serves]
  exact (Machine.Config.serving_mounts placed).trans (reconcileHost_mounts h.places)

/-- The request says of a replacement what the stages found. -/
theorem requiresReplacement :
    input.requiresReplacement = (r.movesHost orig || remounts) := by
  rw [h.serves, ← movesHost_congr (reconcileMount_app h.mounts)]

/-- A machine that need not move stays on its host. -/
theorem host (hmoves : r.movesHost orig = false) :
    input.config.hostDedicationId = orig.config.hostDedicationId := by
  rw [← movesHost_congr (reconcileMount_app h.mounts)] at hmoves
  -- The stage of the host changed nothing.
  have hplaced : placed = mounted := by
    rcases reconcileHost_ok_iff.mp h.places with ⟨hmoves', -⟩ | ⟨-, hplaced⟩
    · rw [hmoves] at hmoves'
      cases hmoves'
    · exact hplaced
  have hguest : input.config.guest = r.app.guestFor orig.config.guest := by
    rw [h.serves, hplaced, ← machineConfig_guest h.lays, ← stamp_guest r laid]
    exact (Machine.Config.serving_guest mounted).trans (reconcileMount_guest h.mounts)
  unfold Machine.Config.hostDedicationId
  rw [hguest, guestFor_host]

/-- A machine that has to move has no mount, or is to get none. -/
theorem unmounted (hmoves : r.movesHost orig = true) :
    orig.config.mounts = [] ∨ mounted.mounts = [] := by
  rw [← movesHost_congr (reconcileMount_app h.mounts)] at hmoves
  rcases reconcileHost_ok_iff.mp h.places with ⟨-, hmounts, -⟩ | ⟨hstays, -⟩
  · exact hmounts
  · rw [hmoves] at hstays
    cases hstays

/-- What a machine mounts that is replaced, for whatever reason, is a volume out of the pool. -/
theorem claims (hreplaces : input.requiresReplacement = true) {mount : Machine.Mount}
    (hmount : mount ∈ input.config.mounts) :
    ∃ v, r.Took mount.name orig.region v r' ∧ mount.volume = v.id := by
  rw [h.config_mounts] at hmount
  cases remounts with
  | true => exact h.mounting.claimed h.tail hmount
  | false =>
    -- Only the host asks for a new machine. The old one has no mount then, or is to get none.
    have hmoves : r.movesHost orig = true := by
      rw [← hreplaces, h.requiresReplacement, Bool.or_false]
    have hnone : mounted.mounts = [] := by
      cases h.unmounted hmoves with
      | inl hold => exact h.mounting.unmounted hold
      | inr hmounted => exact hmounted
    rw [hnone] at hmount
    cases hmount

/-- A machine is replaced for its host or for its mount. -/
theorem replaces_iff : input.requiresReplacement = true ↔ r.movesHost orig = true ∨
    Remounts orig.config.mounts.head? (r.app.mountFor orig.processGroup) := by
  rw [h.requiresReplacement, Bool.or_eq_true, h.mounting.remounts_iff, h.head?]

/-- Without a replacement the machine stays with its host and volume, and the pool is left alone. -/
theorem stays (hmounts : orig.config.mounts.length ≤ 1)
    (hreplaces : input.requiresReplacement = false) : input.StaysWith orig ∧ r' = r := by
  rw [h.requiresReplacement, Bool.or_eq_false_iff] at hreplaces
  obtain ⟨hmoves, rfl⟩ := hreplaces
  obtain ⟨hpool, hkept⟩ := h.mounting.kept hmounts h.tail
  rw [← h.config_mounts] at hkept
  exact ⟨⟨by rw [h.serves], by rw [h.serves], h.host hmoves, hkept⟩, hpool⟩

end Stages

/-- A mount is the one that a machine starts with, if it has at most one. -/
theorem head?_eq_some_iff_mem {α : Type} {l : List α} {a : α} (h : l.length ≤ 1) :
    l.head? = some a ↔ a ∈ l := by
  match l, h with
  | [], _ => simp
  | [b], _ => simp [eq_comm]

/-- The reasons for which a machine is replaced, as the update finds them. -/
theorem outgrows_iff (hmounts : orig.config.mounts.length ≤ 1) :
    r.Outgrows orig ↔ r.movesHost orig = true ∨
      Remounts orig.config.mounts.head? (r.app.mountFor orig.processGroup) := by
  constructor
  · -- The other way round, from what the update finds to what is wrong with the machine.
    intro h
    cases h with
    | host hasked hother => exact .inl (movesHost_iff.mpr ⟨hasked, hother⟩)
    | mount hone =>
      right
      -- Just one of the two is there: a mount is added or dropped.
      by_cases hnone : orig.config.mounts = []
      · obtain ⟨desired, hdesired⟩ := Option.ne_none_iff_exists'.mp (hone.mp hnone)
        rw [hnone, hdesired]
        exact .added
      · obtain ⟨old, rest, hold⟩ := List.exists_cons_of_ne_nil hnone
        rw [hold, not_not.mp (mt hone.mpr hnone)]
        exact .dropped
    | name hold hdesired hnamed hother =>
      right
      rw [(head?_eq_some_iff_mem hmounts).mpr hold, hdesired]
      exact .renamed hnamed hother
  · intro h
    cases h with
    | inl hmoves =>
      obtain ⟨hasked, hother⟩ := movesHost_iff.mp hmoves
      exact .host hasked hother
    | inr hremounts =>
      cases hhead : orig.config.mounts.head? with
      | none =>
        rw [hhead] at hremounts
        have hnone := List.head?_eq_none_iff.mp hhead
        cases hdesired : r.app.mountFor orig.processGroup with
        | none => rw [hdesired] at hremounts; cases hremounts
        | some desired => exact .mount (by simp [hnone, hdesired])
      | some old =>
        rw [hhead] at hremounts
        have hold := (head?_eq_some_iff_mem hmounts).mp hhead
        cases hdesired : r.app.mountFor orig.processGroup with
        | none => exact .mount (by simp [List.ne_nil_of_mem hold, hdesired])
        | some desired =>
          rw [hdesired] at hremounts
          cases hremounts with
          | renamed hnamed hother => exact .name hold hdesired hnamed hother

/-- A machine with a mount can't move to another host and have one there. -/
theorem update_refuses (hmoves : r.movesHost orig = true) (hold : orig.config.mounts ≠ [])
    (hdesired : r.app.mountFor orig.processGroup ≠ none) :
    ∃ e, (r.update orig).2 = .error e := by
  rcases hupdate : r.update orig with ⟨r', e | input⟩
  · exact ⟨e, rfl⟩
  · obtain ⟨laid, mounted, placed, remounts, h⟩ := update_ok_iff.mp hupdate
    have hnone : mounted.mounts = [] := (h.unmounted hmoves).resolve_left hold
    have hhead : (r.stamp laid).mounts.head? ≠ none := by
      rw [h.head?]
      exact hdesired
    -- The only way to mount nothing is to be asked for nothing.
    cases h.mounting with
    | bare _ hbare => exact absurd hbare hhead
    | dropped _ hdropped => exact absurd hdropped hhead
    | unnamed => cases hnone
    | same => cases hnone
    | fresh => cases hnone

/-- An update replaces a machine exactly where the machine has outgrown its place; else the machine
keeps its host and its volume. What a machine mounts that is replaced comes out of the pool. And a
machine with a mount can't move to another host and have one there. -/
theorem update_settles (r : Resolver) (orig : Machine) (hmounts : orig.config.mounts.length ≤ 1) :
    (∀ r' input, r.update orig = (r', .ok input) → r.Settles orig r' input) ∧
      (orig.config.mounts ≠ [] → r.app.mountFor orig.processGroup ≠ none →
        r.app.hostDedicationId ≠ "" → r.app.hostDedicationId ≠ orig.config.hostDedicationId →
        ∃ e, (r.update orig).2 = .error e) := by
  constructor
  · intro r' input hupdate
    obtain ⟨laid, mounted, placed, remounts, h⟩ := update_ok_iff.mp hupdate
    exact ⟨h.replaces_iff.trans (outgrows_iff hmounts).symm, h.stays hmounts,
      fun hreplaces _ => h.claims hreplaces⟩
  · intro hold hdesired hasked hother
    exact update_refuses (movesHost_iff.mpr ⟨hasked, hother⟩) hold hdesired

/-- A machine on the host and the volume that it is to have. -/
def settled : Machine where
  id := "m3"
  region := "ord"
  config := {
    mounts := [{ volume := "vol_3", name := "data", path := "/srv" }]
    guest := some { hostDedicationId := "host" } }

/-- A machine that is where it should be is updated in place. -/
theorem update_settles_settled : settled.config.mounts.length ≤ 1 ∧
    (∃ r' input, moving.update settled = (r', .ok input) ∧ input.requiresReplacement = false) ∧
    (∀ r' input, moving.update settled = (r', .ok input) → moving.Settles settled r' input) ∧
    (settled.config.mounts ≠ [] → moving.app.mountFor settled.processGroup ≠ none →
      moving.app.hostDedicationId ≠ "" →
      moving.app.hostDedicationId ≠ settled.config.hostDedicationId →
      ∃ e, (moving.update settled).2 = .error e) :=
  ⟨by decide, ⟨_, _, rfl, rfl⟩, update_settles moving settled (by decide)⟩

/-- A machine that is replaced gets no volume that is listed as attached, to it or to another. -/
theorem update_leaves_attached {listed : List Volume} (hids : (listed.map (·.id)).Nodup)
    (hpool : r.volumes.volumes.Sublist (Volume.Pool.ofList listed).volumes)
    (hupdate : r.update orig = (r', .ok input)) (hreplaces : input.requiresReplacement = true)
    {w : Volume} (hw : w ∈ listed) (hattached : w.attachedMachineId.getD "" ≠ "")
    {mount : Machine.Mount} (hmount : mount ∈ input.config.mounts) : mount.volume ≠ w.id := by
  obtain ⟨laid, mounted, placed, remounts, h⟩ := update_ok_iff.mp hupdate
  obtain ⟨v, htook, hvolume⟩ := h.claims hreplaces hmount
  -- What is in the pool was listed as free.
  obtain ⟨hv, hfree, -⟩ := Volume.Pool.mem_ofList (hpool.subset htook.gave.mem)
  intro hsame
  have hvw : v = w := List.inj_on_of_nodup_map hids hv hw (hvolume.symm.trans hsame)
  exact hattached (hvw ▸ hfree)

end Resolver

end Rollout
