import Mathlib.Data.List.Sort
import Rollout.Proofs.Discovery
import Rollout.Proofs.InPlace

/-!
# Resolution converges

A machine that has taken the configuration it was asked to take is asked for nothing else by the
same release. Its configuration is at rest then: to lay the group's over it changes nothing but the
mount, which comes back when it is settled, on the volume it is on. The host is the one that is
asked for. So the second request is for the same machine with the same configuration, in place, and
no volume is taken for it, whatever volumes are left by then.

## Main statements

- `Dict.ext_get?`: dictionaries with the same bindings are equal.
- `Resolver.resolve_converges`: the second request is the first, in place.
- `Resolver.performAll_again`: a release that is deployed again changes nothing.
-/

namespace Rollout

namespace Dict

variable {α : Type} {d e : Dict α} {k : String} {v : α}

/-- The entries are what is found under their keys. -/
theorem mem_entries_iff : (k, v) ∈ d.entries ↔ d.get? k = some v := by
  obtain ⟨l, hl⟩ := d
  simp only [get?]
  induction l with
  | nil => simp
  | cons a l ih =>
    obtain ⟨ha, hrest⟩ := List.pairwise_cons.mp hl
    rw [lookup_cons_eq_ite, List.mem_cons]
    by_cases hk : k = a.1
    · -- The key is bound only once, so nothing that follows binds it.
      have hnot : (k, v) ∉ l := fun hmem => String.lt_irrefl k (by simpa [hk] using ha _ hmem)
      rw [if_pos hk, or_iff_left hnot, Option.some_inj]
      exact ⟨fun h => h ▸ rfl, fun h => by rw [hk, ← h]⟩
    · rw [if_neg hk, ← ih hrest]
      exact or_iff_right fun h => hk (h ▸ rfl)

/-- Dictionaries with the same bindings are equal. -/
theorem ext_get? (h : ∀ k, d.get? k = e.get? k) : d = e := by
  apply Dict.ext
  -- Both lists are sorted by their keys, so equal members make them equal.
  have : Std.Antisymm fun a b : String × α => a.1 < b.1 :=
    ⟨fun a b hab hba => absurd (String.lt_trans hab hba) (String.lt_irrefl a.1)⟩
  have : Std.Irrefl fun a b : String × α => a.1 < b.1 := ⟨fun a => String.lt_irrefl a.1⟩
  apply d.sorted.eq_of_mem_iff e.sorted
  rintro ⟨k, v⟩
  rw [mem_entries_iff, mem_entries_iff, h k]

/-- Binding a key to what it is bound to changes nothing. -/
theorem insert_eq_self (h : d.get? k = some v) : d.insert k v = d := by
  apply ext_get?
  intro k'
  rw [get?_insert]
  split
  · -- The key is the one that is bound.
    rename_i hk
    rw [hk, h]
  · rfl

end Dict

namespace App.Config

variable {c : App.Config}

/-- The environment keeps the primary region that it has got. -/
theorem envFor_envFor (old : Dict String) : c.envFor (c.envFor old) = c.envFor old := by
  -- Only without a primary region is the machine's own region taken over.
  by_cases hregion : c.primaryRegion = ""
  · have hkeeps : c.envFor c.env = c.env := by
      cases henv : c.env.get? primaryRegionVariable <;>
        simp [envFor, hregion, henv, Dict.contains]
    cases hold : old.get? primaryRegionVariable with
    | none =>
      have henv : c.envFor old = c.env := by simp [envFor, hregion, hold]
      rw [henv, hkeeps]
    | some region =>
      by_cases hbound : c.env.contains primaryRegionVariable = true
      · have henv : c.envFor old = c.env := by simp [envFor, hregion, hold, hbound]
        rw [henv, hkeeps]
      · -- The region comes from the machine, and it is there again the next time.
        have henv : c.envFor old = c.env.insert primaryRegionVariable region := by
          simp [envFor, hregion, hold, hbound]
        rw [henv]
        simp [envFor, hregion, hbound, Dict.get?_insert]
  · simp [envFor, hregion]

/-- The size of machines stays, whatever host they are put on. -/
theorem guestFor_guestFor (old : Option Machine.Guest) :
    c.guestFor (c.guestFor old) = c.guestFor old := by
  cases hguest : c.guest <;> simp [guestFor, hguest]

/-- The size of machines stays where it is put on a host. -/
theorem guestFor_onHost (old : Option Machine.Guest) (host : String) :
    c.guestFor (some { (c.guestFor old).getD {} with hostDedicationId := host }) =
      some { (c.guestFor old).getD {} with hostDedicationId := host } := by
  cases hguest : c.guest <;> simp [guestFor, hguest]

end App.Config

namespace Machine.Config

/-- A configuration that serves is left as it is. -/
theorem serving_serving (c : Config) : c.serving.serving = c.serving := by
  by_cases hserves : c.services.isEmpty = true <;> simp [serving, hserves]

/-- What a configuration is laid out with stays where standbys are dropped. -/
theorem IsPlaced.serving (c : Config) : c.IsPlaced c.serving := by
  unfold Machine.Config.serving
  split <;> rfl

end Machine.Config

/-- A machine that has taken the configuration of a request. -/
def Machine.taking (m : Machine) (input : LaunchInput) : Machine :=
  { m with config := input.config }

namespace Resolver

variable {r r' : Resolver} {orig : Machine} {group : String} {input : LaunchInput}
variable {config config' laid mounted placed : Machine.Config} {remounts : Bool}

/-! ## Metadata -/

/-- What a release writes over the metadata does not depend on what was there. -/
theorem stampMetadata_written (r : Resolver) (d d' : Dict String) {key : String}
    (hkey : key ∈ [Metadata.releaseId, Metadata.releaseVersion, Metadata.toolVersion,
      Metadata.managedPostgres]) :
    (r.stampMetadata d).get? key = (r.stampMetadata d').get? key := by
  have hplatform : key ≠ Metadata.platformVersion := by rintro rfl; revert hkey; decide
  have hgroup : key ≠ Metadata.processGroup := by rintro rfl; revert hkey; decide
  unfold stampMetadata
  simp only [List.mem_cons, List.not_mem_nil, or_false] at hkey
  -- The managed mark is written or erased, whatever there was.
  split
  · simp only [Dict.get?_insert, get?_orInsert _ hgroup, get?_orInsert _ hplatform]
    grind
  · simp only [Dict.get?_insert, Dict.get?_erase, get?_orInsert _ hgroup, get?_orInsert _ hplatform]
    grind

/-- Metadata that is stamped twice is stamped. -/
theorem stampMetadata_stampMetadata (r : Resolver) (d : Dict String) :
    r.stampMetadata (r.stampMetadata d) = r.stampMetadata d := by
  apply Dict.ext_get?
  intro key
  -- A key that a release renews has a default or is written over; another one is left alone.
  by_cases hrenewed : key ∈ Metadata.renewed
  · by_cases hdefault : ∃ value, (key, value) ∈ Metadata.defaults
    · obtain ⟨value, hvalue⟩ := hdefault
      rw [stampMetadata_default _ _ hvalue, stampMetadata_default _ _ hvalue, Option.getD_some]
    · apply stampMetadata_written
      simp only [Metadata.defaults, Metadata.renewed, List.mem_cons, List.not_mem_nil, or_false,
        Prod.mk.injEq, not_exists, not_or, not_and] at hrenewed hdefault ⊢
      grind
  · rw [stampMetadata_get? r _ hrenewed]

/-- A configuration that is stamped twice is stamped. -/
theorem stamp_stamp (r : Resolver) (c : Machine.Config) : r.stamp (r.stamp c) = r.stamp c := by
  unfold stamp
  rw [stampMetadata_stampMetadata]

/-! ## Configurations at rest -/

/-- Whether a configuration has all that the configuration of a group is made of. -/
structure AtRest (r : Resolver) (group : String) (c : Machine.Config) : Prop where
  image : c.image = r.image
  env : r.app.envFor c.env = c.env
  init : (if r.app.processes.isEmpty then c.init
    else { c.init with cmd := r.app.commandFor group }) = c.init
  grouped : c.metadata.get? Metadata.processGroup = some group
  metadata : r.stampMetadata c.metadata = c.metadata
  services : c.services = r.app.servicesFor group
  checks : c.checks = r.app.checksFor group
  metrics : c.metrics = r.app.metrics
  guest : r.app.guestFor c.guest = c.guest
  standbys : c.serving = c

/-- A group that has a configuration over one machine has it over every other. -/
theorem machineConfig_over {c : App.Config} {image : String} {old : Option Machine.Config}
    (h : c.machineConfig group old image = .ok config) (base : Machine.Config) :
    c.machineConfig group (some base) image = .ok (c.laidOver group image base) := by
  unfold App.Config.machineConfig at h ⊢
  split at h
  · cases h
  · rename_i hknown
    rw [if_neg hknown]
    rfl

/-- To lay the configuration of a group over one at rest changes nothing but its mounts. -/
theorem AtRest.lays (h : r.AtRest group config) {old : Option Machine.Config}
    (hlays : r.app.machineConfig group old r.image = .ok laid) :
    ∃ laid', r.app.machineConfig group (some config) r.image = .ok laid' ∧
      r.stamp laid' = { config with mounts := (r.app.mountFor group).toList } := by
  refine ⟨_, machineConfig_over hlays config, ?_⟩
  unfold stamp App.Config.laidOver
  rw [h.env, h.init, Dict.insert_eq_self h.grouped, h.metadata, h.guest, ← h.image, ← h.services,
    ← h.checks, ← h.metrics]

namespace Stages

variable (h : r.Stages orig r' input laid mounted placed remounts)

include h

/-- What was laid and stamped is all in the request, but for what depends on a place. -/
theorem isPlaced : (r.stamp laid).IsPlaced input.config := by
  rw [h.serves]
  exact ((reconcileMount_isPlaced h.mounts).trans (reconcileHost_isPlaced h.places)).trans
    (.serving placed)

/-- The host that a machine is put on is the one it is on the next time. -/
theorem guest : r.app.guestFor input.config.guest = input.config.guest := by
  have hmounted : mounted.guest = r.app.guestFor orig.config.guest := by
    rw [reconcileMount_guest h.mounts, stamp_guest, machineConfig_guest h.lays]
  rw [h.serves]
  simp only [Machine.Config.serving_guest]
  -- The machine moves to the host of the app, or stays.
  rcases reconcileHost_ok_iff.mp h.places with ⟨-, -, rfl⟩ | ⟨-, rfl⟩
  · simp only [onHost, hmounted]
    exact App.Config.guestFor_onHost orig.config.guest r'.app.hostDedicationId
  · rw [hmounted, App.Config.guestFor_guestFor]

/-- What a machine is updated to is at rest. -/
theorem atRest : r.AtRest orig.processGroup input.config := by
  have hlaid := Except.ok.inj (h.lays.symm.trans (machineConfig_over h.lays orig.config))
  have hplaced := h.isPlaced
  rw [hlaid] at hplaced
  -- What was laid and stamped is still there after the machine was put somewhere.
  have henv : input.config.env = r.app.envFor orig.config.env :=
    congrArg Machine.Config.env hplaced
  have hinit : input.config.init = if r.app.processes.isEmpty then orig.config.init
      else { orig.config.init with cmd := r.app.commandFor orig.processGroup } :=
    congrArg Machine.Config.init hplaced
  have hmetadata : input.config.metadata =
      r.stampMetadata (orig.config.metadata.insert Metadata.processGroup orig.processGroup) :=
    hplaced.metadata
  have hgroup : input.config.metadata.get? Metadata.processGroup = some orig.processGroup := by
    rw [hmetadata, r.stampMetadata_default _ (List.mem_cons_of_mem _ List.mem_cons_self),
      Dict.get?_insert, if_pos rfl, Option.getD_some]
  constructor
  case image => exact hplaced.image
  case env => rw [henv, App.Config.envFor_envFor]
  case init =>
    rw [hinit]
    by_cases hprocesses : r.app.processes.isEmpty = true <;> simp [hprocesses]
  case grouped => exact hgroup
  case metadata => rw [hmetadata, stampMetadata_stampMetadata]
  case services => exact congrArg Machine.Config.services hplaced
  case checks => exact congrArg Machine.Config.checks hplaced
  case metrics => exact congrArg Machine.Config.metrics hplaced
  case guest => exact h.guest
  case standbys => rw [h.serves, Machine.Config.serving_serving]

end Stages

/-! ## Hosts and mounts that come back -/

/-- A machine that was put on its host need not move again. -/
theorem Stages.settledHost (h : r.Stages orig r' input laid mounted placed remounts)
    (s : Resolver) (hs : s.app = r.app) {m : Machine} (hm : m.config = input.config) :
    s.movesHost m = false := by
  -- Where a host is asked for, the machine was put there or is there.
  have hhost : r.app.hostDedicationId ≠ "" →
      r.app.hostDedicationId = input.config.hostDedicationId := by
    intro hasked
    by_cases hmoves : r.movesHost orig = true
    · rw [← movesHost_congr (reconcileMount_app h.mounts)] at hmoves
      rcases reconcileHost_ok_iff.mp h.places with ⟨-, -, rfl⟩ | ⟨hstays, -⟩
      · rw [h.serves, ← reconcileMount_app h.mounts]
        simp [Machine.Config.hostDedicationId, onHost]
      · rw [hmoves] at hstays
        cases hstays
    · -- It did not have to move.
      rw [h.host (by simpa using hmoves)]
      by_contra hother
      exact hmoves (movesHost_iff.mpr ⟨hasked, hother⟩)
  rw [← Bool.not_eq_true, movesHost_iff, hs, hm]
  exact fun ⟨hasked, hother⟩ => hother (hhost hasked)

/-- What was settled comes back when it is settled again, in place and without a volume of any
pool. -/
theorem Mounting.again (h : Mounting r orig config r' config' remounts)
    (htail : config.mounts.tail = []) (s : Resolver) (group : String) {m : Machine}
    (hm : m.config.mounts = config'.mounts) {base : Machine.Config}
    (hbase : base.mounts = config.mounts) :
    s.reconcileMount group m base = (s, .ok ({ base with mounts := config'.mounts }, false)) := by
  have hnothing : ∀ {c : Machine.Config}, base.mounts = c.mounts →
      { base with mounts := c.mounts } = base := by
    intro c hc
    rw [← hc]
  unfold reconcileMount
  -- The mount may have been left bare, dropped, kept, or taken afresh.
  cases h with
  | bare hold hdesired =>
    rw [hm, hbase, hdesired]
    simp only [hnothing hbase]
  | dropped hold hdesired =>
    rw [hm, hbase, hdesired]
    simp only [hnothing hbase]
  | unnamed hold hdesired hunnamed =>
    rw [hm, hbase, hdesired]
    simp [hunnamed, growingLike, withMount, htail, hbase]
  | same hold hdesired hnamed hsame =>
    rw [hm, hbase, hdesired]
    simp [hsame, growingLike, withMount, htail, hbase]
  | fresh hdesired hold htook =>
    rw [hm, hbase, hdesired]
    simp [growingLike, withMount, htail, hbase]

/-! ## The second request -/

/-- The second update of a machine asks for the configuration it has, in place. -/
theorem update_again (h : r.update orig = (r', .ok input)) (p : Volume.Pool) :
    { r with volumes := p }.update (orig.taking input) =
      ({ r with volumes := p }, .ok { input with requiresReplacement := false }) := by
  obtain ⟨laid, mounted, placed, remounts, hstages⟩ := update_ok_iff.mp h
  have hrest := hstages.atRest
  have hgroup : (orig.taking input).processGroup = orig.processGroup :=
    Machine.Config.processGroup_of_get? hrest.grouped orig.config.processGroup_ne
  obtain ⟨laid', hlays, hstamped⟩ := hrest.lays hstages.lays
  have hbase : (r.stamp laid').mounts = (r.stamp laid).mounts := by
    rw [hstamped, stamp_mounts, machineConfig_mounts hstages.lays]
  -- With the mounts of the first request it is the configuration of that request.
  have hback : { r.stamp laid' with mounts := mounted.mounts } = input.config := by
    rw [hstamped, ← hstages.config_mounts]
  have hmounts := hstages.mounting.again hstages.tail { r with volumes := p } orig.processGroup
    (m := orig.taking input) hstages.config_mounts hbase
  rw [hback] at hmounts
  have hmoves := hstages.settledHost { r with volumes := p } rfl (m := orig.taking input) rfl
  apply update_ok_iff.mpr
  refine ⟨laid', input.config, input.config, false, ?_, ?_, ?_, ?_⟩
  · rw [hgroup]
    exact hlays
  · rw [hgroup]
    exact hmounts
  · exact reconcileHost_ok_iff.mpr (.inr ⟨hmoves, rfl⟩)
  · rw [hrest.standbys, hmoves, hstages.serves]
    rfl

/-- A restart that is asked for again is the same restart. -/
theorem restart_again (r : Resolver) (orig : Machine) :
    r.restart (orig.taking (r.restart orig)) = r.restart orig := by
  unfold restart Machine.taking
  simp only [stamp_stamp]
  rfl

/-- Once a machine has taken its configuration, the same release asks it for the same again, in
place, whatever volumes are left. -/
theorem resolve_again (h : r.resolve orig = (r', .ok input)) (p : Volume.Pool) :
    { r with volumes := p }.resolve (orig.taking input) =
      ({ r with volumes := p }, .ok { input with requiresReplacement := false }) := by
  unfold resolve at h ⊢
  by_cases hrestart : r.restartOnly = true
  · rw [if_pos hrestart] at h ⊢
    cases h
    exact congrArg _ (congrArg _ (r.restart_again orig))
  · rw [if_neg hrestart] at h ⊢
    exact update_again h p

/-- Of a resolver a request changes the volumes only. -/
theorem resolve_frame (r : Resolver) (orig : Machine) :
    ∃ p, (r.resolve orig).1 = { r with volumes := p } :=
  r.perform_frame (.resolve orig)

/-- Once a machine has taken its configuration, the same release asks it for the same again, in
place, and takes no volume for it: neither directly afterwards nor later, with whatever volumes are
left by then. -/
theorem resolve_converges (r r' : Resolver) (orig : Machine) (input : LaunchInput)
    (h : r.resolve orig = (r', .ok input)) :
    r'.resolve (orig.taking input) = (r', .ok { input with requiresReplacement := false }) ∧
      ∀ p, { r with volumes := p }.resolve (orig.taking input) =
        ({ r with volumes := p }, .ok { input with requiresReplacement := false }) := by
  refine ⟨?_, resolve_again h⟩
  obtain ⟨p, hp⟩ := r.resolve_frame orig
  rw [h] at hp
  rw [show r' = { r with volumes := p } from hp]
  exact resolve_again h p

/-- A machine that is replaced for its mount and its host. The second request is in place. -/
theorem resolve_converges_bare : ∃ r' input, moving.resolve bare = (r', .ok input) ∧
    input.requiresReplacement = true ∧ r'.volumes.volumes = [] ∧
    r'.resolve (bare.taking input) = (r', .ok { input with requiresReplacement := false }) ∧
    ∀ p, { moving with volumes := p }.resolve (bare.taking input) =
      ({ moving with volumes := p }, .ok { input with requiresReplacement := false }) :=
  ⟨_, _, rfl, by decide, by decide, resolve_converges moving _ bare _ rfl⟩

/-- Whether a machine was asked for something by a release, whatever volumes were left. -/
def Asks (r : Resolver) (m : Machine) (input : LaunchInput) : Prop :=
  ∃ p r', { r with volumes := p }.resolve m = (r', .ok input)

/-- What a sequence of requests asks of a machine is asked of it by the release. -/
theorem performAll_asks {ops : List Operation} {step : Performed} (h : step ∈ performAll r ops)
    (hop : step.operation = .resolve orig) (hok : step.result = .ok input) :
    r.Asks orig input := by
  obtain ⟨p, hp⟩ := performAll_frame h
  have hperform := (performAll_step h).1
  rw [hop, hok, hp] at hperform
  exact ⟨p, step.after, hperform⟩

/-- A release that is deployed again over machines that took what they were asked to take asks all
of them for the same in place, and no volume is taken. -/
theorem performAll_again (r : Resolver) (taken : List (Machine × LaunchInput))
    (h : ∀ t ∈ taken, r.Asks t.1 t.2) :
    performAll r (taken.map fun t => .resolve (t.1.taking t.2)) = taken.map fun t =>
      ⟨r, .resolve (t.1.taking t.2), .ok { t.2 with requiresReplacement := false }, r⟩ := by
  -- By induction on the machines: no request takes a volume, so the next one finds the same
  -- resolver.
  induction taken with
  | nil => rfl
  | cons t taken ih =>
    obtain ⟨p, r', ht⟩ := h t List.mem_cons_self
    have hagain : (Operation.resolve (t.1.taking t.2)).perform r =
        (r, .ok { t.2 with requiresReplacement := false }) := resolve_again ht r.volumes
    rw [List.map_cons, performAll, hagain, ih fun t' ht' => h t' (List.mem_cons_of_mem t ht')]
    rfl

end Resolver

end Rollout
