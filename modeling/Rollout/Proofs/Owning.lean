import Mathlib.Data.List.Basic
import Rollout.Proofs.Command

/-!
# Owned fleets

Which machines a program names is a matter of the ids in the fleet that it works on. The records of
the machines are replaced by replies while it works, and machines by new ones. So the invariant is
about ids: those of all members are *owned*, they are of a given list or belong to machines that
were launched since, and every call names an owned machine.

Work often names a machine that it was given before: one that was launched, or one that a request
was made for. Such ids are *known*: they are owned beside those of the members. In the same way the
other members are known while work is done on one of them.

## Main statements

- `Work.KeepsOwning.bind` and its like: work is put together from work that keeps a fleet owned.
- `Fleet.member_keepsOwning`: work on a member keeps the whole fleet owned.
-/

namespace Rollout

variable {σ τ ρ α β : Type} {env : Environment σ} {base mid past past' : List Step}
variable {ids needed known : List String} {id : String}

/-! ## Ids that are owned -/

/-- Whether a launch was answered with a machine of an id between two moments. -/
def LaunchedSince (base past : List Step) (id : String) : Prop :=
  ∃ input m, Seen base [.answered (.launch input) (.ok m)] past ∧ m.id = id

/-- What was launched stays launched. -/
theorem LaunchedSince.later (h : LaunchedSince base past id) (hpast : past <:+ past') :
    LaunchedSince base past' id := by
  obtain ⟨input, m, hseen, hid⟩ := h
  exact ⟨input, m, hseen.later hpast, hid⟩

/-- What was launched since a moment was launched since any earlier one. -/
theorem LaunchedSince.since_earlier (h : LaunchedSince mid past id) (hbase : base <:+ mid) :
    LaunchedSince base past id := by
  obtain ⟨input, m, hseen, hid⟩ := h
  exact ⟨input, m, hseen.since_earlier hbase, hid⟩

/-- Whether an id is one of some, or that of a machine that was launched since a moment. -/
def Owned (ids : List String) (base past : List Step) (id : String) : Prop :=
  id ∈ ids ∨ LaunchedSince base past id

/-- What is owned stays owned. -/
theorem Owned.later (h : Owned ids base past id) (hpast : past <:+ past') :
    Owned ids base past' id :=
  h.imp_right (·.later hpast)

/-- Whether a call names no machine but of some ids. -/
def Call.Names (ids : List String) (c : Call) : Prop := ∀ id ∈ c.machineId?, id ∈ ids

/-- Whether a call names owned machines only. -/
def NamesOwned (ids : List String) (base before : List Step) (c : Call) : Prop :=
  ∀ id ∈ c.machineId?, Owned ids base before id

/-- A call that names no machine names owned ones only. -/
theorem NamesOwned.of_eq_none {before : List Step} {c : Call} (hc : c.machineId? = none) :
    NamesOwned ids base before c := by
  intro id hid
  rw [hc] at hid
  cases hid

/-- Where more ids are owned, and for longer, no fewer calls name owned machines. -/
theorem NamesOwned.mono {ids' : List String} {before : List Step} {c : Call}
    (h : NamesOwned ids mid before c) (hsub : ids ⊆ ids') (hbase : base <:+ mid) :
    NamesOwned ids' base before c :=
  fun id hid => (h id hid).imp (fun hmem => hsub hmem) (·.since_earlier hbase)

/-- A call that names owned machines names one of the machines or one that was launched. -/
theorem NamesOwned.of_machines {machines : List Machine} {before : List Step} {c : Call}
    (h : NamesOwned (machines.map (·.id)) mid before c) (hbase : base <:+ mid)
    (hid : c.machineId? = some id) :
    (∃ m ∈ machines, m.id = id) ∨ LaunchedSince base before id :=
  (h id hid).imp List.mem_map.mp (·.since_earlier hbase)

/-- The ids of the members. -/
def Fleet.memberIds (f : Fleet) : List String := f.machines.map (·.id)

/-- Whether all members of a fleet are owned, and further ids that are known, and all calls since a
moment named owned machines. -/
structure Owning (ids : List String) (base : List Step) (known : List String) (f : Fleet)
    (past : List Step) : Prop where
  owned : ∀ id ∈ known ++ f.memberIds, Owned ids base past id
  calls : CallsSince base past (NamesOwned ids base)

namespace Owning

variable {f f' : Fleet}

/-- What is done for known ids and for members, and leaves members of such ids, keeps a fleet
owned. -/
theorem adds (h : Owning ids base known f past) (hneeded : needed ⊆ known)
    (hadds : Adds (Call.Names (needed ++ f.memberIds)) past past')
    (hids : f'.memberIds ⊆ needed ++ f.memberIds) :
    Owning ids base known f' past' := by
  have hsub : needed ++ f.memberIds ⊆ known ++ f.memberIds :=
    List.append_subset.mpr ⟨fun _ hid => List.mem_append_left _ (hneeded hid),
      List.subset_append_right _ _⟩
  constructor
  · intro id hid
    have hmem : id ∈ known ++ f.memberIds := by
      -- A known id stays known, and a member has an id that was needed or that of a former member.
      rcases List.mem_append.mp hid with hid | hid
      · exact List.mem_append_left _ hid
      · exact hsub (hids hid)
    exact (h.owned id hmem).later hadds.suffix
  · -- The ids that the new calls name were owned before them.
    refine CallsSince.trans h.calls (hadds.callsSince.mono fun before c hbefore _ hc id hid => ?_)
    exact (h.owned id (hsub (hc id hid))).later hbefore

/-- A fleet stays owned if members leave or ids are no longer known. -/
theorem mono {known' : List String} (h : Owning ids base known f past)
    (hsub : known' ++ f'.memberIds ⊆ known ++ f.memberIds) : Owning ids base known' f' past :=
  ⟨fun id hid => h.owned id (hsub hid), h.calls⟩

/-- How work ends that keeps a fleet owned. -/
def post (ids : List String) (base : List Step) (known : List String) (fleet : τ → Fleet) :
    Work.Post σ τ α where
  ok t _ s := Owning ids base known (fleet t) s.past
  error t _ s := Owning ids base known (fleet t) s.past
  halts _ s := CallsSince base s.past (NamesOwned ids base)

end Owning

/-! ## Work that keeps a fleet owned -/

/-- Whether work on a value keeps the fleet in it owned, if some ids are known to be. -/
def Work.KeepsOwning (env : Environment σ) (ids : List String) (base : List Step)
    (fleet : τ → Fleet) (needed : List String) (x : Work σ τ α) : Prop :=
  ∀ known, needed ⊆ known → Work.Triple env (fun t s => Owning ids base known (fleet t) s.past) x
    (Owning.post ids base known fleet)

/-- Whether work gives something with an id that is owned, and keeps the fleet owned, if some ids
are known to be. -/
def Work.GivesOwned (env : Environment σ) (ids : List String) (base : List Step)
    (fleet : τ → Fleet) (needed : List String) (idOf : α → String) (x : Work σ τ α) : Prop :=
  ∀ known, needed ⊆ known → Work.Triple env (fun t s => Owning ids base known (fleet t) s.past) x
    ⟨fun t a s => Owning ids base (idOf a :: known) (fleet t) s.past,
      fun t _ s => Owning ids base known (fleet t) s.past,
      fun _ s => CallsSince base s.past (NamesOwned ids base)⟩

namespace Work.KeepsOwning

variable {fleet : τ → Fleet} {x : Work σ τ α} {f : α → Work σ τ β}

/-- What work ends with that names no machine but of some ids, and leaves members of such ids. -/
def staysIn (fleet : τ → Fleet) (ids : List String) (p : List Step) : Work.Post σ τ α where
  ok t _ s := (fleet t).memberIds ⊆ ids ∧ Adds (Call.Names ids) p s.past
  error t _ s := (fleet t).memberIds ⊆ ids ∧ Adds (Call.Names ids) p s.past
  halts _ s := Adds (Call.Names ids) p s.past

/-- Work keeps a fleet owned if it stays within the members and the ids that it needs. -/
theorem of_stays (h : ∀ t p, Run.Triple env (·.past = p) (x t)
    (staysIn fleet (needed ++ (fleet t).memberIds) p).toRun) :
    x.KeepsOwning env ids base fleet needed := by
  refine fun known hneeded t => Run.Triple.of_past fun p hp => ?_
  refine (h t p).mono (fun _ hs => hs) ?_ fun _ s hs =>
    (hp.adds hneeded hs fun _ hid => List.mem_append_right _ hid).calls
  -- It makes no difference whether the work succeeded.
  rintro ⟨t', _ | _⟩ s ⟨hids, hadds⟩ <;> exact hp.adds hneeded hadds hids

/-- To give a value does nothing to a fleet. -/
theorem pure (a : α) : (Pure.pure a : Work σ τ α).KeepsOwning env ids base fleet needed :=
  fun _ _ => Work.Triple.pure fun _ _ hs => hs

/-- Nor does failing. -/
theorem fail (e : DeployError) :
    (Work.fail e : Work σ τ α).KeepsOwning env ids base fleet needed :=
  fun _ _ => Work.Triple.fail fun _ _ hs => hs

/-- Nor does a result that is there already. -/
theorem ofExcept (r : Except DeployError α) :
    (Work.ofExcept r).KeepsOwning env ids base fleet needed :=
  fun _ _ => Work.Triple.ofExcept (fun _ _ _ _ hs => hs) fun _ _ _ _ hs => hs

/-- Work that keeps a fleet owned may follow such work. -/
theorem bind (hx : x.KeepsOwning env ids base fleet needed)
    (hf : ∀ a, (f a).KeepsOwning env ids base fleet needed) :
    (x >>= f).KeepsOwning env ids base fleet needed :=
  fun known hneeded => Work.Triple.bind (hx known hneeded) (fun a => hf a known hneeded)
    (fun _ _ _ hs => hs) (fun _ _ hs => hs)

/-- Work that keeps a fleet owned may look at the value that it works on. -/
theorem value_bind {f : τ → Work σ τ β}
    (hf : ∀ t, (f t).KeepsOwning env ids base fleet needed) :
    (Work.value >>= f).KeepsOwning env ids base fleet needed :=
  fun known hneeded => Work.Triple.value_bind fun t =>
    (hf t known hneeded).pre fun _ _ hs => hs.2

/-- Work that follows a result may rely on its being one. -/
theorem ofExcept_bind {r : Except DeployError α}
    (hf : ∀ a, r = .ok a → (f a).KeepsOwning env ids base fleet needed) :
    (Work.ofExcept r >>= f).KeepsOwning env ids base fleet needed :=
  fun known hneeded => Work.Triple.bind (R := ⟨fun t a s => r = .ok a ∧
      Owning ids base known (fleet t) s.past, fun t _ s => Owning ids base known (fleet t) s.past,
      fun _ _ => False⟩)
    (Work.Triple.ofExcept (fun _ _ _ hr hs => ⟨hr, hs⟩) fun _ _ _ _ hs => hs)
    (fun a => Work.Triple.of_and fun hr => hf a hr known hneeded) (fun _ _ _ hs => hs)
    (fun _ _ h => h.elim)

/-- What is done with something of an owned id may name the id. -/
theorem given_bind {idOf : α → String} (hx : x.GivesOwned env ids base fleet needed idOf)
    (hf : ∀ a, (f a).KeepsOwning env ids base fleet (idOf a :: needed)) :
    (x >>= f).KeepsOwning env ids base fleet needed := by
  intro known hneeded
  -- When all is done, the id that was given need not be known any more.
  have hforget : ∀ a t p, Owning ids base (idOf a :: known) (fleet t) p →
      Owning ids base known (fleet t) p :=
    fun a t p h => h.mono fun _ hid => List.mem_cons_of_mem _ hid
  refine Work.Triple.bind (hx known hneeded) (fun a => ?_) (fun _ _ _ hs => hs) (fun _ _ hs => hs)
  exact (hf a (idOf a :: known) (List.cons_subset_cons _ hneeded)).mono (fun _ _ hs => hs)
    (fun t _ s hs => hforget a t s.past hs) (fun t _ s hs => hforget a t s.past hs)
    (fun _ _ hs => hs)

/-- A change that adds no member but of an id that is needed keeps a fleet owned. -/
theorem change {g : τ → τ} (hg : ∀ t, (fleet (g t)).memberIds ⊆ needed ++ (fleet t).memberIds) :
    (Work.change g).KeepsOwning env ids base fleet needed :=
  of_stays fun t _ => Run.Triple.pure fun _ hs => ⟨hg t, hs ▸ Adds.refl⟩

/-- Work keeps a fleet owned if its failures are looked at. -/
theorem attempt (hx : x.KeepsOwning env ids base fleet needed) :
    x.attempt.KeepsOwning env ids base fleet needed :=
  fun known hneeded => Work.Triple.attempt (hx known hneeded)

/-- So it does if its errors are renamed. -/
theorem mapError {g : DeployError → DeployError}
    (hx : x.KeepsOwning env ids base fleet needed) :
    (x.mapError g).KeepsOwning env ids base fleet needed :=
  fun known hneeded => Work.Triple.mapError (hx known hneeded)

/-- A report names no machine. -/
theorem report (r : Reporter) (message : String) :
    (Work.lift (Run.report r message) : Work σ τ Unit).KeepsOwning env ids base fleet needed :=
  fun _ _ => Work.Triple.lift fun _ => Run.Triple.change fun _ hs =>
    ⟨fun id hid => (hs.owned id hid).later (List.suffix_cons _ _), hs.calls.skip rfl⟩

/-- Work on a part of a value that has the fleet. -/
theorem within {part : τ → ρ} {put : τ → ρ → τ} {fleet : ρ → Fleet} {y : Work σ ρ α}
    (hput : ∀ t p, part (put t p) = p) (hy : y.KeepsOwning env ids base fleet needed) :
    (Work.within part put y).KeepsOwning env ids base (fun t => fleet (part t)) needed := by
  refine fun known hneeded => Work.Triple.within fun t => ?_
  refine (hy known hneeded (part t)).mono (fun _ hs => hs) ?_ (fun _ _ hs => hs)
  -- The part that is put in is the one that is looked at.
  rintro ⟨p, _ | _⟩ s hs
  · show Owning ids base known (fleet (part (put t p))) s.past
    rw [hput]
    exact hs
  · show Owning ids base known (fleet (part (put t p))) s.past
    rw [hput]
    exact hs

end Work.KeepsOwning

/-- A launch gives a machine that is owned. -/
theorem Work.GivesOwned.launch {fleet : τ → Fleet} {input : LaunchInput} {what machine : String} :
    (Work.call (.launch input) what machine : Work σ τ Machine).GivesOwned env ids base fleet needed
      (·.id) := by
  intro known _
  -- A launch names no machine, and an answer is no call.
  have hasked : ∀ t time p, Owning ids base known (fleet t) p →
      Owning ids base known (fleet t) (.asked (.launch input) time :: p) := fun t time p h =>
    ⟨fun id hid => (h.owned id hid).later (List.suffix_cons _ _),
      h.calls.asked time fun id hid => by cases hid⟩
  have hstep : ∀ t step p, Owning ids base known (fleet t) p → step.call? = none →
      Owning ids base known (fleet t) (step :: p) := fun t step p h hstep =>
    ⟨fun id hid => (h.owned id hid).later (List.suffix_cons _ _), h.calls.skip hstep⟩
  refine Work.Triple.call (c := .launch input) (K := fun t p => Owning ids base known (fleet t) p)
    (R := fun t m p => Owning ids base (m.id :: known) (fleet t) p)
    (E := fun t _ p => Owning ids base known (fleet t) p)
    (H := fun p => CallsSince base p (NamesOwned ids base)) ?_ ?_ ?_ ?_ ?_
  · exact fun _ _ _ hp => hp
  · exact fun _ t time p hp => hasked t time p hp
  · exact fun _ t time p hp _ => hstep t _ _ (hasked t time p hp) rfl
  · -- A machine is answered: the launch is the one that it belongs to.
    intro m t time p hp _
    have hown := hstep t (.answered (.launch input) (.ok m)) _ (hasked t time p hp) rfl
    have hlaunched : LaunchedSince base (.answered (.launch input) (.ok m) ::
        .asked (.launch input) time :: p) m.id :=
      ⟨input, m, (Seen.of_suffix (hasked t time p hp).calls.suffix).take _, rfl⟩
    refine ⟨fun id hid => ?_, hown.calls⟩
    rcases List.mem_cons.mp hid with rfl | hid
    · exact .inr hlaunched
    · exact hown.owned id hid
  · exact fun t time p hp => (hasked t time p hp).calls

/-! ## Handles and fleets -/

/-- The fleet of one handle. -/
def Fleet.single (h : Handle) : Fleet := ⟨[h]⟩

/-- Work on a handle that is no member may be done aside, if its machine is known. -/
theorem Work.GivesOwned.aside {fleet : τ → Fleet} {x : Work σ Handle α} {h : Handle}
    (hx : x.KeepsOwning env ids base Fleet.single needed) (hid : h.id ∈ needed) :
    (Work.lift (x h) : Work σ τ _).GivesOwned env ids base fleet needed (·.1.id) := by
  refine fun known hneeded => Work.Triple.lift fun t => ?_
  have hneeded' : needed ⊆ known ++ (fleet t).memberIds := fun _ hid =>
    List.mem_append_left _ (hneeded hid)
  -- Where the handle is the fleet, the members are known, and when it is done they are members
  -- again.
  have hback : ∀ h' p, Owning ids base (known ++ (fleet t).memberIds) (Fleet.single h') p →
      Owning ids base (h'.id :: known) (fleet t) p := by
    refine fun h' p hs => hs.mono (List.cons_subset.mpr ⟨?_, List.subset_append_left _ _⟩)
    exact List.mem_append_right _ (List.mem_singleton_self _)
  refine (hx _ hneeded' h).mono (fun s hs => hs.mono ?_) ?_ (fun _ _ hs => hs)
  · refine List.append_subset.mpr ⟨fun _ hid => hid, fun id hid' => ?_⟩
    obtain rfl := List.mem_singleton.mp hid'
    exact List.mem_append_left _ (hneeded hid)
  · rintro ⟨h', _ | _⟩ s hs <;> exact hback h' s.past hs

namespace Handle

/-- Work on a handle that names no machine but its own and some that are known, and leaves the
handle of such a machine. -/
theorem keepsOwning_of {x : Work σ Handle α}
    (hcalls : ∀ h, (x h).Calls (Call.Names (needed ++ [h.id])))
    (hids : ∀ h p, Run.Triple env (·.past = p) (x h) (Work.Post.toRun
      ⟨fun h' _ _ => h'.id ∈ needed ++ [h.id], fun h' _ _ => h'.id ∈ needed ++ [h.id],
        fun _ _ => True⟩)) :
    x.KeepsOwning env ids base Fleet.single needed := by
  refine Work.KeepsOwning.of_stays fun h p => ?_
  refine (((hcalls h).triple_at p).and (hids h p)).mono (fun _ hs => ⟨hs, hs⟩) ?_
    (fun _ _ hs => hs.1)
  rintro ⟨h', _ | _⟩ s ⟨hadds, hid⟩
  · exact ⟨List.cons_subset.mpr ⟨hid, List.nil_subset _⟩, hadds⟩
  · exact ⟨List.cons_subset.mpr ⟨hid, List.nil_subset _⟩, hadds⟩

/-- A handle names its own machine. -/
theorem own_mem {h : Handle} : h.id ∈ needed ++ [h.id] :=
  List.mem_append_right _ (List.mem_singleton_self _)

/-- An update of a machine whose id is known keeps the handle owned. -/
theorem update_keepsOwning (hechoes : env.Echoes) {input : LaunchInput} (hid : input.id = some id)
    (hneeded : id ∈ needed) :
    (update input).KeepsOwning env ids base Fleet.single needed := by
  have hmem : ∀ h : Handle, id ∈ needed ++ [h.id] := fun h => List.mem_append_left _ hneeded
  refine keepsOwning_of (fun h => (update_calls h input).mono ?_) fun h p =>
    (update_triple h p input).mono (fun _ hs => hs) ?_ (fun _ _ hs => hs)
  · rintro c ⟨nonce, rfl⟩ id' hid'
    obtain rfl := Option.some.inj (hid.symm.trans hid')
    exact hmem h
  · rintro ⟨h', e | _⟩ s hs
    · obtain rfl : h' = h := hs
      exact own_mem
    · -- The machine in the reply is the one that was named.
      obtain ⟨m, nonce, rfl, hgives, -⟩ := hs
      show m.id ∈ needed ++ [h.id]
      rw [hechoes.update input nonce m id hgives hid]
      exact hmem h

/-- To destroy the machine of a handle keeps it owned. -/
theorem destroy_keepsOwning :
    (destroy (σ := σ)).KeepsOwning env ids base Fleet.single needed := by
  refine keepsOwning_of (fun h => (destroy_calls h).mono ?_) fun h p =>
    (destroy_triple h p).mono (fun _ hs => hs) ?_ (fun _ _ hs => hs)
  · rintro c ⟨nonce, rfl⟩ id' hid'
    obtain rfl := Option.some.inj hid'
    exact own_mem
  · rintro ⟨h', e | _⟩ s hs
    · obtain rfl : h' = h := hs
      exact own_mem
    · obtain rfl : h' = h.destroyed := hs.1
      exact own_mem

/-- To wait for a state of the machine of a handle keeps it owned. -/
theorem waitForState_keepsOwning (state : Machine.State) (timeout : Nat) :
    (waitForState (σ := σ) state timeout).KeepsOwning env ids base Fleet.single needed := by
  refine keepsOwning_of (fun h => waitForState_calls h timeout state fun left id' hid' => ?_)
    fun h p => (waitForState_triple h timeout p state).mono (fun _ hs => hs) ?_ (fun _ _ hs => hs)
  · obtain rfl := Option.some.inj hid'
    exact own_mem
  · rintro ⟨h', e | _⟩ s hs
    · obtain rfl : h' = h := hs
      exact own_mem
    · obtain rfl : h' = h := hs.1
      exact own_mem

/-- A machine is fetched by the id of its handle. -/
theorem get_names (h : Handle) : Call.Names (needed ++ [h.id]) (.get h.id) := by
  intro id' hid'
  obtain rfl := Option.some.inj hid'
  exact own_mem

/-- A machine that is fetched has the id that was asked for. -/
theorem fetched_mem (hechoes : env.Echoes) {h h' : Handle}
    (hh' : h' = h ∨ ∃ m, h' = { h with machine := m } ∧ env.Gives (.get h.id) (.ok m)) :
    h'.id ∈ needed ++ [h.id] := by
  obtain rfl | ⟨m, rfl, hgives⟩ := hh'
  · exact own_mem
  · show m.id ∈ needed ++ [h.id]
    rw [hechoes.get _ _ hgives]
    exact own_mem

/-- To fetch the machine of a handle over and over keeps it owned. -/
theorem fetchUntil_keepsOwning (hechoes : env.Echoes) (what : String) (schedule : Backoff)
    (accept : Machine → Option α) (timeout : Nat) :
    (fetchUntil (σ := σ) what schedule accept timeout).KeepsOwning env ids base Fleet.single
      needed := by
  refine keepsOwning_of (fun h => fetchUntil_calls h timeout what schedule accept (get_names h))
    fun h p => (fetchUntil_triple h timeout p what schedule accept).mono (fun _ hs => hs) ?_
      (fun _ _ hs => hs)
  -- On failure the handle may have been left, on success it holds the last machine that was
  -- fetched.
  rintro ⟨h', e | a⟩ s hs
  · exact fetched_mem hechoes hs
  · obtain ⟨m, hh', hgives, -⟩ := hs
    exact fetched_mem hechoes (.inr ⟨m, hh', hgives⟩)

/-- To wait for the health of the machine of a handle keeps it owned. -/
theorem waitForHealth_keepsOwning (hechoes : env.Echoes) (timeout : Nat) :
    (waitForHealth (σ := σ) timeout).KeepsOwning env ids base Fleet.single needed := by
  refine Work.KeepsOwning.value_bind fun h => ?_
  split
  · -- Nothing is fetched where no check is configured.
    exact Work.KeepsOwning.pure _
  · exact fetchUntil_keepsOwning hechoes _ _ _ _

end Handle

namespace Fleet

variable {f f' : Fleet} {missing : DeployError} {place : Nat}

/-- Another member in a place brings its id to that place. -/
theorem memberIds_set (f : Fleet) (place : Nat) (h : Handle) :
    (f.set place h).memberIds = f.memberIds.set place h.id := by
  unfold memberIds
  rw [machines_set, List.map_set]
  rfl

/-- The ids are those of the machines. -/
theorem memberIds_congr (h : f'.machines = f.machines) : f'.memberIds = f.memberIds := by
  rw [memberIds, h, memberIds]

/-- The id of a member is among the ids. -/
theorem mem_memberIds {h : Handle} (hh : h ∈ f.members) : h.id ∈ f.memberIds :=
  List.mem_map_of_mem (List.mem_map_of_mem hh)

/-- The id of a member is known where the fleet is owned. -/
theorem owning_member {f : Fleet} {h : Handle} (hs : Owning ids base known f past)
    (hh : f.members[place]? = some h) : Owning ids base (h.id :: known) f past := by
  refine hs.mono (List.cons_subset.mpr ⟨?_, fun _ hid => hid⟩)
  exact List.mem_append_right _ (mem_memberIds (List.mem_of_getElem? hh))

/-- Another member in a place is the only new one. -/
theorem memberIds_set_subset (f : Fleet) (place : Nat) (h : Handle) :
    (f.set place h).memberIds ⊆ f.memberIds ++ [h.id] := by
  rw [memberIds_set]
  intro id hid
  rcases List.mem_or_eq_of_mem_set hid with hid | rfl
  · exact List.mem_append_left _ hid
  · exact List.mem_append_right _ (List.mem_singleton_self _)

/-- Work on a member is work on the fleet of the one handle, while the others are known. -/
theorem member_keepsOwning {x : Work σ Handle α}
    (hx : x.KeepsOwning env ids base single needed) :
    (member place missing x).KeepsOwning env ids base (fun f => f) needed := by
  refine fun known hneeded f => member_triple (fun _ _ hs => hs) fun h hh => ?_
  -- Put back into its place, the handle joins the members that were known meanwhile.
  have hother : ∀ h' p, Owning ids base (known ++ f.memberIds) (single h') p →
      Owning ids base known (f.set place h') p := by
    refine fun h' p hs => hs.mono ?_
    rw [List.append_assoc]
    exact List.append_subset.mpr ⟨List.subset_append_left _ _,
      fun _ hid => List.mem_append_right _ (memberIds_set_subset f place h' hid)⟩
  have hneeded' : needed ⊆ known ++ f.memberIds := fun _ hid =>
    List.mem_append_left _ (hneeded hid)
  refine (hx _ hneeded' h).mono (fun s hs => hs.mono ?_) ?_ (fun _ _ hs => hs)
  · refine List.append_subset.mpr ⟨fun _ hid => hid, fun id hid => ?_⟩
    obtain rfl := List.mem_singleton.mp hid
    exact List.mem_append_right _ (mem_memberIds (List.mem_of_getElem? hh))
  · rintro ⟨h', _ | _⟩ s hs <;> exact hother h' s.past hs

/-- Taking and giving up leases names members only. -/
theorem leases_keepsOwning {x : Work σ Fleet Unit}
    (hx : ∀ f p, Run.Triple env (·.past = p) (x f) (Work.Post.toRun
      ⟨fun f' _ s => f'.machines = f.machines ∧ Adds f.Leases p s.past,
        fun f' _ s => f'.machines = f.machines ∧ Adds f.Leases p s.past,
        fun _ s => Adds f.Leases p s.past⟩)) :
    x.KeepsOwning env ids base (fun f => f) needed := by
  -- A lease is asked for, or given up, in the name of a member.
  have hnames : ∀ (f : Fleet) c, f.Leases c → Call.Names (needed ++ f.memberIds) c := by
    rintro f _ (⟨m, hm, nonce, rfl⟩ | ⟨m, hm, ttl, rfl⟩) id hid
    all_goals
      obtain rfl := Option.some.inj hid
      exact List.mem_append_right _ (List.mem_map_of_mem hm)
  refine Work.KeepsOwning.of_stays fun f p => (hx f p).mono (fun _ hs => hs) ?_
    (fun _ _ hs => hs.mono (hnames f))
  rintro ⟨f', _ | _⟩ s ⟨hmachines, hadds⟩
  · exact ⟨memberIds_congr hmachines ▸ List.subset_append_right _ _, hadds.mono (hnames f)⟩
  · exact ⟨memberIds_congr hmachines ▸ List.subset_append_right _ _, hadds.mono (hnames f)⟩

/-- To take the leases of a fleet keeps it owned. -/
theorem acquire_keepsOwning (term : Nat) :
    (acquire (σ := σ) term).KeepsOwning env ids base (fun f => f) needed :=
  leases_keepsOwning fun _ p => acquire_calls term p

/-- To give them up keeps it owned. -/
theorem release_keepsOwning :
    (release (σ := σ)).KeepsOwning env ids base (fun f => f) needed := by
  refine leases_keepsOwning fun f p => (release_calls p).mono (fun _ hs => hs) ?_
    (fun _ _ hs => hs.mono fun _ => .inl)
  rintro ⟨f', _ | _⟩ s hs <;> exact ⟨hs.1, hs.2.mono fun _ => .inl⟩

/-- A new member whose id is known keeps the fleet owned. -/
theorem push_keepsOwning {h : Handle} (hid : h.id ∈ needed) :
    (Work.change (·.push h) : Work σ Fleet Unit).KeepsOwning env ids base (fun f => f) needed := by
  refine Work.KeepsOwning.change fun f => ?_
  have hpush : (f.push h).memberIds = f.memberIds ++ [h.id] := by
    simp [memberIds, machines, push, Handle.id]
  rw [hpush]
  refine List.append_subset.mpr ⟨List.subset_append_right _ _, fun id hid' => ?_⟩
  obtain rfl := List.mem_singleton.mp hid'
  exact List.mem_append_left _ hid

end Fleet

end Rollout
