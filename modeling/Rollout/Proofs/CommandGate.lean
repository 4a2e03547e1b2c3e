import Mathlib.Data.List.TakeWhile
import Rollout.Proofs.Command
import Rollout.Proofs.Deployment
import Rollout.Proofs.Events
import Rollout.Proofs.Liveness

/-!
# The gate of the release command

An app with a release command is not touched before the command has succeeded. Until then all
calls are those of the command itself, to the machine it was given or to one it made; and if any
call comes after, the machine of the command had been made ready, had started, had stopped, and
had left an exit code of 0.

## Main statements

- `Deployment.deploy_gated`: nothing follows a release command that was not cleared, and the
  deployment fails.
-/

namespace Rollout

variable {σ α : Type} {env : Environment σ} {base past : List Step}

/-- A text that is not blank is not empty without the blanks at its ends. -/
theorem Text.trim_ne_empty {text : String} (h : isBlankText text = false) : trim text ≠ "" := by
  intro htrim
  have hlist : trimList text.toList = [] := by
    have hofList := congrArg String.toList htrim
    rwa [trim, String.toList_ofList] at hofList
  have hall : ∀ c ∈ text.toList.dropWhile isBlank, isBlank c = true := by
    rw [trimList, List.reverse_eq_nil_iff, List.dropWhile_eq_nil_iff] at hlist
    exact fun c hc => hlist c (List.mem_reverse.mpr hc)
  -- The first character that is left is not blank, so there is none.
  have hnil : text.toList.dropWhile isBlank = [] := by
    cases hdrop : text.toList.dropWhile isBlank with
    | nil => rfl
    | cons c rest =>
      have hne : text.toList.dropWhile isBlank ≠ [] := by
        rw [hdrop]
        exact List.cons_ne_nil c rest
      have hhead := List.head_dropWhile_not isBlank hne
      simp only [hdrop, List.head_cons] at hhead
      have hblank := hall c (by rw [hdrop]; exact List.mem_cons_self)
      rw [hhead] at hblank
      cases hblank
  rw [List.dropWhile_eq_nil_iff] at hnil
  rw [isBlankText, List.all_eq_true.mpr hnil] at h
  cases h

/-- Whether a step is the reply that a machine has a command line to run: it was launched with it,
or updated to it. -/
inductive Step.Readies (line : String) (m : Machine) : Step → Prop where
  | launched (input : LaunchInput) :
      Readies line m (.answered (.launch (ReleaseCommand.oneShot input line)) (.ok m))
  | updated (input : LaunchInput) (nonce : String) :
      Readies line m (.answered (.update (ReleaseCommand.oneShot input line) nonce) (.ok m))

namespace ReleaseCommand

variable {r : Resolver} {line : String} {found : Option String}

/-! ## The calls of a release command -/

/-- Whether an id is that of the machine that was found for a command, or of one that was readied
for it before a moment. -/
def Known (line : String) (found : Option String) (base before : List Step) (id : String) : Prop :=
  found = some id ∨ ∃ ready m, Step.Readies line m ready ∧ Seen base [ready] before ∧ m.id = id

/-- What is known at a moment is known later. -/
theorem Known.later {id : String} {before : List Step} (h : Known line found base before id)
    (hpast : before <:+ past) : Known line found base past id := by
  rcases h with h | ⟨ready, m, hready, hseen, hid⟩
  · exact .inl h
  · exact .inr ⟨ready, m, hready, hseen.later hpast, hid⟩

/-- The calls of a release command. Of them only the update of the machine that was found is made
under a lease. -/
inductive ByCommand (line : String) (found : Option String) (base before : List Step) :
    Call → Prop where
  | launch (input : LaunchInput) : ByCommand line found base before (.launch (oneShot input line))
  | update (input : LaunchInput) (nonce : String) (hid : input.id.isSome)
      (hfound : input.id = found) :
      ByCommand line found base before (.update (oneShot input line) nonce)
  | known {c : Call} {id : String} (hid : c.machineId? = some id) (hfree : c.leaseNonce? = none)
      (hknown : Known line found base before id) : ByCommand line found base before c

/-- All calls since a moment were those of a release command. -/
def Ours (line : String) (found : Option String) (base past : List Step) : Prop :=
  CallsSince base past (ByCommand line found base)

/-- Calls for a machine that is known, and not under a lease, are those of the command. -/
theorem Ours.adds {past' : List Step} {φ : Call → Prop} (h : Ours line found base past)
    (hadds : Adds φ past past')
    (hφ : ∀ c, φ c → ∃ id, c.machineId? = some id ∧ c.leaseNonce? = none ∧
      Known line found base past id) : Ours line found base past' := by
  refine CallsSince.trans h (hadds.callsSince.mono fun before c hbefore _ hc => ?_)
  obtain ⟨id, hid, hfree, hknown⟩ := hφ c hc
  exact .known hid hfree (hknown.later hbefore)

/-- All calls were those of the command, some steps were seen, and the command has one machine,
which is its own. -/
structure Follows (line : String) (found : Option String) (base : List Step) (m : Machine)
    (steps : List Step) (c : ReleaseCommand) (past : List Step) : Prop where
  ours : Ours line found base past
  machines : c.fleet.machines = [m]
  known : Known line found base past m.id
  seen : Seen base steps past

variable {m : Machine} {steps : List Step}

/-- The only machine is the one that is followed. -/
theorem Follows.machine_eq {c : ReleaseCommand} (hfollows : Follows line found base m steps c past)
    {h : Handle} (hh : c.fleet.members[0]? = some h) : m = h.machine := by
  have hmachine := Fleet.getElem?_machines hh
  rw [hfollows.machines] at hmachine
  exact Option.some.inj hmachine

/-- A wait for a state of the machine that succeeds was answered. -/
theorem wait_follows (state : Machine.State) (timeout : Nat) :
    Work.Triple env (fun c s => Follows line found base m steps c s.past)
      (onMachine (Handle.waitForState state timeout))
      ⟨fun c _ s => ∃ left,
          Follows line found base m (.answered (.wait m state left) (.ok ()) :: steps) c s.past,
        fun _ _ s => Ours line found base s.past, fun _ s => Ours line found base s.past⟩ := by
  refine onMachine_triple (fun c s hs _ => hs.ours) fun c h hh =>
    Run.Triple.of_past fun p hfollows => ?_
  -- The wait asks for the machine that is followed.
  obtain rfl : m = h.machine := hfollows.machine_eq hh
  have hours : ∀ p', Adds (fun call => ∃ left, call = .wait h.machine state left) p p' →
      Ours line found base p' := by
    refine fun p' hadds => hfollows.ours.adds hadds ?_
    rintro _ ⟨left, rfl⟩
    exact ⟨_, rfl, rfl, hfollows.known⟩
  -- What the wait calls, and what it has seen when it succeeds.
  refine (((Handle.waitForState_calls h timeout state fun left => ⟨left, rfl⟩).triple_at p).and
    (Handle.waitForState_triple h timeout p state)).mono (fun s hs => ⟨hs, hs⟩) ?_
    (fun _ s hs => hours s.past hs.1)
  rintro ⟨h', e | _⟩ s ⟨hadds, hs⟩
  · -- A wait that fails has made its calls all the same.
    exact hours s.past hadds
  · obtain ⟨rfl, left, hseen⟩ := hs
    refine ⟨left, hours s.past hadds, ?_, hfollows.known.later hadds.suffix,
      hfollows.seen.trans hseen⟩
    show (c.fleet.set 0 h').machines = _
    rw [Fleet.set_self hh]
    exact hfollows.machines

/-- The event that is found is the one that is looked for in the machine that was fetched last,
which is kept. -/
theorem event_follows (timeout : Nat) :
    Work.Triple env (fun c s => Follows line found base m steps c s.past)
      (onMachine (Handle.waitForEvent "exit" "start" timeout))
      ⟨fun c e s => Ours line found base s.past ∧
          ∃ g, Seen base (.answered (.get m.id) (.ok g) :: steps) s.past ∧
            c.fleet.machines = [g] ∧ g.latestEventAfter? "exit" "start" = some e,
        fun _ _ s => Ours line found base s.past, fun _ s => Ours line found base s.past⟩ := by
  refine onMachine_triple (fun c s hs _ => hs.ours) fun c h hh =>
    Run.Triple.of_past fun p hfollows => ?_
  obtain rfl : m = h.machine := hfollows.machine_eq hh
  have hours : ∀ p', Adds (· = .get h.id) p p' → Ours line found base p' := by
    refine fun p' hadds => hfollows.ours.adds hadds ?_
    rintro _ rfl
    exact ⟨_, rfl, rfl, hfollows.known⟩
  refine (((Handle.fetchUntil_calls (φ := (· = .get h.id)) h timeout _ _ _ rfl).triple_at p).and
    (Handle.fetchUntil_triple h timeout p _ _ _)).mono (fun s hs => ⟨hs, hs⟩) ?_
    (fun _ s hs => hours s.past hs.1)
  rintro ⟨h', e | event⟩ s ⟨hadds, hs⟩
  · exact hours s.past hadds
  · -- The machine that was fetched last takes the place of the one that was followed.
    obtain ⟨g, rfl, -, hevent, hseen⟩ := hs
    refine ⟨hours s.past hadds, g, hfollows.seen.trans hseen, ?_, hevent⟩
    show (c.fleet.set 0 _).machines = [g]
    rw [Fleet.machines_set, hfollows.machines]
    rfl

/-- Taking and giving up the lease of the machine are calls of the command. -/
theorem leases_follows {x : Work σ Fleet Unit}
    (hx : ∀ f p, Run.Triple env (·.past = p) (x f) (Work.Post.toRun
      ⟨fun f' _ s => f'.machines = f.machines ∧ Adds f.Leases p s.past,
        fun f' _ s => f'.machines = f.machines ∧ Adds f.Leases p s.past,
        fun _ s => Adds f.Leases p s.past⟩)) :
    Work.Triple env (fun c s => Follows line found base m steps c s.past) (onFleet x)
      ⟨fun c _ s => Follows line found base m steps c s.past,
        fun c _ s => Follows line found base m steps c s.past,
        fun _ s => Ours line found base s.past⟩ := by
  refine onFleet_triple fun c => Run.Triple.of_past fun p hfollows => ?_
  have hours : ∀ p', Adds c.fleet.Leases p p' → Ours line found base p' := by
    refine fun p' hadds => hfollows.ours.adds hadds ?_
    -- A lease is taken or given up for the only machine there is.
    rintro _ (⟨m', hm', nonce, rfl⟩ | ⟨m', hm', ttl, rfl⟩)
    all_goals
      rw [hfollows.machines, List.mem_singleton] at hm'
      subst hm'
      exact ⟨_, rfl, rfl, hfollows.known⟩
  have hfollows' : ∀ f' p', f'.machines = c.fleet.machines → Adds c.fleet.Leases p p' →
      Follows line found base m steps { c with fleet := f' } p' :=
    fun f' p' hmachines hadds => ⟨hours p' hadds, hmachines.trans hfollows.machines,
      hfollows.known.later hadds.suffix, hfollows.seen.later hadds.suffix⟩
  refine (hx c.fleet p).mono (fun _ hs => hs) ?_ (fun _ s hs => hours s.past hs)
  rintro ⟨f', _ | _⟩ s ⟨hmachines, hadds⟩ <;> exact hfollows' f' s.past hmachines hadds

/-- A record of the job leaves what is known as it is. -/
theorem record_follows (e : ReleaseJob.Event) :
    Work.Triple env (fun c s => Follows line found base m steps c s.past) (record e)
      ⟨fun c _ s => Follows line found base m steps c s.past,
        fun _ _ s => Ours line found base s.past, fun _ s => Ours line found base s.past⟩ := by
  refine (record_triple (P := fun c s => Follows line found base m steps c s.past) ?_ e).mono
    (fun _ _ hs => hs) (fun _ _ _ hs => hs) (fun _ _ _ hs => hs.ours) (fun _ _ h => h.elim)
  exact fun c job s hs => ⟨hs.ours, hs.machines, hs.known, hs.seen⟩

/-! ## Making the machine ready -/

/-- The machine of the command was readied, and all calls were those of the command. -/
def MadeReady (line : String) (found : Option String) (base : List Step) (c : ReleaseCommand)
    (past : List Step) : Prop :=
  ∃ m ready, Step.Readies line m ready ∧ Follows line found base m [ready] c past

/-- To record an event leaves the machine ready. -/
theorem record_madeReady (e : ReleaseJob.Event) :
    Work.Triple env (fun c s => MadeReady line found base c s.past) (record e)
      ⟨fun c _ s => MadeReady line found base c s.past, fun _ _ s => Ours line found base s.past,
        fun _ s => Ours line found base s.past⟩ := by
  refine Work.Triple.of_exists fun m => Work.Triple.of_exists fun ready => Work.Triple.of_and
    fun hready => ?_
  exact (record_follows e).mono (fun _ _ hs => hs) (fun _ _ _ hs => ⟨m, ready, hready, hs⟩)
    (fun _ _ _ hs => hs) (fun _ _ hs => hs)

/-- A machine that is created was launched with the command. -/
theorem create_madeReady :
    Work.Triple env (fun c s => c.fleet.members = [] ∧ Ours line found base s.past)
      (create r line)
      ⟨fun c _ s => MadeReady line found base c s.past, fun _ _ s => Ours line found base s.past,
        fun _ s => Ours line found base s.past⟩ := by
  refine Work.Triple.bind (R := ⟨fun c _ s => c.fleet.members = [] ∧ Ours line found base s.past,
    fun _ _ s => Ours line found base s.past, fun _ _ => False⟩)
    (Work.Triple.ofExcept (fun _ _ _ _ hs => hs) (fun _ _ _ _ hs => hs.2)) (fun input => ?_)
    (fun _ _ _ hs => hs) (fun _ _ h => h.elim)
  -- The call is one of the command, whatever is answered.
  have hasked : ∀ p time, Ours line found base p →
      Ours line found base (.asked (.launch (oneShot input line)) time :: p) :=
    fun p time hp => CallsSince.asked hp time (.launch input)
  refine Work.Triple.bind (Work.Triple.call
    (K := fun (c : ReleaseCommand) p => c.fleet.members = [] ∧ Ours line found base p)
    (R := fun (c : ReleaseCommand) m p => c.fleet.members = [] ∧ Ours line found base p ∧
      Seen base [.answered (.launch (oneShot input line)) (.ok m)] p)
    (E := fun _ _ p => Ours line found base p) (H := Ours line found base) ?_ ?_ ?_ ?_ ?_)
    (fun m => ?_) (fun _ _ _ hs => hs) (fun _ _ hs => hs)
  · -- The call is not made; then it is cut short, refused, replied to, or never answered.
    exact fun _ _ _ hp => hp.2
  · exact fun _ _ time p hp => hasked p time hp.2
  · exact fun _ _ time p hp _ => (hasked p time hp.2).skip rfl
  · intro m c time p hp _
    have hcall := hasked p time hp.2
    exact ⟨hp.1, hcall.skip rfl, (Seen.of_suffix hcall.suffix).take _⟩
  · exact fun _ time p hp => hasked p time hp.2
  -- The launched machine becomes the only one of the command.
  refine Work.Triple.bind (R := ⟨fun c _ s => MadeReady line found base c s.past,
    fun _ _ _ => False, fun _ _ => False⟩) (Work.Triple.change fun c s hs => ?_)
    (fun _ => record_madeReady _) (fun _ _ _ h => h.elim) (fun _ _ h => h.elim)
  obtain ⟨hnone, hours, hseen⟩ := hs
  have hready : Step.Readies line m (.answered (.launch (oneShot input line)) (.ok m)) :=
    .launched input
  refine ⟨m, _, hready, hours, ?_, .inr ⟨_, m, hready, hseen, rfl⟩, hseen⟩
  show (c.fleet.push { machine := m }).machines = [m]
  unfold Fleet.machines Fleet.push
  rw [hnone]
  rfl

/-- A change of the machine that succeeds made it ready; one that fails leaves it as it was. -/
def Changed (line : String) (found : Option String) (base : List Step) (c : ReleaseCommand)
    (result : Except DeployError Unit) (past : List Step) : Prop :=
  ∃ m steps, Follows line found base m steps c past ∧
    (result = .ok () → ∃ ready, Step.Readies line m ready ∧ steps = [ready])

/-- After a change all calls were those of the command. -/
theorem Changed.ours {c : ReleaseCommand} {result : Except DeployError Unit}
    (h : Changed line found base c result past) : Ours line found base past := by
  obtain ⟨m, steps, hfollows, -⟩ := h
  exact hfollows.ours

/-- The update of the machine that was found is a call of the command. -/
theorem change_changed {input : LaunchInput} (hid : input.id = some m.id)
    (hfound : found = some m.id) :
    Work.Triple env (fun c s => Follows line found base m steps c s.past)
      (onMachine (Handle.update (oneShot input line))).attempt
      ⟨fun c result s => Changed line found base c result s.past, fun _ _ _ => False,
        fun _ s => Ours line found base s.past⟩ := by
  refine Work.Triple.attempt (onMachine_triple
    (fun c s hs e => ⟨m, steps, hs, fun h => by cases h⟩) fun c h hh =>
    Run.Triple.of_past fun p hfollows => ?_)
  obtain rfl : m = h.machine := hfollows.machine_eq hh
  -- The update is one of the machine that was found.
  have hours : ∀ p', Adds (fun call => ∃ nonce, call = .update (oneShot input line) nonce) p p' →
      Ours line found base p' := by
    refine fun p' hadds => CallsSince.trans hfollows.ours (hadds.callsSince.mono ?_)
    rintro before _ - - ⟨nonce, rfl⟩
    exact .update input nonce (by rw [hid]; rfl) (hid.trans hfound.symm)
  refine (((Handle.update_calls h _).triple_at p).and (Handle.update_triple h p _)).mono
    (fun s hs => ⟨hs, hs⟩) ?_ (fun _ s hs => hours s.past hs.1)
  rintro ⟨h', e | _⟩ s ⟨hadds, hs⟩
  · -- A failed update leaves the handle alone.
    obtain rfl : h' = h := hs
    refine ⟨h'.machine, steps, ⟨hours s.past hadds, ?_, hfollows.known.later hadds.suffix,
      hfollows.seen.later hadds.suffix⟩, fun h => by cases h⟩
    show (c.fleet.set 0 h').machines = _
    rw [Fleet.set_self hh]
    exact hfollows.machines
  · -- The machine of the reply takes the place of the one that was found.
    obtain ⟨m', nonce, rfl, -, hseen⟩ := hs
    have hready : Step.Readies line m' _ := .updated input nonce
    have hseen' := hseen.since_earlier hfollows.ours.suffix
    refine ⟨m', _, ⟨hours s.past hadds, ?_, .inr ⟨_, m', hready, hseen', rfl⟩, hseen'⟩,
      fun _ => ⟨_, hready, rfl⟩⟩
    show (c.fleet.set 0 _).machines = _
    rw [Fleet.machines_set, hfollows.machines]
    rfl

/-- A machine that was found is readied by an update. -/
theorem update_madeReady (hfound : found = some m.id) :
    Work.Triple env (fun c s => Follows line found base m [] c s.past) (update r line)
      ⟨fun c _ s => MadeReady line found base c s.past, fun _ _ s => Ours line found base s.past,
        fun _ s => Ours line found base s.past⟩ := by
  refine Work.Triple.value_bind fun c₀ => ?_
  refine Work.Triple.bind ((wait_follows _ _).pre fun c s hs => hs.2) (fun _ => ?_)
    (fun _ _ _ hs => hs) (fun _ _ hs => hs)
  refine Work.Triple.bind (R := ⟨fun c a s => Follows line found base m [] c s.past ∧ a = m,
    fun _ _ s => Ours line found base s.past, fun _ _ => False⟩)
    ((read_triple (P := fun c s => Follows line found base m [] c s.past) (·.machine)).mono
      (fun c s hs => ?_) (fun c a s hs => ?_) (fun _ _ _ hs => hs.ours) (fun _ _ h => h))
    (fun a => ?_) (fun _ _ _ hs => hs) (fun _ _ h => h.elim)
  · -- What was waited for does not count: the machine is not readied yet.
    obtain ⟨left, hours, hmachines, hknown, -⟩ := hs
    exact ⟨hours, hmachines, hknown, Seen.of_suffix hours.suffix⟩
  · obtain ⟨hfollows, h, hh, rfl⟩ := hs
    exact ⟨hfollows, (hfollows.machine_eq hh).symm⟩
  refine Work.Triple.bind (R := ⟨fun c input s => Follows line found base m [] c s.past ∧
    input.id = some m.id, fun _ _ s => Ours line found base s.past, fun _ _ => False⟩)
    (Work.Triple.ofExcept (fun input c s hinput hs => ?_) (fun _ _ _ _ hs => hs.1.ours))
    (fun input => ?_) (fun _ _ _ hs => hs) (fun _ _ h => h.elim)
  · obtain ⟨hs, rfl⟩ := hs
    exact ⟨hs, Resolver.releaseCommand_id hinput⟩
  refine Work.Triple.extract (fun _ _ hs => And.symm hs) fun hid => ?_
  refine Work.Triple.bind (leases_follows fun f p => Fleet.acquire_calls _ p) (fun _ => ?_)
    (fun _ _ _ hs => hs.ours) (fun _ _ hs => hs)
  refine Work.Triple.bind (change_changed hid hfound) (fun updated => ?_) (fun _ _ _ h => h.elim)
    (fun _ _ hs => hs)
  -- The lease is given up before it is asked how the update went.
  refine Work.Triple.bind (R := ⟨fun c _ s => Changed line found base c updated s.past,
    fun _ _ _ => False, fun _ s => Ours line found base s.past⟩) ?_ (fun _ => ?_)
    (fun _ _ _ h => h.elim) (fun _ _ hs => hs)
  · refine Work.Triple.attempt (Work.Triple.of_exists fun m' => Work.Triple.of_exists fun steps' =>
      Work.Triple.extract (fun _ _ hs => And.symm hs) fun hready => ?_)
    refine (leases_follows fun f p => ?_).mono (fun _ _ hs => hs)
      (fun _ _ _ hs => ⟨m', steps', hs, hready⟩) (fun _ _ _ hs => ⟨m', steps', hs, hready⟩)
      (fun _ _ hs => hs)
    refine (Fleet.release_calls p).mono (fun _ hs => hs) ?_ (fun _ _ hs => hs.mono fun _ => .inl)
    rintro ⟨f', _ | _⟩ s hs <;> exact ⟨hs.1, hs.2.mono fun _ => .inl⟩
  · -- Then the update is asked for how it went.
    refine Work.Triple.bind (R := ⟨fun c _ s => MadeReady line found base c s.past,
      fun _ _ s => Ours line found base s.past, fun _ _ => False⟩)
      (Work.Triple.ofExcept (fun _ c s hok hs => ?_) fun e c s _ hs => hs.ours)
      (fun _ => record_madeReady _) (fun _ _ _ hs => hs) (fun _ _ h => h.elim)
    obtain ⟨m', steps', hfollows, hchange⟩ := hs
    obtain ⟨ready, hready, rfl⟩ := hchange hok
    exact ⟨m', ready, hready, hfollows⟩

/-- What a release command starts with: no machine, or the one that was found. -/
def Starts (found : Option String) (c : ReleaseCommand) : Prop :=
  (c.fleet.members = [] ∧ found = none) ∨ ∃ m, c.fleet.machines = [m] ∧ found = some m.id

/-- A machine is readied by a launch or by an update. -/
theorem makeReady_madeReady :
    Work.Triple env (fun c s => Starts found c ∧ s.past = base) (makeReady r line)
      ⟨fun c _ s => MadeReady line found base c s.past, fun _ _ s => Ours line found base s.past,
        fun _ s => Ours line found base s.past⟩ := by
  refine Work.Triple.value_bind fun c₀ => ?_
  split
  · -- No machine was found.
    rename_i hempty
    refine Work.Triple.mapError (create_madeReady.pre ?_)
    rintro c s ⟨rfl, -, rfl⟩
    exact ⟨List.isEmpty_iff.mp hempty, CallsSince.refl⟩
  · -- The machine that was found is updated.
    rename_i hsome
    refine Work.Triple.mapError (Work.Triple.pre (P := fun c s => ∃ m, found = some m.id ∧
      Follows line found base m [] c s.past) (Work.Triple.of_exists fun m =>
        Work.Triple.of_and fun hfound => update_madeReady hfound) ?_)
    rintro c s ⟨rfl, (⟨hnone, -⟩ | ⟨m, hmachines, hfound⟩), rfl⟩
    · rw [Fleet.isEmpty, hnone] at hsome
      exact absurd rfl hsome
    · exact ⟨m, hfound, CallsSince.refl, hmachines, .inl hfound, Seen.nil⟩

/-! ## The verdict -/

/-- Whether a command was cleared between two moments: its machine was readied, was answered to
have started and then to have stopped, and was then fetched with an exit of code 0 as its latest
exit, after its latest start. -/
def Cleared (line : String) (base past : List Step) : Prop :=
  ∃ ready m left left' g exit, Step.Readies line m ready ∧
    Seen base [.answered (.get m.id) (.ok g), .answered (.wait m .stopped left') (.ok ()),
      .answered (.wait m .started left) (.ok ()), ready] past ∧
    Machine.Event.LatestAfter "exit" "start" g.events exit ∧ exit.exitCode = some 0

/-- A command that was cleared stays cleared. -/
theorem Cleared.later {past' : List Step} (h : Cleared line base past) (hpast : past <:+ past') :
    Cleared line base past' := by
  obtain ⟨ready, m, left, left', g, exit, hready, hseen, hexit⟩ := h
  exact ⟨ready, m, left, left', g, exit, hready, hseen.later hpast, hexit⟩

/-- What the verdict on a command rests on that succeeded: after its machine was readied, had
started and had stopped, the machine was fetched with an exit of code 0 to be found. It is kept as
it was fetched. -/
structure Accepts (line : String) (base : List Step) (g : Machine) (exit : Machine.Event)
    (c : ReleaseCommand) (past : List Step) : Prop where
  machines : c.fleet.machines = [g]
  seen : ∃ ready m left left', Step.Readies line m ready ∧
    Seen base [.answered (.get m.id) (.ok g), .answered (.wait m .stopped left') (.ok ()),
      .answered (.wait m .started left) (.ok ()), ready] past
  found : g.latestEventAfter? "exit" "start" = some exit
  code : exit.exitCode = some 0

/-- A command that has accepted an exit was cleared. -/
theorem Accepts.cleared {g : Machine} {exit : Machine.Event} {c : ReleaseCommand}
    (h : Accepts line base g exit c past) : Cleared line base past := by
  obtain ⟨ready, m, left, left', hready, hseen⟩ := h.seen
  exact ⟨ready, m, left, left', g, exit, hready, hseen,
    Machine.Event.latestAfter_of_latestAfter? h.found, h.code⟩

/-- No exit code but 0 passes. -/
theorem judge_triple {P : ReleaseCommand → Session σ → Prop}
    (hjob : ∀ c job s, P c s → P { c with job := job } s)
    (hreport : ∀ c s r message, P c s → P c (s.log (.reported r message))) (id machine : String)
    (event : Machine.Event) :
    Work.Triple env P (judge id machine event)
      ⟨fun c _ s => P c s ∧ event.exitCode = some 0, fun c _ s => P c s, fun _ _ => False⟩ := by
  unfold judge
  split
  · -- An exit without a code fails.
    exact Work.Triple.fail fun _ _ hs => hs
  · rename_i code hcode
    refine Work.Triple.bind (record_triple hjob _) (fun _ => ?_) (fun _ _ _ hs => hs)
      (fun _ _ h => h)
    -- A code is recorded first, and then it has to be 0.
    by_cases hzero : code = 0
    · subst hzero
      exact Work.Triple.pure fun _ _ hs => ⟨hs, hcode⟩
    · rw [if_pos (by simpa using hzero)]
      refine Work.Triple.bind (R := ⟨fun c _ s => P c s, fun _ _ _ => False, fun _ _ => False⟩)
        (Work.Triple.lift fun c => Run.Triple.change fun s hs => hreport c s _ _ hs)
        (fun _ => Work.Triple.fail fun _ _ hs => hs) (fun _ _ _ h => h.elim) (fun _ _ h => h)

/-- A command that is made ready and waited for accepts an exit, or fails. -/
theorem awaitVerdict_accepts :
    Work.Triple env (fun c s => MadeReady line found base c s.past) awaitVerdict
      ⟨fun c _ s => Ours line found base s.past ∧ ∃ g exit, Accepts line base g exit c s.past,
        fun _ _ s => Ours line found base s.past, fun _ s => Ours line found base s.past⟩ := by
  refine Work.Triple.of_exists fun m => Work.Triple.of_exists fun ready => Work.Triple.of_and
    fun hready => ?_
  -- The id is read off the machine, for the words of a failure.
  refine Work.Triple.value_bind fun c₀ => ?_
  refine Work.Triple.bind (R := ⟨fun c _ s => Follows line found base m [ready] c s.past,
    fun _ _ s => Ours line found base s.past, fun _ _ => False⟩)
    ((read_triple (P := fun c s => Follows line found base m [ready] c s.past) (·.id)).mono
      (fun _ _ hs => hs.2) (fun _ _ _ hs => hs.1) (fun _ _ _ hs => hs.ours) (fun _ _ h => h))
    (fun id => ?_) (fun _ _ _ hs => hs) (fun _ _ h => h.elim)
  -- The machine has started, then it has stopped, then its exit is fetched.
  refine Work.Triple.bind (Work.Triple.mapError (Q := ⟨_, fun _ _ s => Ours line found base s.past,
    fun _ s => Ours line found base s.past⟩) (wait_follows _ _)) (fun _ => ?_)
    (fun _ _ _ hs => hs) (fun _ _ hs => hs)
  refine Work.Triple.of_exists fun left => ?_
  refine Work.Triple.bind (record_follows _) (fun _ => ?_) (fun _ _ _ hs => hs) (fun _ _ hs => hs)
  refine Work.Triple.bind (Work.Triple.mapError (Q := ⟨_, fun _ _ s => Ours line found base s.past,
    fun _ s => Ours line found base s.past⟩) (wait_follows _ _)) (fun _ => ?_)
    (fun _ _ _ hs => hs) (fun _ _ hs => hs)
  refine Work.Triple.of_exists fun left' => ?_
  refine Work.Triple.bind (record_follows _) (fun _ => ?_) (fun _ _ _ hs => hs) (fun _ _ hs => hs)
  refine Work.Triple.bind (Work.Triple.mapError (Q := ⟨_, fun _ _ s => Ours line found base s.past,
    fun _ s => Ours line found base s.past⟩) (event_follows _)) (fun exit => ?_)
    (fun _ _ _ hs => hs) (fun _ _ hs => hs)
  -- What was seen and what is kept stay while the exit code is judged.
  refine (judge_triple (P := fun c s => Ours line found base s.past ∧
    ∃ g, Seen base [.answered (.get m.id) (.ok g), .answered (.wait m .stopped left') (.ok ()),
      .answered (.wait m .started left) (.ok ()), ready] s.past ∧
      c.fleet.machines = [g] ∧ g.latestEventAfter? "exit" "start" = some exit)
    (fun _ _ _ hs => hs) ?_ _ _ exit).mono (fun _ _ hs => hs) ?_ (fun _ _ _ hs => hs.1)
    (fun _ _ h => h.elim)
  · rintro c s r message ⟨hours, g, hseen, hkept⟩
    exact ⟨hours.skip rfl, g, hseen.cons _, hkept⟩
  · rintro c _ s ⟨⟨hours, g, hseen, hmachines, hfound⟩, hcode⟩
    exact ⟨hours, g, exit, hmachines, ⟨ready, m, left, left', hready, hseen⟩, hfound, hcode⟩

/-- A release command that is run makes its own calls only, and accepts an exit or fails. -/
theorem run_accepts {c₀ : ReleaseCommand} (hline : c₀.effective? = some line)
    (hruns : c₀.restartOnly = false) (hstarts : Starts found c₀) :
    Work.Triple env (fun c s => c = c₀ ∧ s.past = base) (run r)
      ⟨fun c _ s => Ours line found base s.past ∧ ∃ g exit, Accepts line base g exit c s.past,
        fun _ _ s => Ours line found base s.past, fun _ s => Ours line found base s.past⟩ := by
  refine Work.Triple.value_bind_of_eq ?_
  simp only [hline, hruns, Bool.false_eq_true, if_false]
  -- The command starts with the machine that was found, or with none.
  have hready : Work.Triple env (fun c s => c = c₀ ∧ s.past = base) (makeReady r line)
      ⟨fun c _ s => MadeReady line found base c s.past, fun _ _ s => Ours line found base s.past,
        fun _ s => Ours line found base s.past⟩ := by
    refine makeReady_madeReady.pre ?_
    rintro c s ⟨rfl, hpast⟩
    exact ⟨hstarts, hpast⟩
  refine Work.Triple.attempt_bind (hready.bind (fun _ => awaitVerdict_accepts)
    (fun _ _ _ hs => hs) (fun _ _ hs => hs)) (fun _ => ?_) (fun e => ?_) (fun _ _ hs => hs)
  · exact Work.Triple.pure fun _ _ hs => hs
  · exact Work.Triple.bind (R := ⟨fun _ _ s => Ours line found base s.past,
      fun _ _ _ => False, fun _ _ => False⟩) (Work.Triple.change fun _ _ hs => hs)
      (fun _ => Work.Triple.fail fun _ _ hs => hs) (fun _ _ _ h => h.elim) (fun _ _ h => h.elim)

/-- A release command that is run makes its own calls only, and is cleared or fails. -/
theorem run_cleared {c₀ : ReleaseCommand} (hline : c₀.effective? = some line)
    (hruns : c₀.restartOnly = false) (hstarts : Starts found c₀) :
    Work.Triple env (fun c s => c = c₀ ∧ s.past = base) (run r)
      ⟨fun _ _ s => Ours line found base s.past ∧ Cleared line base s.past,
        fun _ _ s => Ours line found base s.past, fun _ s => Ours line found base s.past⟩ := by
  refine (run_accepts hline hruns hstarts).mono (fun _ _ hs => hs) (fun c a s hs => ?_)
    (fun _ _ _ hs => hs) (fun _ _ hs => hs)
  obtain ⟨hours, g, exit, haccepts⟩ := hs
  exact ⟨hours, haccepts.cleared⟩

/-- A release command that is not run makes no call. -/
theorem run_idle {c₀ : ReleaseCommand} (hidle : c₀.effective? = none ∨ c₀.restartOnly = true) :
    run (σ := σ) r c₀ = pure (c₀, .ok ()) := by
  funext env s
  refine (Work.bind_run (a := c₀) rfl).trans ?_
  rcases hidle with hnone | hrestart
  · rw [hnone]
    rfl
  · rw [hrestart]
    cases c₀.effective? <;> rfl

end ReleaseCommand

namespace Deployment

open ReleaseCommand

variable {line : String} {found : Option String}

/-- The release command of a deployment is cleared, or the deployment fails. -/
theorem runCommand_cleared {d₀ : Deployment} (hline : d₀.command.effective? = some line)
    (hruns : d₀.command.restartOnly = false) (hstarts : Starts found d₀.command) :
    Work.Triple env (fun d s => d = d₀ ∧ s.past = base) runCommand
      ⟨fun _ _ s => Ours line found base s.past ∧ Cleared line base s.past,
        fun _ _ s => Ours line found base s.past, fun _ s => Ours line found base s.past⟩ := by
  refine Work.Triple.value_bind fun d => ?_
  refine Work.Triple.attempt_bind (R := ⟨fun _ _ s => Ours line found base s.past ∧
    Cleared line base s.past, fun _ _ s => Ours line found base s.past,
    fun _ s => Ours line found base s.past⟩) (Work.Triple.within fun d' => ?_) (fun _ => ?_)
    (fun e => ?_) (fun _ _ hs => hs)
  · refine Run.Triple.extract (fun s hs => And.right hs) fun hd => ?_
    subst hd
    refine ((run_cleared hline hruns hstarts) d'.command).mono (fun s hs => ⟨rfl, hs⟩) ?_
      (fun _ _ hs => hs)
    rintro ⟨c, e | _⟩ s hs
    · exact hs
    · exact hs
  · exact Work.Triple.pure fun _ _ hs => hs
  · exact Work.Triple.bind (R := ⟨fun _ _ s => Ours line found base s.past, fun _ _ _ => False,
      fun _ _ => False⟩) (Work.Triple.lift fun _ => Run.Triple.change fun s hs => hs.skip rfl)
      (fun _ => Work.Triple.fail fun _ _ hs => hs) (fun _ _ _ h => h.elim) (fun _ _ h => h.elim)

/-- A deployment without a release command to run goes on at once. -/
theorem runCommand_idle {d₀ : Deployment}
    (hidle : d₀.command.effective? = none ∨ d₀.command.restartOnly = true) :
    Work.Triple env (fun d s => d = d₀ ∧ s.past = base) runCommand
      ⟨fun _ _ s => s.past = base, fun _ _ _ => False, fun _ _ => False⟩ := by
  refine Work.Triple.value_bind fun d => ?_
  refine Work.Triple.attempt_bind (R := ⟨fun _ _ s => s.past = base, fun _ _ _ => False,
    fun _ _ => False⟩) (Work.Triple.within fun d' => ?_)
    (fun _ => Work.Triple.pure fun _ _ hs => hs) (fun _ _ _ h => h.elim) (fun _ _ h => h)
  refine Run.Triple.extract (fun s hs => And.right hs) fun hd => ?_
  subst hd
  rw [run_idle hidle]
  exact Run.Triple.pure fun s hs => hs

/-- Until an app is rolled out, all calls are those of its release command. -/
theorem runCommand_ours {d : Deployment} (hstarts : Starts found d.command) (s : Session σ) :
    CallsSince s.past (runCommand d env s).2.past
      fun before c => ∃ line, ByCommand line found s.past before c := by
  by_cases hidle : d.command.effective? = none ∨ d.command.restartOnly = true
  · -- No command is run, and nothing is called.
    refine Work.Triple.always (P := fun d' s' => d' = d ∧ s'.past = s.past)
      (R := fun s' => CallsSince s.past s'.past _) ?_ ⟨rfl, rfl⟩
    refine (runCommand_idle hidle).mono (fun _ _ hs => hs) (fun _ _ s' hs => ?_)
      (fun _ _ _ h => h.elim) (fun _ _ h => h.elim)
    show CallsSince s.past s'.past _
    rw [show s'.past = s.past from hs]
    exact CallsSince.refl
  · rw [not_or, Bool.not_eq_true] at hidle
    obtain ⟨line, hline⟩ := Option.ne_none_iff_exists'.mp hidle.1
    have hours : Ours line found s.past (runCommand d env s).2.past :=
      Work.Triple.always (P := fun d' s' => d' = d ∧ s'.past = s.past)
        ((runCommand_cleared hline hidle.2 hstarts).mono (fun _ _ hs => hs)
          (fun _ _ _ hs => hs.1) (fun _ _ _ hs => hs) (fun _ _ hs => hs)) ⟨rfl, rfl⟩
    exact CallsSince.mono hours fun _ _ _ _ hc => ⟨line, hc⟩

/-- Until an app is rolled out, only the machine that was found for its release command is changed
under a lease. -/
theorem runCommand_leases {d : Deployment} (hstarts : Starts found d.command) (s : Session σ) :
    CallsSince s.past (runCommand d env s).2.past
      fun _ c => c.leaseNonce?.isSome → c.machineId? = found := by
  refine (runCommand_ours hstarts s).mono fun before c _ _ hc hnonce => ?_
  obtain ⟨line, hc⟩ := hc
  -- Of the calls of the command only the update is under a lease.
  cases hc with
  | launch input => cases hnonce
  | update input nonce hid hfound => exact hfound
  | known hid hfree _ =>
    rw [hfree] at hnonce
    cases hnonce

/-- A release command starts without a machine or with the one that was found. -/
theorem assemble_starts (o : Options) (app : App.Config) (strategy : Strategy)
    (roster : Machine.Roster) (volumes : Volume.Pool) (release : Release) :
    Starts (roster.releaseCommand.map (·.id))
      (assemble o app strategy roster volumes release).command := by
  have hfleet : (assemble o app strategy roster volumes release).command.fleet =
    .ofMachines roster.releaseCommand.toList := rfl
  unfold Starts
  rw [hfleet]
  cases roster.releaseCommand with
  | none => exact .inl ⟨rfl, rfl⟩
  | some m => exact .inr ⟨m, rfl, rfl⟩

/-- Every call of a deployment with a release command is one of the command itself, or comes after
the command was cleared. If the command is not cleared, the deployment fails. -/
theorem deploy_gated (o : Options) (app : App.Config) (strategy : Strategy)
    (roster : Machine.Roster) (volumes : Volume.Pool) (release : Release) (s : Session σ)
    {commandLine : String} (hcommand : app.deploy.bind (·.releaseCommand) = some commandLine)
    (hblank : Text.isBlankText commandLine = false) (hruns : o.restartOnly = false) :
    let run := deploy (assemble o app strategy roster volumes release) env s
    let line := Text.trim commandLine
    CallsSince s.past run.2.past (fun before c =>
      ByCommand line (roster.releaseCommand.map (·.id)) s.past before c ∨
        Cleared line s.past before) ∧
    (Cleared line s.past run.2.past ∨
      EndsIn env o.effectiveWaitTimeout s (fun result => ∃ e, result = .error e) run) := by
  intro run line
  have heffective : (assemble o app strategy roster volumes release).command.effective? =
      some line := by
    show ((app.releaseCommand.map Text.trim).filter (· != "")) = some line
    rw [App.Config.releaseCommand, hcommand]
    simp [hblank, Text.trim_ne_empty hblank, line]
  have hcleared : Run.Post.Holds _
      (runCommand (assemble o app strategy roster volumes release) env s) :=
    runCommand_cleared heffective hruns
      (assemble_starts o app strategy roster volumes release) _ s ⟨rfl, rfl⟩
  have hends : EndsIn env o.effectiveWaitTimeout s (fun _ => True) run :=
    deploy_endsIn ⟨rfl, rfl⟩ s fun _ _ _ _ => trivial
  show CallsSince s.past run.2.past _ ∧ _
  revert hcleared hends
  simp only [run, deploy_run]
  rcases runCommand (assemble o app strategy roster volumes release) env s with
    ⟨⟨d, e | _⟩ | _ | _, s'⟩
  · -- The command failed, and so does the deployment.
    exact fun hours _ => ⟨CallsSince.mono hours fun _ _ _ _ => .inl, .inr ⟨e, rfl⟩⟩
  · -- The rollout begins: whatever is called from here on, the command was cleared before.
    rintro ⟨hours, hcleared⟩ -
    have hgrows : s'.past <:+ (rollOut d env s').2.past := (rollOut_grows d env s').suffix
    refine ⟨CallsSince.extend (CallsSince.mono hours fun _ _ _ _ => .inl) hgrows ?_,
      .inl (hcleared.later hgrows)⟩
    exact fun before c hbefore => .inr (hcleared.later hbefore)
  · -- It has no end, or none that is told.
    exact fun hours hends => ⟨CallsSince.mono hours fun _ _ _ _ => .inl, .inr hends⟩
  · exact fun hours hends => ⟨CallsSince.mono hours fun _ _ _ _ => .inl, .inr hends⟩

/-- An app with a release command. -/
def migrating : App.Config := { deploy := some { releaseCommand := some "migrate" } }

/-- Two machines of an app, and one of its release command. -/
def twoMachines : Machine.Roster :=
  { app := [{ id := "web" }, { id := "worker" }], releaseCommand := some { id := "job" } }

/-- Where every call is answered, a deployment with a release command is gated so. -/
theorem deploy_gated_obliging :
    migrating.deploy.bind (·.releaseCommand) = some "migrate" ∧
    Text.isBlankText "migrate" = false ∧ Options.restartOnly {} = false ∧
    CallsSince [] (deploy (assemble {} migrating .rolling twoMachines {} {}) .obliging
        { remote := () }).2.past (fun before c =>
      ByCommand (Text.trim "migrate") (some "job") [] before c ∨
        Cleared (Text.trim "migrate") [] before) ∧
    (Cleared (Text.trim "migrate") [] (deploy (assemble {} migrating .rolling twoMachines {} {})
        .obliging { remote := () }).2.past ∨
      EndsIn .obliging 120000 { remote := () } (fun result => ∃ e, result = .error e)
        (deploy (assemble {} migrating .rolling twoMachines {} {}) .obliging
          { remote := () })) := by
  have hblank : Text.isBlankText "migrate" = false := by decide
  exact ⟨rfl, hblank, rfl,
    deploy_gated {} migrating .rolling twoMachines {} {} { remote := () } rfl hblank rfl⟩

end Deployment

end Rollout
