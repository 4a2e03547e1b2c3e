import Rollout.Proofs.Swaps

/-!
# No machine is lost or doubled

The rollout over a fleet keeps its places. Whatever the strategy, the answers and the moment of a
cancellation, every place ends with the machine it had or with the one that was launched for it;
or, if the launch failed after the destruction, with the record of the machine that is gone.

The invariant of the updates is that the resolver has resolved the requests of the places before,
and that the places to come have the members they had. What becomes of a place in its turn is not
touched by the turns of other places.

## Main statements

- `Deployment.updateMember_swaps`: what becomes of a place in its turn.
- `Deployment.updateMembers_swaps`: what becomes of all places, one after the other.
- `Deployment.deploy_conserves`: a deployment conserves the places of its fleet.
-/

namespace Rollout

variable {σ τ α : Type} {env : Environment σ} {p swaps : List Step}

/-- A call that launches or destroys a machine is met, or it is not. Either way it leaves what is
known of the value. -/
theorem Work.Triple.call_swaps {c : Call} {what machine : String} (hc : c.isSwap = true)
    {K : τ → Prop} :
    Work.Triple env (fun t s => K t ∧ Swaps swaps p s.past) (Work.call c what machine)
      ⟨fun t a s => K t ∧ ∃ time, Swaps (metBy c a time ++ swaps) p s.past,
        fun t _ s => K t ∧ ∃ turn, Unmet c turn ∧ Swaps (turn ++ swaps) p s.past,
        fun _ _ => True⟩ := by
  have hasked : ∀ time past, Swaps swaps p past → Swaps (.asked c time :: swaps) p
      (.asked c time :: past) := fun time past h => h.take hc
  refine Work.Triple.call (K := fun t past => K t ∧ Swaps swaps p past)
    (R := fun t a past => K t ∧ ∃ time, Swaps (metBy c a time ++ swaps) p past)
    (E := fun t _ past => K t ∧ ∃ turn, Unmet c turn ∧ Swaps (turn ++ swaps) p past)
    (H := fun _ => True) ?_ ?_ ?_ ?_ (fun _ _ _ _ => trivial)
  · rintro e t past ⟨ht, hpast⟩
    exact ⟨ht, [], .unasked, hpast⟩
  · rintro e t time past ⟨ht, hpast⟩
    exact ⟨ht, _, .unanswered time, hasked time past hpast⟩
  · rintro e t time past ⟨ht, hpast⟩ -
    exact ⟨ht, _, .refused e time, (hasked time past hpast).take hc⟩
  · rintro a t time past ⟨ht, hpast⟩ -
    exact ⟨ht, time, (hasked time past hpast).take hc⟩

namespace Handle

variable {h : Handle} {id : String}

/-- A machine is destroyed, or it is not and stays with its lease. -/
theorem destroy_swaps :
    Run.Triple env (·.past = p) (destroy h) (Work.Post.toRun
      ⟨fun h' _ s => h' = h.destroyed ∧
          ∃ time, Swaps (metBy (.destroy h.id h.lease.nonce) () time) p s.past,
        fun h' _ s => h' = h ∧
          ∃ turn, Unmet (.destroy h.id h.lease.nonce) turn ∧ Swaps turn p s.past,
        fun _ _ => True⟩) := by
  refine heldNonce_bind_triple h (K := (· = p)) (fun now _ => ?_) ?_
  · show Run.Triple env _ ((Work.call (.destroy h.id h.lease.nonce) "destroy" h.id >>= fun _ =>
      Work.change destroyed : Work σ Handle Unit) h) _
    have hcall : Work.Triple env (fun t s => t = h ∧ Swaps [] p s.past)
        (Work.call (.destroy h.id h.lease.nonce) "destroy" h.id) _ := Work.Triple.call_swaps rfl
    refine Run.Triple.pre (Work.Triple.bind hcall (fun _ => Work.Triple.change ?_) ?_
      (fun _ _ _ => trivial) h) ?_
    · rintro _ s ⟨rfl, time, hswaps⟩
      exact ⟨rfl, time, hswaps⟩
    · rintro h' e s ⟨rfl, turn, hturn, hswaps⟩
      rw [List.append_nil] at hswaps
      exact ⟨rfl, turn, hturn, hswaps⟩
    · rintro s ⟨_, rfl, hpast⟩
      exact ⟨rfl, hpast ▸ Swaps.refl.skip rfl⟩
  · rintro e now _ s rfl hpast
    exact ⟨rfl, [], .unasked, hpast ▸ Swaps.refl.skip rfl⟩

/-- An update keeps the machine that it is for, and nothing is launched or destroyed. -/
theorem update_swaps (hechoes : env.Echoes) {input : LaunchInput} (hid : input.id = some h.id) :
    Run.Triple env (·.past = p) (update input h) (Work.Post.toRun
      ⟨fun h' _ s => h'.id = h.id ∧ Swaps [] p s.past,
        fun h' _ s => h'.id = h.id ∧ Swaps [] p s.past, fun _ _ => True⟩) := by
  have hswaps : ∀ past, Adds (fun c => ∃ nonce, c = .update input nonce) p past →
      Swaps [] p past := by
    intro past hadds
    refine Swaps.of_adds hadds ?_
    rintro c ⟨nonce, rfl⟩
    rfl
  refine ((update_triple h p input).and ((update_calls h input).triple_at p)).mono
    (fun s hs => ⟨hs, hs⟩) ?_ (fun _ _ _ => trivial)
  rintro ⟨h', e | _⟩ s ⟨hs, hadds⟩
  · -- A failed update leaves the handle alone.
    obtain rfl : h' = h := hs
    exact ⟨rfl, hswaps s.past hadds⟩
  · -- The reply names the machine that the request is for.
    obtain ⟨m, nonce, rfl, hgives, -⟩ := hs
    exact ⟨hechoes.update input nonce m h.id hgives hid, hswaps s.past hadds⟩

/-- Work that only looks at a machine keeps it, and nothing is launched or destroyed. -/
def Looks (env : Environment σ) (x : Work σ Handle α) : Prop :=
  ∀ id p, Work.Triple env (fun h s => h.id = id ∧ Swaps [] p s.past) x
    ⟨fun h _ s => h.id = id ∧ Swaps [] p s.past, fun h _ s => h.id = id ∧ Swaps [] p s.past,
      fun _ _ => True⟩

/-- A wait for a state only looks. -/
theorem waitForState_looks (state : Machine.State) (timeout : Nat) :
    Looks env (waitForState (σ := σ) state timeout) := by
  intro id p h
  refine Run.Triple.of_and fun hid => Run.Triple.of_past fun p' hp => ?_
  have hcalls := waitForState_calls (σ := σ) (φ := fun c => c.isSwap = false) h timeout state
    fun _ => rfl
  refine ((waitForState_triple h timeout p' state).and (hcalls.triple_at p')).mono
    (fun s hs => ⟨hs, hs⟩) ?_ (fun _ _ _ => trivial)
  rintro ⟨h', e | _⟩ s ⟨hs, hadds⟩
  · obtain rfl : h' = h := hs
    exact ⟨hid, hp.before (Swaps.of_adds hadds fun _ hc => hc)⟩
  · obtain rfl : h' = h := hs.1
    exact ⟨hid, hp.before (Swaps.of_adds hadds fun _ hc => hc)⟩

/-- A wait for health only looks: it fetches the same machine. -/
theorem waitForHealth_looks (hechoes : env.Echoes) (timeout : Nat) :
    Looks env (waitForHealth (σ := σ) timeout) := by
  intro id p h
  refine Run.Triple.of_and fun hid => Run.Triple.of_past fun p' hp => ?_
  have hcalls := waitForHealth_calls (σ := σ) (φ := fun c => c.isSwap = false) h timeout rfl
  -- What is fetched is a machine of the same id.
  have hfetched : ∀ m, env.Gives (.get h.id) (.ok m) → Handle.id { h with machine := m } = id :=
    fun m hgives => (hechoes.get h.id m hgives).trans hid
  refine ((waitForHealth_triple h timeout p').and (hcalls.triple_at p')).mono
    (fun s hs => ⟨hs, hs⟩) ?_ (fun _ _ _ => trivial)
  rintro ⟨h', e | _⟩ s ⟨hs, hadds⟩
  · refine ⟨?_, hp.before (Swaps.of_adds hadds fun _ hc => hc)⟩
    rcases hs with rfl | ⟨m, rfl, hgives⟩
    · exact hid
    · exact hfetched m hgives
  · refine ⟨?_, hp.before (Swaps.of_adds hadds fun _ hc => hc)⟩
    rcases hs with ⟨rfl, -⟩ | ⟨m, rfl, hgives, -⟩
    · exact hid
    · exact hfetched m hgives

end Handle

namespace ReleaseCommand

variable {r : Resolver} {line : String}

/-- An update of the command's machine destroys nothing. -/
theorem update_spares (r : Resolver) (line : String) :
    (update (σ := σ) r line).Calls fun c => ∀ id nonce, c ≠ .destroy id nonce := by
  refine Work.Calls.value.bind fun c => ?_
  refine (onMachine_calls fun h => Handle.waitForState_calls h _ _ fun _ => nofun).bind fun _ => ?_
  refine (onMachine_calls fun _ => Run.Calls.pure _).bind fun machine => ?_
  refine (Work.Calls.ofExcept _).bind fun input => ?_
  -- Leases are taken and given up, and the update is one call.
  refine (Work.Calls.within fun f => (Fleet.acquire_run_calls f _).mono ?_).bind fun _ => ?_
  · rintro c (⟨m, -, nonce, rfl⟩ | ⟨m, -, ttl, rfl⟩)
    · exact nofun
    · exact nofun
  refine (onMachine_calls fun h => (Handle.update_calls h _).mono ?_).attempt.bind fun updated => ?_
  · rintro c ⟨nonce, rfl⟩
    exact nofun
  refine (Work.Calls.within fun f => (Fleet.release_run_calls f).mono ?_).attempt.bind fun _ => ?_
  · rintro c ⟨m, -, nonce, rfl⟩
    exact nofun
  exact (Work.Calls.ofExcept _).bind fun _ => record_calls _

/-- A release command destroys no machine. -/
theorem run_spares (r : Resolver) :
    (run (σ := σ) r).Calls fun c => ∀ id nonce, c ≠ .destroy id nonce := by
  have hfree : ∀ c : Call, c.IsFree → ∀ id nonce, c ≠ .destroy id nonce := by
    rintro c hc id nonce rfl
    exact hc
  have hready : ∀ line, (makeReady (σ := σ) r line).Calls
      fun c => ∀ id nonce, c ≠ .destroy id nonce := by
    intro line
    refine Work.Calls.value.bind fun c => ?_
    split
    · exact inContext_calls (create_calls fun _ => nofun)
    · exact inContext_calls (update_spares r line)
  refine Work.Calls.value.bind fun c => ?_
  split
  · exact Work.Calls.pure _
  · split
    · exact Work.Calls.pure _
    · refine ((hready _).bind fun _ => awaitVerdict_isFree.mono hfree).attempt.bind fun result => ?_
      cases result with
      | ok _ => exact Work.Calls.pure _
      | error e => exact (Work.Calls.change _).bind fun _ => Work.Calls.fail e

end ReleaseCommand

namespace Deployment

variable {r : Resolver} {m : Machine} {h h' : Handle} {done rest : List Handle} {d : Deployment}
variable {input : LaunchInput} {turn : List Step}

/-- What a member is waited for only looks. -/
theorem waitFor_looks (hechoes : env.Echoes) (d : Deployment) :
    Handle.Looks env (waitFor (σ := σ) d) := by
  intro id p
  unfold waitFor
  split
  · refine Work.Triple.bind (Handle.waitForState_looks _ _ id p) (fun _ => ?_)
      (fun _ _ _ hs => hs) (fun _ _ hs => hs)
    split
    · exact Handle.waitForHealth_looks hechoes _ id p
    · exact Work.Triple.pure fun _ _ hs => hs
  · exact Work.Triple.pure fun _ _ hs => hs

/-! ## One place -/

/-- Whether a deployment has a resolver, and its fleet some members before a place and others from
there on. -/
structure Stands (r : Resolver) (done rest : List Handle) (d : Deployment) : Prop where
  resolver : d.resolver = r
  members : d.fleet.members = done ++ rest

/-- The first of those that are left is in the place. -/
theorem Stands.getElem? (hd : Stands r done (h :: rest) d) :
    d.fleet.members[done.length]? = some h := by
  rw [hd.members, List.getElem?_append_right (Nat.le_refl _), Nat.sub_self]
  rfl

/-- A member that changes stays in its place. -/
theorem Stands.set (hd : Stands r done (h :: rest) d) (h' : Handle) :
    Stands r done (h' :: rest) { d with fleet := d.fleet.set done.length h' } := by
  refine ⟨hd.resolver, ?_⟩
  show d.fleet.members.set done.length h' = _
  rw [hd.members, List.set_append_right _ _ (Nat.le_refl _), Nat.sub_self]
  rfl

/-- The next place has the next member. -/
theorem Stands.next (hd : Stands r done (h :: rest) d) : Stands r (done ++ [h]) rest d :=
  ⟨hd.resolver, by rw [hd.members, List.append_assoc]; rfl⟩

/-- Work on the member in a place leaves all others where they are. -/
theorem onMember_stands {P : Session σ → Prop} {x : Work σ Handle α} {Q : Work.Post σ Handle α}
    (hx : Run.Triple env P (x h) Q.toRun) :
    Work.Triple env (fun d s => Stands r done (h :: rest) d ∧ P s) (onMember done.length x)
      ⟨fun d a s => ∃ h', Stands r done (h' :: rest) d ∧ Q.ok h' a s,
        fun d e s => ∃ h', Stands r done (h' :: rest) d ∧ Q.error h' e s, Q.halts⟩ := by
  refine onFleet_triple fun d => Run.Triple.of_and fun hd => ?_
  have hplace := hd.getElem?
  refine Fleet.member_triple (fun hnone => ?_) fun h₁ hh₁ => ?_
  · rw [hplace] at hnone
    cases hnone
  · obtain rfl := Option.some.inj (hplace.symm.trans hh₁)
    refine hx.mono (fun _ hs => hs) ?_ (fun _ _ hs => hs)
    rintro ⟨h', e | a⟩ s hs
    · exact ⟨h', hd.set h', hs⟩
    · exact ⟨h', hd.set h', hs⟩

/-- Whether a place has had its turn, and the others stand where they stood. -/
def Turned (r : Resolver) (m : Machine) (done rest : List Handle) (p : List Step)
    (d : Deployment) (past : List Step) : Prop :=
  ∃ h turn, Succession r m h turn ∧ Stands (r.resolve m).1 done (h :: rest) d ∧ Swaps turn p past

/-- Whether a place has had its turn and has a machine that is there. -/
def Manned (r : Resolver) (m : Machine) (done rest : List Handle) (p : List Step)
    (d : Deployment) (past : List Step) : Prop :=
  ∃ h turn, (∀ h', h'.id = h.id → Succession r m h' turn) ∧
    Stands (r.resolve m).1 done (h :: rest) d ∧ Swaps turn p past

/-- A place with a machine that is there has had its turn. -/
theorem Manned.turned {past : List Step} (hmanned : Manned r m done rest p d past) :
    Turned r m done rest p d past := by
  obtain ⟨h, turn, hturn, hd, hpast⟩ := hmanned
  exact ⟨h, turn, hturn h rfl, hd, hpast⟩

/-- What is left when a place has had its turn: a machine if the turn succeeds. -/
def turnPost (r : Resolver) (m : Machine) (done rest : List Handle) (p : List Step) :
    Work.Post σ Deployment Unit where
  ok d _ s := Manned r m done rest p d s.past
  error d _ s := Turned r m done rest p d s.past
  halts _ _ := True

/-- An update in place is a turn in which nothing is launched or destroyed. -/
theorem updatesMember_swaps (hechoes : env.Echoes) (hid : input.id = some h.id) :
    Work.Triple env (fun d s => Stands (r.resolve h.machine).1 done (h :: rest) d ∧ s.past = p)
      (onMember done.length (Handle.update input)) (turnPost r h.machine done rest p) := by
  have hkept : ∀ h' : Handle, h'.id = h.id → Succession r h.machine h' [] :=
    fun h' hh' => .idle hh'
  refine (onMember_stands (Handle.update_swaps hechoes hid)).mono (fun _ _ hs => hs) ?_ ?_
    (fun _ _ _ => trivial)
  · rintro d _ s ⟨h', hd, hh', hswaps⟩
    exact ⟨h', [], fun h'' hh'' => hkept h'' (hh''.trans hh'), hd, hswaps⟩
  · rintro d e s ⟨h', hd, hh', hswaps⟩
    exact ⟨h', [], hkept h' hh', hd, hswaps⟩

/-- A machine that is replaced is destroyed first, and its place is taken by the one that is
launched. Where either fails, it is told what the place is left with. -/
theorem replaceMember_swaps (hinput : (r.resolve h.machine).2 = .ok input)
    (hreplaces : input.requiresReplacement = true) :
    Work.Triple env (fun d s => Stands (r.resolve h.machine).1 done (h :: rest) d ∧ s.past = p)
      (replaceMember done.length h.machine input) (turnPost r h.machine done rest p) := by
  refine Work.Triple.bind (onMember_stands Handle.destroy_swaps) (fun _ => ?_) ?_
    (fun _ _ _ => trivial)
  · -- The machine is gone. Whether its successor comes decides who has the place.
    have hgone : Work.Triple env (fun d s => ∃ time,
        Stands (r.resolve h.machine).1 done (h.destroyed :: rest) d ∧
          Swaps (metBy (.destroy h.id h.lease.nonce) () time) p s.past)
        (Work.call (.launch { input with id := none }) "launch" h.machine.id >>= fun machine =>
          onFleet (Work.change (·.set done.length { machine := machine })))
        (turnPost r h.machine done rest p) := by
      refine Work.Triple.of_exists fun time => ?_
      refine Work.Triple.bind (Work.Triple.call_swaps rfl) (fun machine => ?_) ?_
        (fun _ _ _ => trivial)
      · refine onFleet_triple fun d => Run.Triple.pure fun s hs => ?_
        obtain ⟨hd, time', hswaps⟩ := hs
        exact ⟨{ machine := machine }, _, fun h' hh' => .replaced hinput hreplaces hh', hd.set _,
          hswaps⟩
      · rintro d e s ⟨hd, turn, hturn, hswaps⟩
        exact ⟨h.destroyed, _, .lost hinput hreplaces hturn, hd, hswaps⟩
    refine hgone.pre ?_
    rintro d s ⟨h', hd, rfl, time, hswaps⟩
    exact ⟨time, hd, hswaps⟩
  · rintro d e s ⟨h', hd, rfl, turn, hturn, hswaps⟩
    exact ⟨h', turn, .kept rfl hturn, hd, hswaps⟩

/-- A member is changed by a replacement or by an update. -/
theorem changeMember_swaps (hechoes : env.Echoes)
    (hinput : (r.resolve h.machine).2 = .ok input) :
    Work.Triple env (fun d s => Stands (r.resolve h.machine).1 done (h :: rest) d ∧ s.past = p)
      (changeMember done.length h.machine input) (turnPost r h.machine done rest p) := by
  unfold changeMember
  split
  · exact replaceMember_swaps hinput ‹_›
  · exact updatesMember_swaps hechoes (Resolver.resolve_id hinput)

/-- Waiting for a machine keeps it in its place. -/
theorem awaitMember_swaps (hechoes : env.Echoes) :
    Work.Triple env (fun d s => Manned r m done rest p d s.past) (awaitMember done.length)
      (turnPost r m done rest p) := by
  refine Work.Triple.value_bind fun d₀ => ?_
  -- The turn is over: from its end on the machine is only looked at.
  refine Work.Triple.pre (P := fun d s => ∃ h turn past,
    ((∀ h', h'.id = h.id → Succession r m h' turn) ∧ Swaps turn p past) ∧
      Stands (r.resolve m).1 done (h :: rest) d ∧ h.id = h.id ∧ Swaps [] past s.past) ?_ ?_
  · refine Work.Triple.of_exists fun h => Work.Triple.of_exists fun turn =>
      Work.Triple.of_exists fun past => Work.Triple.of_and fun hmanned => ?_
    obtain ⟨hturn, hpast⟩ := hmanned
    refine (onMember_stands (waitFor_looks hechoes d₀ h.id past h)).mono (fun _ _ hs => hs) ?_ ?_
      (fun _ _ _ => trivial)
    · rintro d _ s ⟨h', hd, hh', hswaps⟩
      exact ⟨h', turn, fun h'' hh'' => hturn h'' (hh''.trans hh'), hd, hpast.before hswaps⟩
    · rintro d e s ⟨h', hd, hh', hswaps⟩
      exact ⟨h', turn, hturn h' hh', hd, hpast.before hswaps⟩
  · rintro d s ⟨-, h, turn, hturn, hd, hswaps⟩
    exact ⟨h, turn, s.past, ⟨hturn, hswaps⟩, hd, rfl, Swaps.refl⟩

/-- A place has its turn, however it ends. The other places are not touched. -/
theorem updateMember_swaps (hechoes : env.Echoes) :
    Work.Triple env (fun d s => Stands r done (h :: rest) d ∧ s.past = p)
      (updateMember done.length) (turnPost r h.machine done rest p) := by
  -- To read the machine off its handle changes nothing.
  have hread : Work.Triple env (fun d s => Stands r done (h :: rest) d ∧ s.past = p)
      (onMember done.length (do return (← Work.value).machine))
      ⟨fun d orig s => orig = h.machine ∧ Stands r done (h :: rest) d ∧ s.past = p,
        fun _ _ _ => False, fun _ _ => False⟩ := by
    have hkeeps : Run.Triple env (·.past = p)
        ((do return (← Work.value).machine : Work σ Handle Machine) h) (Work.Post.toRun
          ⟨fun h' orig s => h' = h ∧ orig = h.machine ∧ s.past = p, fun _ _ _ => False,
            fun _ _ => False⟩) :=
      Run.Triple.pure fun s hs => ⟨rfl, rfl, hs⟩
    refine (onMember_stands hkeeps).mono (fun _ _ hs => hs) ?_ ?_ (fun _ _ h => h)
    · rintro d orig s ⟨h', hd, rfl, horig, hs⟩
      exact ⟨horig, hd, hs⟩
    · rintro d e s ⟨h', -, hfalse⟩
      exact hfalse.elim
  refine Work.Triple.bind hread (fun orig => Work.Triple.of_and fun horig => ?_)
    (fun _ _ _ h => h.elim) (fun _ _ h => h.elim)
  subst horig
  refine Work.Triple.bind (resolve_triple _) (fun input => ?_) ?_ (fun _ _ h => h.elim)
  · refine Work.Triple.extract (p := (r.resolve h.machine).2 = .ok input) (R := fun d s =>
      Stands (r.resolve h.machine).1 done (h :: rest) d ∧ s.past = p) ?_ fun hinput => ?_
    · rintro _ s ⟨d, ⟨hd, hs⟩, rfl, hinput⟩
      obtain rfl := hd.resolver
      exact ⟨hinput, ⟨rfl, hd.members⟩, hs⟩
    · refine Work.Triple.bind (changeMember_swaps hechoes hinput) (fun _ => ?_)
        (fun _ _ _ hs => hs) (fun _ _ hs => hs)
      split
      · exact awaitMember_swaps hechoes
      · exact Work.Triple.pure fun _ _ hs => hs
  · -- The request is refused, and the place is as it was.
    rintro _ e s ⟨d, ⟨hd, rfl⟩, rfl, -⟩
    obtain rfl := hd.resolver
    exact ⟨h, [], .idle rfl, ⟨rfl, hd.members⟩, Swaps.refl⟩

/-! ## All places -/

/-- Whether places had their turns since a moment, after others that are as they were. -/
def AllTurned (r : Resolver) (done rest : List Handle) (p : List Step) (d : Deployment)
    (past : List Step) : Prop :=
  ∃ rest' turns, Successions r (rest.map (·.machine)) rest' turns ∧
    d.fleet.members = done ++ rest' ∧ Swaps turns.reverse.flatten p past

/-- Places that had no turn are as they were. -/
theorem allTurned_of_members {past : List Step} (hmembers : d.fleet.members = done ++ rest)
    (hpast : Swaps [] p past) : AllTurned r done rest p d past := by
  refine ⟨rest, rest.map fun _ => [], Successions.untouched r rest, hmembers, ?_⟩
  rw [List.map_const', List.reverse_replicate, List.flatten_replicate_nil]
  exact hpast

/-- A turn and those that follow it. -/
theorem AllTurned.cons {mid past : List Step} (hturn : Succession r h.machine h' turn)
    (hmid : Swaps turn p mid)
    (hrest : AllTurned (r.resolve h.machine).1 (done ++ [h']) rest mid d past) :
    AllTurned r done (h :: rest) p d past := by
  obtain ⟨rest', turns, hturns, hmembers, hpast⟩ := hrest
  refine ⟨h' :: rest', turn :: turns, .cons hturn hturns, ?_, ?_⟩
  · rw [hmembers, List.append_assoc]
    rfl
  · rw [List.reverse_cons, List.flatten_append, List.flatten_singleton]
    exact hmid.trans hpast

/-- However many places have their turns, the rest stay as they are. -/
theorem updateMembers_swaps (hechoes : env.Echoes) :
    Work.Triple env (fun d s => Stands r done rest d ∧ s.past = p)
      (updateMembers (List.range' done.length rest.length))
      ⟨fun d _ s => AllTurned r done rest p d s.past, fun d _ s => AllTurned r done rest p d s.past,
        fun _ _ => True⟩ := by
  -- By induction on the places that are left; the resolver and the places before them change.
  induction rest generalizing r done p with
  | nil =>
    refine Work.Triple.pure fun d s hs => ?_
    exact allTurned_of_members hs.1.members (hs.2 ▸ Swaps.refl)
  | cons h rest ih =>
    rw [List.length_cons, List.range'_succ]
    -- Whatever became of this place, the next ones have their turns from there.
    have hnext : Work.Triple env (fun d s => Turned r h.machine done rest p d s.past)
        (updateMembers (List.range' (done.length + 1) rest.length))
        ⟨fun d _ s => AllTurned r done (h :: rest) p d s.past,
          fun d _ s => AllTurned r done (h :: rest) p d s.past, fun _ _ => True⟩ := by
      intro d s hs
      obtain ⟨h', turn, hturn, hd, hmid⟩ := hs
      have hrest : Work.Triple env
          (fun d' s' => Stands (r.resolve h.machine).1 (done ++ [h']) rest d' ∧ s'.past = s.past)
          (updateMembers (List.range' (done ++ [h']).length rest.length)) _ := ih
      rw [List.length_append, List.length_singleton] at hrest
      have hall : Work.Triple env
          (fun d' s' => Stands (r.resolve h.machine).1 (done ++ [h']) rest d' ∧ s'.past = s.past)
          (updateMembers (List.range' (done.length + 1) rest.length))
          ⟨fun d _ s => AllTurned r done (h :: rest) p d s.past,
            fun d _ s => AllTurned r done (h :: rest) p d s.past, fun _ _ => True⟩ := by
        refine hrest.mono (fun _ _ hs => hs) ?_ ?_ (fun _ _ hs => hs)
        · exact fun _ _ _ => AllTurned.cons hturn hmid
        · exact fun _ _ _ => AllTurned.cons hturn hmid
      exact hall d s ⟨hd.next, rfl⟩
    refine Work.Triple.attempt_bind (updateMember_swaps hechoes) (fun _ => ?_) (fun e => ?_)
      (fun _ _ hs => hs)
    · exact hnext.pre fun _ _ hs => hs.turned
    · -- A failure is gone on from under the immediate strategy only.
      refine Work.Triple.value_bind fun d => ?_
      split
      · exact hnext.pre fun _ _ hs => hs.2
      · refine Work.Triple.fail fun d' s hs => ?_
        obtain ⟨-, h', turn, hturn, hd, hmid⟩ := hs
        exact (allTurned_of_members hd.next.members Swaps.refl).cons hturn hmid

/-! ## The run of a deployment -/

/-- Whether machines were swapped in their places since a moment, if at all. -/
def Swapped (r : Resolver) (machines : List Machine) (p : List Step) (d : Deployment)
    (past : List Step) : Prop :=
  ∃ turns, Successions r machines d.fleet.members turns ∧ Swaps turns.reverse.flatten p past

/-- However work ends that returns, machines were swapped in their places. -/
def swappedPost (r : Resolver) (machines : List Machine) (p : List Step) :
    Work.Post σ Deployment α where
  ok d _ s := Swapped r machines p d s.past
  error d _ s := Swapped r machines p d s.past
  halts _ _ := True

/-- Where all places had their turns, machines were swapped in their places. -/
theorem AllTurned.swapped {past : List Step} (hturned : AllTurned r [] rest p d past) :
    Swapped r (rest.map (·.machine)) p d past := by
  obtain ⟨rest', turns, hturns, hmembers, hpast⟩ := hturned
  rw [List.nil_append] at hmembers
  exact ⟨turns, hmembers ▸ hturns, hpast⟩

/-- Where nothing was launched or destroyed, no machine was swapped. -/
theorem swapped_of_machines {machines : List Machine} {past : List Step}
    (hmachines : d.fleet.machines = machines) (hpast : Swaps [] p past) :
    Swapped r machines p d past := by
  subst hmachines
  exact AllTurned.swapped (allTurned_of_members rfl hpast)

/-- Taking the leases swaps no machine. -/
theorem acquire_swaps (d : Deployment) (term : Nat) :
    Work.Triple env (fun d' s => d' = d ∧ s.past = p) (onFleet (Fleet.acquire term))
      ⟨fun d' _ s => d'.resolver = d.resolver ∧ d'.fleet.machines = d.fleet.machines ∧
          Swaps [] p s.past,
        fun d' _ s => Swapped d.resolver d.fleet.machines p d' s.past, fun _ _ => True⟩ := by
  -- A call for a lease launches and destroys nothing.
  have hswaps : ∀ past, Adds d.fleet.Leases p past → Swaps [] p past := by
    intro past hadds
    refine Swaps.of_adds hadds ?_
    rintro c (⟨m, -, nonce, rfl⟩ | ⟨m, -, ttl, rfl⟩)
    · rfl
    · rfl
  refine onFleet_triple fun d' => Run.Triple.of_and fun hd => ?_
  subst hd
  refine (Fleet.acquire_calls term p).mono (fun _ hs => hs) ?_ (fun _ _ _ => trivial)
  rintro ⟨f', e | _⟩ s ⟨hmachines, hadds⟩
  · exact swapped_of_machines hmachines (hswaps s.past hadds)
  · exact ⟨rfl, hmachines, hswaps s.past hadds⟩

/-- Giving up the leases changes nothing in what became of the places. -/
theorem release_swaps {machines : List Machine} :
    Work.Triple env (fun d s => Swapped r machines p d s.past) (onFleet Fleet.release)
      (swappedPost r machines p) := by
  refine onFleet_triple fun d => Run.Triple.at_session fun s hs => ?_
  obtain ⟨turns, hturns, hpast⟩ := hs
  have hforgotten : Run.Triple env _ (Fleet.release d.fleet) _ := Fleet.release_forgotten d.fleet s
  have hcalls : Run.Triple env _ (Fleet.release d.fleet) _ := Fleet.release_calls s.past
  have hboth := hforgotten.and hcalls
  -- A machine that gave up its lease, or was cut off, is the same machine.
  have hswapped : ∀ (f' : Fleet) (s' : Session σ), Adds d.fleet.Releases s.past s'.past →
      (∃ ended giving, Fleet.Forgets d.fleet s ended giving f' s') →
      Swapped r machines p { d with fleet := f' } s'.past := by
    rintro f' s' hadds ⟨ended, giving, hforgets⟩
    refine ⟨turns, hturns.released (hforgets.forall₂.imp fun h h' hh' => hh'.imp_right (·.1)), ?_⟩
    refine hpast.before (Swaps.of_adds hadds ?_)
    rintro c ⟨m, -, nonce, rfl⟩
    rfl
  refine hboth.mono (fun s' hs' => ⟨hs', hs' ▸ rfl⟩) ?_ (fun _ _ _ => trivial)
  rintro ⟨f', e | _⟩ s' ⟨hforgotten, -, hadds⟩
  · exact hswapped f' s' hadds hforgotten
  · exact hswapped f' s' hadds hforgotten

/-- The machines of a fleet are swapped in their places, however its update ends. -/
theorem updateFleet_swaps (hechoes : env.Echoes) (d : Deployment) :
    Work.Triple env (fun d' s => d' = d ∧ s.past = p) updateFleet
      (swappedPost d.resolver d.fleet.machines p) := by
  -- The leases are given up, and the result is told after that.
  have hgiveUp : ∀ result : Except DeployError Unit,
      Work.Triple env (fun d' s => Swapped d.resolver d.fleet.machines p d' s.past)
        ((onFleet Fleet.release).attempt >>= fun _ => Work.ofExcept result)
        (swappedPost d.resolver d.fleet.machines p) := by
    intro result
    have htell : Work.Triple env (fun d' s => Swapped d.resolver d.fleet.machines p d' s.past)
        (Work.ofExcept result) (swappedPost d.resolver d.fleet.machines p) :=
      Work.Triple.ofExcept (fun _ _ _ _ hs => hs) (fun _ _ _ _ hs => hs)
    exact Work.Triple.attempt_bind release_swaps (fun _ => htell) (fun _ => htell)
      (fun _ _ hs => hs)
  -- In between the members have their turns.
  have hupdates : Work.Triple env (fun d' s => d'.resolver = d.resolver ∧
        d'.fleet.machines = d.fleet.machines ∧ Swaps [] p s.past)
      (updateMembers (List.range d.fleet.size)) (swappedPost d.resolver d.fleet.machines p) := by
    rintro d' s ⟨hresolver, hmachines, hpast⟩
    have hsize : d.fleet.size = d'.fleet.members.length := by
      have hlength := congrArg List.length hmachines
      simpa [Fleet.machines, Fleet.size] using hlength.symm
    have hturned : ∀ d₁ past, AllTurned d.resolver [] d'.fleet.members s.past d₁ past →
        Swapped d.resolver d.fleet.machines p d₁ past := by
      intro d₁ past hall
      obtain ⟨turns, hturns, hswaps⟩ := hall.swapped
      exact ⟨turns, hmachines ▸ hturns, hpast.after hswaps⟩
    have hturns : Work.Triple env
        (fun d₁ s₁ => Stands d.resolver [] d'.fleet.members d₁ ∧ s₁.past = s.past)
        (updateMembers (List.range' 0 d'.fleet.members.length)) _ := updateMembers_swaps hechoes
    rw [← hsize, ← List.range_eq_range'] at hturns
    have hall : Work.Triple env
        (fun d₁ s₁ => Stands d.resolver [] d'.fleet.members d₁ ∧ s₁.past = s.past)
        (updateMembers (List.range d.fleet.size)) (swappedPost d.resolver d.fleet.machines p) :=
      hturns.mono (fun _ _ hs => hs) (fun d₁ _ s₁ => hturned d₁ s₁.past)
        (fun d₁ _ s₁ => hturned d₁ s₁.past) (fun _ _ hs => hs)
    exact hall d' s ⟨⟨hresolver, rfl⟩, rfl⟩
  refine Work.Triple.value_bind_of_eq ?_
  refine Work.Triple.bind (acquire_swaps d _) (fun _ => ?_) (fun _ _ _ hs => hs) (fun _ _ hs => hs)
  exact Work.Triple.attempt_bind hupdates (fun _ => hgiveUp _) (fun _ => hgiveUp _)
    (fun _ _ hs => hs)

/-- The rollout to an app with machines swaps them in their places. -/
theorem rollOut_swaps (hechoes : env.Echoes) (d : Deployment) (hfleet : d.fleet.machines ≠ []) :
    Work.Triple env (fun d' s => d' = d ∧ s.past = p) rollOut
      (swappedPost d.resolver d.fleet.machines p) := by
  refine Work.Triple.value_bind_of_eq ?_
  rw [Fleet.isEmpty_eq_false hfleet]
  exact updateFleet_swaps hechoes d

/-- Whether the places of a fleet were conserved: each has the machine it had or its successor, or
the record of a machine that is destroyed and has no successor. -/
structure Conserves (d d' : Deployment) (new : List Step) : Prop where
  size : d'.fleet.size = d.fleet.size
  /-- Nothing was launched or destroyed but for the places, one after the other. -/
  places : ∃ turns, Successions d.resolver d.fleet.machines d'.fleet.members turns ∧
    new.filter Step.isSwap = turns.reverse.flatten
  /-- The destruction of each machine was asked for once at most. -/
  once : (destroyedIn new).Sublist (d.fleet.machines.map (·.id)).reverse
  /-- At every moment, for each launch that was asked for a destruction had succeeded. -/
  covered : Covered new

/-- Where machines were swapped in their places, the places were conserved. -/
theorem Swapped.conserves {d' : Deployment} {past : List Step}
    (h : Swapped d.resolver d.fleet.machines p d' past) :
    ∃ new, past = new ++ p ∧ Conserves d d' new := by
  obtain ⟨turns, hturns, new, hpast, hnew⟩ := h
  refine ⟨new, hpast, ?_⟩
  constructor
  case size =>
    have hlength := hturns.length_eq
    rw [Fleet.machines, List.length_map] at hlength
    exact hlength
  case places => exact ⟨turns, hturns, hnew⟩
  case once =>
    rw [← destroyedIn_filter, hnew]
    exact hturns.destroyedIn_sublist
  case covered =>
    apply Covered.of_filter
    rw [hnew]
    exact hturns.covered

/-- A release command destroys no machine. -/
theorem runCommand_spares (d : Deployment) (s : Session σ) :
    CallsSince s.past (runCommand d env s).2.past fun _ c => ∀ id nonce, c ≠ .destroy id nonce := by
  have hrun : (runCommand (σ := σ)).Calls fun c => ∀ id nonce, c ≠ .destroy id nonce := by
    refine Work.Calls.value.bind fun d => ?_
    refine (Work.Calls.within (ReleaseCommand.run_spares d.resolver)).attempt.bind fun result => ?_
    cases result with
    | ok _ => exact Work.Calls.pure _
    | error e => exact (Work.Calls.lift (Run.Calls.report _ _)).bind fun _ => Work.Calls.fail e
  exact (hrun d env s).callsSince

/-- A deployment to an app with machines conserves their places, however it ends. No machine is
destroyed twice, and at no moment there are more launches than machines that were destroyed. -/
theorem deploy_conserves (env : Environment σ) (hechoes : env.Echoes) (d d' : Deployment)
    (hfleet : d.fleet.machines ≠ []) (s s' : Session σ) (result : Except DeployError Unit)
    (hdeploy : deploy d env s = (.done (d', result), s')) :
    CallsSince s.past (runCommand d env s).2.past
        (fun _ c => ∀ id nonce, c ≠ .destroy id nonce) ∧
      ∃ new, s'.past = new ++ (runCommand d env s).2.past ∧ Conserves d d' new := by
  refine ⟨runCommand_spares d s, ?_⟩
  rcases deploy_cases d env s with ⟨c, s₁, hcommand, hrolls⟩ | ⟨ending, hends, hfails⟩
  · -- The rollout begins with the fleet that was found.
    have hrollOut : Run.Post.Holds _ (rollOut { d with command := c } env s₁) :=
      rollOut_swaps (p := s₁.past) hechoes { d with command := c } hfleet _ s₁ ⟨rfl, rfl⟩
    rw [← hrolls, hdeploy] at hrollOut
    have hswapped : Swapped d.resolver d.fleet.machines s₁.past d' s'.past := by
      cases result with
      | ok _ => exact hrollOut
      | error e => exact hrollOut
    rw [hcommand]
    exact hswapped.conserves
  · -- The release command failed, and the fleet was not touched.
    obtain ⟨rfl, rfl⟩ := Prod.mk.inj (hends.symm.trans hdeploy)
    obtain ⟨⟨c, rfl⟩, -⟩ := hfails d' result rfl
    have hswapped : Swapped d.resolver d.fleet.machines (runCommand d env s).2.past
        { d with command := c } (runCommand d env s).2.past :=
      swapped_of_machines rfl Swaps.refl
    exact hswapped.conserves

/-- A deployment to a machine that has to move to the app's host. -/
def movingIn : Deployment :=
  assemble {} { appName := "web", hostDedicationId := "host" } .rolling { app := [{ id := "m1" }] }
    {} {}

/-- The machine makes way for another one. -/
theorem deploy_conserves_movingIn : movingIn.fleet.machines ≠ [] ∧ ∃ d' result s',
    deploy movingIn .obliging { remote := () } = (.done (d', result), s') ∧
      d'.fleet.members.map (·.id) = ["new"] ∧
      CallsSince [] (runCommand movingIn .obliging { remote := () }).2.past
        (fun _ c => ∀ id nonce, c ≠ .destroy id nonce) ∧
      ∃ new, s'.past = new ++ (runCommand movingIn .obliging { remote := () }).2.past ∧
        Conserves movingIn d' new := by
  have hfleet : movingIn.fleet.machines ≠ [] := by decide
  have hends : Run.endsWith (fun result _ => result.1.fleet.members.map (·.id) == ["new"])
      (deploy movingIn .obliging { remote := () }) = true := by decide +kernel
  obtain ⟨⟨d', result⟩, s', hdeploy, hids⟩ := Run.exists_of_endsWith hends
  exact ⟨hfleet, d', result, s', hdeploy, beq_iff_eq.mp hids,
    deploy_conserves .obliging Environment.obliging_echoes movingIn d' hfleet { remote := () } s'
      result hdeploy⟩

end Deployment

end Rollout
