import Rollout.Fleet.Basic
import Rollout.Proofs.Poll

/-!
# What is done with a handle

What the operations on a handle make of it, which calls they make, and what they have seen when
they succeed. The leases that are taken and given up on the way are the subject of `Leasing`.

## Main statements

- `Handle.waitForState_triple`: a state that was waited for was answered.
- `Handle.fetchUntil_triple`: a machine that was fetched for meets its condition.
- `Handle.update_triple`, `Handle.destroy_triple`: a change that succeeds was answered.
-/

namespace Rollout

variable {σ τ α : Type} {env : Environment σ}

namespace Handle

variable (h : Handle) (timeout : Nat) (p : List Step)

/-! ## Waits -/

/-- A wait for a state leaves the handle alone. If it succeeds, it was answered that the machine
is in the state. -/
theorem waitForState_triple (state : Machine.State) :
    Run.Triple env (·.past = p) (waitForState state timeout h) (Work.Post.toRun
      ⟨fun h' _ s => h' = h ∧
        ∃ left, Seen p [.answered (.wait h.machine state left) (.ok ())] s.past,
        fun h' _ _ => h' = h, fun _ _ => True⟩) := by
  refine Run.Triple.bind ((Run.Triple.poll (K := fun _ p' => p <:+ p')
    (A := fun _ p' => ∃ left, Seen p [.answered (.wait h.machine state left) (.ok ())] p')
    (H := fun _ => True) (fun b last left => ?_) (fun _ _ _ => trivial)).pre fun s hs => ?_)
    (fun result => Run.Triple.pure fun s hs => ?_) (fun _ _ _ => trivial)
  · -- A round that is answered well has seen that the machine is in the state.
    refine Run.Triple.request_seen.mono (fun _ hs => hs) ?_ (fun _ _ _ => trivial)
    rintro (i | e | a) s ⟨hsuffix, hseen⟩
    · exact hsuffix
    · exact hsuffix
    · exact ⟨hsuffix, left, (hseen () rfl).2⟩
  · subst hs
    exact List.suffix_rfl
  · -- The poll tells what its last round saw.
    obtain ⟨last, verdict⟩ := result
    cases verdict with
    | error e => rfl
    | ok a =>
      obtain ⟨-, hseen⟩ := hs
      obtain ⟨reply, -, -, hseen⟩ := hseen a rfl
      exact ⟨rfl, hseen⟩

/-- A wait for a state asks for nothing but that state. -/
theorem waitForState_calls {φ : Call → Prop} (state : Machine.State)
    (hφ : ∀ left, φ (.wait h.machine state left)) :
    (waitForState (σ := σ) state timeout h).Calls φ := by
  refine Run.Calls.bind ?_ fun _ => Run.Calls.pure _
  exact Run.Calls.poll fun _ left => Run.Calls.request (hφ left)

/-- The machine that was seen last among those that were fetched is kept. If one meets the
condition, it is that one. -/
theorem fetchUntil_triple (what : String) (schedule : Backoff) (accept : Machine → Option α) :
    Run.Triple env (·.past = p) (fetchUntil what schedule accept timeout h) (Work.Post.toRun
      ⟨fun h' a s => ∃ m, h' = { h with machine := m } ∧ env.Gives (.get h.id) (.ok m) ∧
        accept m = some a ∧ Seen p [.answered (.get h.id) (.ok m)] s.past,
        fun h' _ _ => h' = h ∨ ∃ m, h' = { h with machine := m } ∧ env.Gives (.get h.id) (.ok m),
        fun _ _ => True⟩) := by
  refine Run.Triple.bind ((Run.Triple.poll
    (K := fun last p' => p <:+ p' ∧ ∀ m, last = some m → env.Gives (.get h.id) (.ok m))
    (A := fun m p' => Seen p [.answered (.get h.id) (.ok m)] p')
    (H := fun _ => True) (fun b last left => ?_) (fun _ _ _ => trivial)).pre fun s hs => ?_)
    (fun result => Run.Triple.pure fun s hs => ?_) (fun _ _ _ => trivial)
  · -- A round replaces the machine that was seen last, or leaves it.
    refine (Run.Triple.of_and fun hlast => (Run.Triple.fact (p := ∀ m, last = some m →
      env.Gives (.get h.id) (.ok m)) fun _ => Run.Triple.request_seen (p := p)).mono
      (fun _ hs => ⟨hlast, hs⟩) ?_ (fun _ _ _ => trivial)).pre fun _ hs => ⟨hs.2, hs.1⟩
    rintro (i | e | a) s ⟨hlast, hsuffix, hseen⟩
    · exact ⟨hsuffix, hlast⟩
    · exact ⟨hsuffix, hlast⟩
    · refine ⟨⟨hsuffix, fun m heq => ?_⟩, (hseen a rfl).2⟩
      obtain rfl := Option.some.inj heq
      exact (hseen a rfl).1
  · subst hs
    exact ⟨List.suffix_rfl, fun m heq => by cases heq⟩
  · obtain ⟨last, verdict⟩ := result
    obtain ⟨⟨-, hlast⟩, haccept⟩ := hs
    cases verdict with
    | error e =>
      -- Even a poll that failed keeps the machine that it saw last.
      cases last with
      | none => exact .inl rfl
      | some m => exact .inr ⟨m, rfl, hlast m rfl⟩
    | ok a =>
      obtain ⟨m, rfl, haccept, hseen⟩ := haccept a rfl
      exact ⟨m, rfl, hlast m rfl, haccept, hseen⟩

/-- A poll that fetches a machine does nothing but that. -/
theorem fetchUntil_calls {φ : Call → Prop} (what : String) (schedule : Backoff)
    (accept : Machine → Option α) (hφ : φ (.get h.id)) :
    (fetchUntil (σ := σ) what schedule accept timeout h).Calls φ := by
  refine Run.Calls.bind ?_ fun _ => Run.Calls.pure _
  exact Run.Calls.poll fun _ _ => Run.Calls.request hφ

/-- A machine is healthy when it has no checks, or when a fetched one passes them all. -/
theorem waitForHealth_triple :
    Run.Triple env (·.past = p) (waitForHealth timeout h) (Work.Post.toRun
      ⟨fun h' _ s => h' = h ∧ h.machine.config.checks.isEmpty ∨
        ∃ m, h' = { h with machine := m } ∧ env.Gives (.get h.id) (.ok m) ∧
          m.health.allPassing ∧ Seen p [.answered (.get h.id) (.ok m)] s.past,
        fun h' _ _ => h' = h ∨ ∃ m, h' = { h with machine := m } ∧ env.Gives (.get h.id) (.ok m),
        fun _ _ => True⟩) := by
  show Run.Triple env _ ((if h.machine.config.checks.isEmpty then pure () else
    fetchUntil _ _ _ timeout : Work σ Handle Unit) h) _
  split
  · exact Run.Triple.pure fun s hs => .inl ⟨rfl, ‹_›⟩
  · -- The condition of the poll is that all checks pass.
    refine (fetchUntil_triple h timeout p _ _ _).mono (fun _ hs => hs) ?_ (fun _ _ hs => hs)
    rintro ⟨h', e | a⟩ s hs
    · exact hs
    · obtain ⟨m, rfl, hgives, haccept, hseen⟩ := hs
      refine .inr ⟨m, rfl, hgives, ?_, hseen⟩
      by_contra hfails
      rw [if_neg hfails] at haccept
      cases haccept

/-- A wait for health does nothing but to fetch the machine. -/
theorem waitForHealth_calls {φ : Call → Prop} (hφ : φ (.get h.id)) :
    (waitForHealth (σ := σ) timeout h).Calls φ := by
  show Run.Calls ((if h.machine.config.checks.isEmpty then pure () else
    fetchUntil _ _ _ timeout : Work σ Handle Unit) h) _
  split
  · exact Run.Calls.pure _
  · exact fetchUntil_calls h timeout _ _ _ hφ

/-! ## Changes -/

/-- What is done under the lease is done if the clock says that the lease is held, and with its
nonce. -/
theorem heldNonce_bind (f : String → Work σ Handle α) :
    (heldNonce >>= f) h = do
      if h.lease.isHeldAt (← Run.readClock) then f h.lease.nonce h
      else return (h, .error (.precondition ("no current lease for machine " ++ h.id))) := by
  funext env s
  cases hheld : h.lease.isHeldAt (env.clock s.readings s.now) <;>
    simp [heldNonce, hheld, bind, pure, Work.andThen, Run.andThen, Work.value, Work.lift,
      Work.fail, Run.readClock]

/-- What is done under the lease is done right after the clock told that the lease is held. -/
theorem heldNonce_bind_triple {K : List Step → Prop} {f : String → Work σ Handle α}
    {Q : Run.Post σ (Handle × Except DeployError α)}
    (hheld : ∀ now, h.lease.isHeldAt now →
      Run.Triple env (fun s => ∃ p, K p ∧ s.past = .looked now :: p) (f h.lease.nonce h) Q)
    (herror : ∀ e now p s, K p → s.past = .looked now :: p → Q.done (h, .error e) s) :
    Run.Triple env (K ·.past) ((heldNonce >>= f) h) Q := by
  rw [heldNonce_bind]
  -- The clock is read right before the call.
  refine Run.Triple.bind (R := ⟨fun now s => ∃ p, K p ∧ s.past = .looked now :: p,
    fun _ _ => False⟩) (Run.Triple.readClock fun s now hs => ⟨s.past, hs, rfl⟩) (fun now => ?_)
    (fun _ _ h => h.elim)
  split
  · exact hheld now ‹_›
  · refine Run.Triple.pure fun s hs => ?_
    obtain ⟨p, hp, hpast⟩ := hs
    exact herror _ now p s hp hpast

/-- To look whether the lease is held makes no call. -/
theorem heldNonce_bind_calls {φ : Call → Prop} {f : String → Work σ Handle α}
    (hf : (f h.lease.nonce h).Calls φ) : ((heldNonce >>= f) h).Calls φ := by
  rw [heldNonce_bind]
  refine Run.Calls.readClock.bind fun now => ?_
  split
  · exact hf
  · exact Run.Calls.pure _

/-- An update that succeeds was answered with the machine that the handle has from then on. One
that fails leaves the handle alone. -/
theorem update_triple (input : LaunchInput) :
    Run.Triple env (·.past = p) (update input h) (Work.Post.toRun
      ⟨fun h' _ s => ∃ m nonce, h' = { h with machine := m } ∧
        env.Gives (.update input nonce) (.ok m) ∧
        Seen p [.answered (.update input nonce) (.ok m)] s.past,
        fun h' _ _ => h' = h, fun _ _ => True⟩) := by
  -- The lease is held, or nothing happens.
  refine heldNonce_bind_triple h (K := (· = p)) (fun now _ => ?_) (fun _ _ _ _ _ _ => rfl)
  refine Run.Triple.pre (Work.Triple.bind (P := fun t s => t = h ∧ p <:+ s.past)
    Work.Triple.call_seen (fun m => Work.Triple.change ?_) (fun _ _ _ hs => hs)
    (fun _ _ hs => hs) h) ?_
  · rintro _ s ⟨rfl, hgives, hseen⟩
    exact ⟨m, _, rfl, hgives, hseen⟩
  · rintro s ⟨_, rfl, hpast⟩
    exact ⟨rfl, hpast ▸ List.suffix_cons _ _⟩

/-- An update makes no other call. -/
theorem update_calls (input : LaunchInput) :
    (update (σ := σ) input h).Calls (fun c => ∃ nonce, c = .update input nonce) :=
  heldNonce_bind_calls h ((Work.Calls.call (c := .update input _) ⟨_, rfl⟩).bind
    (fun _ => Work.Calls.change _) h)

/-- A machine that is destroyed leaves a handle without a lease. One that could not be destroyed
leaves the handle alone. -/
theorem destroy_triple :
    Run.Triple env (·.past = p) (destroy h) (Work.Post.toRun
      ⟨fun h' _ s => h' = h.destroyed ∧
        ∃ nonce, Seen p [.answered (.destroy h.id nonce) (.ok ())] s.past,
        fun h' _ _ => h' = h, fun _ _ => True⟩) := by
  -- The lease is held, or nothing happens.
  refine heldNonce_bind_triple h (K := (· = p)) (fun now _ => ?_) (fun _ _ _ _ _ _ => rfl)
  show Run.Triple env _ ((Work.call (.destroy h.id h.lease.nonce) "destroy" h.id >>= fun _ =>
    Work.change destroyed : Work σ Handle Unit) h) _
  refine Run.Triple.pre (Work.Triple.bind (P := fun t s => t = h ∧ p <:+ s.past)
    Work.Triple.call_seen (fun _ => Work.Triple.change ?_) (fun _ _ _ hs => hs)
    (fun _ _ hs => hs) h) ?_
  · rintro _ s ⟨rfl, -, hseen⟩
    exact ⟨rfl, _, hseen⟩
  · rintro s ⟨_, rfl, hpast⟩
    exact ⟨rfl, hpast ▸ List.suffix_cons _ _⟩

/-- To destroy a machine makes no other call. -/
theorem destroy_calls :
    (destroy (σ := σ) h).Calls (fun c => ∃ nonce, c = .destroy h.id nonce) :=
  heldNonce_bind_calls h ((Work.Calls.call (c := .destroy h.id _) ⟨_, rfl⟩).bind
    (fun _ => Work.Calls.change _) h)

end Handle

end Rollout
