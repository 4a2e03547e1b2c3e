import Rollout.Proofs.Courses
import Rollout.Proofs.Leasing

/-!
# The courses of taking and giving up leases

What becomes of the errand that gives up the lease of a handle (`Handle.Gave`) and of the one that
takes a lease for it (`Handle.Took`), told by what the clock said before its call and what the
answer was. All members of a fleet are asked side by side.

## Main statements

- `Handle.releasing_giving`, `Handle.acquiring_taking`: the errands of a handle have these courses.
- `Fleet.release_courses`, `Fleet.acquire_courses`: so have those of all members of a fleet.
-/

namespace Rollout

variable {σ : Type} {env : Environment σ} {s s' : Session σ}

/-! ## Handles -/

/-- An errand that reads the clock first is opened by that. -/
theorem Run.Triple.readClock_opened (s : Session σ) :
    Run.Triple env (· = s) Run.readClock
      ⟨fun now s' => Opened s [.looked now] s', fun _ _ => False⟩ := by
  refine Run.Triple.readClock fun s' now hs' => ?_
  subst hs'
  exact ⟨rfl, by simp [Step.isAside, Step.call?, Step.isAnswer], rfl, rfl⟩

namespace Handle

/-- The courses of an errand that gives up the lease of a handle. -/
inductive Gave (h : Handle) : Course (Handle × Except DeployError Unit) → Prop where
  | unleased (hnonce : h.lease.nonce = "") : Gave h ⟨[], .idle ({ h with lease := {} }, .ok ())⟩
  | stale (now : Int) (hnonce : h.lease.nonce ≠ "") (hstale : h.lease.isStaleAt now = true) :
      Gave h ⟨[.dropped h.id h.lease.nonce, .looked now], .idle ({ h with lease := {} }, .ok ())⟩
  | asked (now : Int) (hnonce : h.lease.nonce ≠ "") (hstale : h.lease.isStaleAt now = false)
      (fate : Fate (Handle × Except DeployError Unit))
      (hcall : fate.isSkipped = true ∨ fate.call? = some (.release h.id h.lease.nonce))
      (hresult : ∀ x, fate.result? = some x →
        x.1 = if fate.reason? = some .timedOut then h else { h with lease := {} }) :
      Gave h ⟨[.looked now], fate⟩

/-- An errand that gives up the lease of a handle: its courses, and when it spares the
deployment. -/
structure Giving (env : Environment σ) (time : Nat) (h : Handle) (opening : List Step)
    (e : Errand (Handle × Except DeployError Unit)) : Prop where
  gave : ∀ fate, e.Fares fate → h.Gave ⟨opening, fate⟩
  spares : (∀ st, (env.receive (.release h.id h.lease.nonce) time st).cancels = false) →
    e.Spares env time

/-- The errand that gives a lease up takes one of its courses. -/
theorem releasing_giving (h : Handle) (time : Nat) (s : Session σ) :
    Run.Triple env (· = s) h.releasing
      ⟨fun e s' => ∃ opening, Opened s opening s' ∧ Giving env time h opening e,
        fun _ _ => False⟩ := by
  unfold releasing
  split
  · -- Without a lease nothing is asked for.
    rename_i hnonce
    refine Run.Triple.pure fun s' hs' => ?_
    subst hs'
    refine ⟨[], ⟨rfl, by simp, rfl, rfl⟩, fun fate hfate => ?_, fun _ => trivial⟩
    cases hfate
    exact .unleased hnonce
  · rename_i hnonce
    refine Run.Triple.bind (Run.Triple.readClock_opened s) (fun now => ?_) (fun _ _ h => h)
    split
    · -- A stale lease is dropped.
      rename_i hstale
      refine Run.Triple.bind (R := ⟨fun _ s' =>
        Opened s [.dropped h.id h.lease.nonce, .looked now] s', fun _ _ => False⟩)
        (Run.Triple.change fun s' hs' => ?_) (fun _ => Run.Triple.pure fun s' hs' => ?_)
        (fun _ _ h => h)
      · refine ⟨?_, by simp [Step.isAside, Step.call?, Step.isAnswer], hs'.now, hs'.cancelAt⟩
        show _ :: s'.past = _
        rw [hs'.past]
        rfl
      · refine ⟨_, hs', fun fate hfate => ?_, fun _ => trivial⟩
        cases hfate
        exact .stale now hnonce hstale
    · -- Any other is asked to be released.
      rename_i hstale
      rw [Bool.not_eq_true] at hstale
      refine Run.Triple.pure fun s' hs' => ⟨_, hs', fun fate hfate => ?_, fun h => h⟩
      refine .asked now hnonce hstale fate ?_ ?_
      · cases hfate with
        | skipped i => exact .inl rfl
        | answered o => exact .inr rfl
        | abandoned i => exact .inr rfl
        | unanswered => exact .inr rfl
      · -- Only if time runs out is the lease kept.
        rintro x hx
        cases hfate with
        | skipped i =>
          obtain rfl := Option.some.inj hx
          cases i <;> rfl
        | answered o =>
          obtain rfl := Option.some.inj hx
          cases o <;> rfl
        | abandoned i =>
          obtain rfl := Option.some.inj hx
          cases i <;> rfl
        | unanswered => cases hx

/-- The courses of an errand that takes a lease for a handle and is not interrupted. -/
inductive Took (term : Nat) (h : Handle) : Course (Handle × Except DeployError Unit) → Prop where
  | held (now : Int) (hheld : h.lease.isHeldAt now = true) :
      Took term h ⟨[.looked now], .idle (h, .ok ())⟩
  | granted (now : Int) (hheld : h.lease.isHeldAt now = false) (reply : Lease.Reply)
      (lease : Lease) (hlease : Lease.ofReply h.id reply = .ok lease) :
      Took term h ⟨[.looked now], .answered (.acquire h.id (max (term / 1000) 1)) (.ok reply)
        ({ h with lease := lease }, .ok ())⟩
  | declined (now : Int) (hheld : h.lease.isHeldAt now = false) (reply : Lease.Reply)
      (e : DeployError) (hlease : Lease.ofReply h.id reply = .error e) :
      Took term h ⟨[.looked now], .answered (.acquire h.id (max (term / 1000) 1)) (.ok reply)
        (h, .error e)⟩
  | refused (now : Int) (hheld : h.lease.isHeldAt now = false) (e : ApiError) :
      Took term h ⟨[.looked now], .answered (.acquire h.id (max (term / 1000) 1)) (.error e)
        (h, .error (.lease h.id e.text))⟩
  | unanswered (now : Int) (hheld : h.lease.isHeldAt now = false) :
      Took term h ⟨[.looked now], .unanswered (.acquire h.id (max (term / 1000) 1))⟩

/-- An errand that takes a lease for a handle, by its courses. -/
def Taking (term : Nat) (h : Handle) (opening : List Step)
    (e : Errand (Handle × Except DeployError Unit)) : Prop :=
  ∀ fate, e.Fares fate → fate.reason? = none → h.Took term ⟨opening, fate⟩

/-- The errand that takes a lease takes one of its courses, unless it is interrupted. -/
theorem acquiring_taking (h : Handle) (term : Nat) (s : Session σ) :
    Run.Triple env (· = s) (h.acquiring term)
      ⟨fun e s' => ∃ opening, Opened s opening s' ∧ Taking term h opening e, fun _ _ => False⟩ := by
  refine Run.Triple.bind (Run.Triple.readClock_opened s) (fun now => ?_) (fun _ _ h => h)
  split
  · -- A lease that is held is enough.
    rename_i hheld
    refine Run.Triple.pure fun s' hs' => ⟨_, hs', fun fate hfate _ => ?_⟩
    cases hfate
    exact .held now hheld
  · rename_i hheld
    rw [Bool.not_eq_true] at hheld
    refine Run.Triple.pure fun s' hs' => ⟨_, hs', fun fate hfate hreason => ?_⟩
    cases hfate with
    -- What is interrupted is left out here.
    | skipped i => cases hreason
    | abandoned i => cases hreason
    | unanswered => exact .unanswered now hheld
    | answered o =>
      rcases o with e | reply
      · exact .refused now hheld e
      · -- A reply counts only if a lease can be read from it.
        cases hlease : Lease.ofReply h.id reply with
        | error e =>
          simp only [hlease]
          exact .declined now hheld reply e hlease
        | ok lease =>
          simp only [hlease]
          exact .granted now hheld reply lease hlease

end Handle

/-! ## Fleets -/

namespace Fleet

variable {f f' : Fleet}

/-- The courses of the errands that give up the leases of a fleet, and the handles that they
leave. They end if every call is answered. -/
theorem release_courses (f : Fleet) (s : Session σ) :
    Run.Triple env (· = s) (release f)
      ⟨fun x s' => ∃ ended new,
          Ran env (releaseBounds s) (Handle.Giving env s.now) f.members s ended new s' ∧
          List.Forall₂ (fun c h' => ∃ r, c.fate.result? = some (h', r)) (inPlace ended) x.1.members,
        fun e s' => e = .stuck ∧ ¬ env.Answers ∧ ∃ ended new,
          Ran env (releaseBounds s) (Handle.Giving env s.now) f.members s ended new s'⟩ := by
  refine Run.Triple.session_bind fun s₁ hs₁ => ?_
  subst hs₁
  refine Run.Triple.bind (R := ⟨fun results s' => ∃ ended new,
    Ran env (releaseBounds s₁) (Handle.Giving env s₁.now) f.members s₁ ended new s' ∧
      List.Forall₂ (fun c h' => ∃ r, c.fate.result? = some (h', r)) (inPlace ended)
        (ofResults results).members, _⟩)
    ((Run.Triple.together_courses f.members
      (fun h _ => Handle.releasing_giving h s₁.now) s₁).mono (fun _ hs => hs) ?_ ?_)
      (fun results => ?_) (fun _ _ h => h)
  · rintro results s' ⟨ended, new, hran, hresults⟩
    refine ⟨ended, new, hran, ?_⟩
    rw [ofResults, List.forall₂_map_right_iff]
    exact (forall₂_result? hresults).imp fun c x hx => ⟨x.2, hx⟩
  · rintro e s' ⟨rfl, hanswers, ended, new, hran, -⟩
    exact ⟨rfl, hanswers, ended, new, hran⟩
  · -- Whether a failure is told or not, the handles are the same.
    dsimp only
    split <;> exact Run.Triple.pure fun _ hs => hs

/-- The courses of the errands that take leases for all members of a fleet. -/
theorem acquire_courses (f : Fleet) (term : Nat) (s : Session σ) :
    Run.Triple env (· = s) (Run.together {} (f.members.map (·.acquiring term)))
      ⟨fun results s' => ∃ ended new, Ran env {} (Handle.Taking term) f.members s ended new s' ∧
          results.map (fun x => (x.1, some x.2)) = ended.map fun x => (x.1, x.2.fate.result?),
        fun e s' => e = .stuck ∧ ¬ env.Answers ∧ ∃ ended new,
          Ran env {} (Handle.Taking term) f.members s ended new s' ∧
          ∃ x ∈ ended, x.2.fate.result? = none⟩ :=
  Run.Triple.together_courses f.members (fun h _ => h.acquiring_taking term) s

end Fleet

end Rollout
