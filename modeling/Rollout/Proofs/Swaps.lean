import Rollout.Proofs.Deployment
import Rollout.Proofs.GivingUp

/-!
# Machines that are swapped

A machine that can't be updated is destroyed, and another is launched in its stead. These are two
calls, either of which may fail, so there are three ways for a place of the fleet to end: with the
machine it had, with its successor, or with a machine that is destroyed and has no successor.

This module says what becomes of the places of a fleet, one after the other, and which launches and
destructions go with it. Whatever becomes of them, no place is destroyed twice, and at no moment
more machines have been launched than were destroyed before.

## Main statements

- `Successions.destroyedIn_sublist`: every place is destroyed once at most.
- `Successions.covered`: every launch is covered by a destruction before it.
- `Successions.released`: what becomes of the leases does not matter.
-/

namespace Rollout

/-! ## Launches and destructions -/

/-- Whether a call launches or destroys a machine. -/
def Call.isSwap : Call → Bool
  | .launch _ | .destroy .. => true
  | _ => false

/-- Whether something happened in the launch or the destruction of a machine. -/
def Step.isSwap : Step → Bool
  | .asked c _ | .answered c _ => c.isSwap
  | _ => false

/-- Whether a machine was launched, as far as it was asked for. -/
def Step.isLaunch : Step → Bool
  | .asked (.launch _) _ => true
  | _ => false

/-- Whether it was answered that a machine is destroyed. -/
def Step.isDestruction : Step → Bool
  | .answered (.destroy _ _) (.ok _) => true
  | _ => false

/-- The machine whose destruction a step asks for. -/
def Step.destroyed? : Step → Option String
  | .asked (.destroy id _) _ => some id
  | _ => none

/-- The machines whose destruction was asked for. -/
def destroyedIn (steps : List Step) : List String := steps.filterMap Step.destroyed?

/-- The launches and destructions from one moment to another. -/
def Swaps (swaps p p' : List Step) : Prop :=
  ∃ new, p' = new ++ p ∧ new.filter Step.isSwap = swaps

namespace Swaps

variable {swaps swaps' p p' p'' : List Step} {step : Step}

/-- From a moment to itself nothing is swapped. -/
theorem refl : Swaps [] p p := ⟨[], rfl, rfl⟩

/-- What is swapped in two stretches is swapped in both together, the later first. -/
theorem trans (h : Swaps swaps p p') (h' : Swaps swaps' p' p'') :
    Swaps (swaps' ++ swaps) p p'' := by
  obtain ⟨new, rfl, rfl⟩ := h
  obtain ⟨new', rfl, rfl⟩ := h'
  exact ⟨new' ++ new, (List.append_assoc new' new p).symm, List.filter_append new' new⟩

/-- A step of a swap adds to what was swapped. -/
theorem take (h : Swaps swaps p p') (hstep : step.isSwap = true) :
    Swaps (step :: swaps) p (step :: p') := by
  obtain ⟨new, rfl, rfl⟩ := h
  exact ⟨step :: new, rfl, List.filter_cons_of_pos hstep⟩

/-- Any other step does not. -/
theorem skip (h : Swaps swaps p p') (hstep : step.isSwap = false) :
    Swaps swaps p (step :: p') := by
  obtain ⟨new, rfl, rfl⟩ := h
  exact ⟨step :: new, rfl, List.filter_cons_of_neg (by simp [hstep])⟩

/-- Where nothing is launched or destroyed, nothing is swapped. -/
theorem of_adds {φ : Call → Prop} (h : Adds φ p p') (hφ : ∀ c, φ c → c.isSwap = false) :
    Swaps [] p p' := by
  obtain ⟨new, rfl, hnew⟩ := h
  refine ⟨new, rfl, List.filter_eq_nil_iff.mpr fun step hstep => ?_⟩
  have hwithin := hnew step hstep
  -- A step is a call, its answer, or neither.
  cases step with
  | asked c time => simp [Step.isSwap, hφ c hwithin]
  | answered c o => simp [Step.isSwap, hφ c hwithin]
  | _ => simp [Step.isSwap]

/-- What is swapped after a moment at which nothing was is swapped from the start. -/
theorem after (h : Swaps [] p p') (h' : Swaps swaps p' p'') : Swaps swaps p p'' := by
  have htrans := h.trans h'
  rwa [List.append_nil] at htrans

/-- What is swapped before a moment after which nothing is, is swapped in all. -/
theorem before (h : Swaps swaps p p') (h' : Swaps [] p' p'') : Swaps swaps p p'' := h.trans h'

end Swaps

/-! ## Successions -/

/-- How a call may fail to be met: it is not made, not answered, or refused. -/
inductive Unmet (c : Call) : List Step → Prop where
  | unasked : Unmet c []
  | unanswered (time : Nat) : Unmet c [.asked c time]
  | refused (e : ApiError) (time : Nat) : Unmet c [.answered c (.error e), .asked c time]

/-- A call that was met. -/
def metBy (c : Call) (reply : c.Reply) (time : Nat) : List Step :=
  [.answered c (.ok reply), .asked c time]

/-- What becomes of the place of a machine, and what is launched and destroyed for it, the latest
first. The machine stays unless it is destroyed. If it is, what its resolver asks for is launched
as a new machine; until that succeeds, the place keeps the machine that is gone, without a lease. -/
inductive Succession (r : Resolver) (m : Machine) : Handle → List Step → Prop where
  | kept {h : Handle} {nonce : String} {turn : List Step} (hid : h.id = m.id)
      (hturn : Unmet (.destroy m.id nonce) turn) : Succession r m h turn
  | lost {input : LaunchInput} {nonce : String} {time : Nat} {turn : List Step}
      (hinput : (r.resolve m).2 = .ok input) (hreplaces : input.requiresReplacement = true)
      (hturn : Unmet (.launch { input with id := none }) turn) :
      Succession r m { machine := { m with state := .destroyed }, lease := {} }
        (turn ++ metBy (.destroy m.id nonce) () time)
  | replaced {h : Handle} {input : LaunchInput} {nonce : String} {time time' : Nat}
      {machine : Machine} (hinput : (r.resolve m).2 = .ok input)
      (hreplaces : input.requiresReplacement = true) (hid : h.id = machine.id) :
      Succession r m h (metBy (.launch { input with id := none }) machine time' ++
        metBy (.destroy m.id nonce) () time)

/-- The successions of machines, one after the other. Each request is resolved with the volumes that
the requests before it have left. -/
inductive Successions : Resolver → List Machine → List Handle → List (List Step) → Prop where
  | nil (r : Resolver) : Successions r [] [] []
  | cons {r : Resolver} {m : Machine} {h : Handle} {turn : List Step} {machines : List Machine}
      {members : List Handle} {turns : List (List Step)} (hfirst : Succession r m h turn)
      (hrest : Successions (r.resolve m).1 machines members turns) :
      Successions r (m :: machines) (h :: members) (turn :: turns)

variable {r : Resolver} {m : Machine} {h h' : Handle} {turn : List Step} {machines : List Machine}
variable {members members' : List Handle} {turns : List (List Step)}

/-- A machine that nothing is asked of is kept. -/
theorem Succession.idle (hid : h.id = m.id) : Succession r m h [] := by
  have hturn : Unmet (.destroy m.id "") [] := .unasked
  exact .kept hid hturn

/-- A handle without its lease, or as it is, is as good. -/
theorem Succession.released (h₀ : Succession r m h turn)
    (hh' : h' = { h with lease := {} } ∨ h' = h) : Succession r m h' turn := by
  have hid : h'.id = h.id := by
    obtain rfl | rfl := hh'
    · rfl
    · rfl
  cases h₀ with
  | kept hkept hturn => exact .kept (hid.trans hkept) hturn
  -- A machine that is gone has no lease to begin with.
  | lost hinput hreplaces hturn =>
    obtain rfl | rfl := hh'
    · exact .lost hinput hreplaces hturn
    · exact .lost hinput hreplaces hturn
  | replaced hinput hreplaces hnew => exact .replaced hinput hreplaces (hid.trans hnew)

namespace Successions

/-- Every machine has one place. -/
theorem length_eq (h : Successions r machines members turns) :
    members.length = machines.length := by
  induction h with
  | nil => rfl
  | cons _ _ ih => rw [List.length_cons, List.length_cons, ih]

/-- Machines that are left alone are kept. -/
theorem untouched (r : Resolver) (members : List Handle) :
    Successions r (members.map (·.machine)) members (members.map fun _ => []) := by
  -- By induction on the members, the resolver going on from each.
  induction members generalizing r with
  | nil => exact .nil r
  | cons h members ih => exact .cons (.idle rfl) (ih _)

/-- What becomes of the leases does not matter. -/
theorem released (h : Successions r machines members turns)
    (hrelease : List.Forall₂ (fun h h' => h' = { h with lease := {} } ∨ h' = h) members members') :
    Successions r machines members' turns := by
  induction h generalizing members' with
  | nil =>
    cases hrelease
    exact .nil _
  | cons hfirst _ ih =>
    cases hrelease with
    | cons hleased hrest => exact .cons (hfirst.released hleased) (ih hrest)

end Successions

/-! ## At most one destruction -/

/-- The destructions of two stretches are those of both. -/
theorem destroyedIn_append (steps steps' : List Step) :
    destroyedIn (steps ++ steps') = destroyedIn steps ++ destroyedIn steps' :=
  List.filterMap_append

/-- Only what is launched or destroyed tells which machines are destroyed. -/
theorem destroyedIn_filter (steps : List Step) :
    destroyedIn (steps.filter Step.isSwap) = destroyedIn steps := by
  unfold destroyedIn
  rw [List.filterMap_filter]
  congr 1
  funext step
  cases step with
  -- Only a call can ask for a destruction, and it is a swap then.
  | asked c time => cases c <;> rfl
  | answered c o =>
    split
    · rfl
    · rfl
  | _ => rfl

/-- In a place no machine is destroyed but its own, and that once at most. -/
theorem Succession.destroyedIn_sublist (h₀ : Succession r m h turn) :
    (destroyedIn turn).Sublist [m.id] := by
  cases h₀ with
  | kept hid hturn =>
    cases hturn with
    | unasked => exact List.nil_sublist _
    | unanswered => exact List.Sublist.refl _
    | refused => exact List.Sublist.refl _
  | lost hinput hreplaces hturn =>
    cases hturn with
    | unasked => exact List.Sublist.refl _
    | unanswered => exact List.Sublist.refl _
    | refused => exact List.Sublist.refl _
  | replaced => exact List.Sublist.refl _

/-- Every place is destroyed once at most, and in the order of the places. -/
theorem Successions.destroyedIn_sublist (h : Successions r machines members turns) :
    (destroyedIn turns.reverse.flatten).Sublist (machines.map (·.id)).reverse := by
  induction h with
  | nil => exact List.Sublist.slnil
  | cons hfirst _ ih =>
    simp only [List.reverse_cons, List.flatten_append, List.flatten_singleton, List.map_cons,
      destroyedIn_append]
    -- The first place comes last, as the latest steps come first.
    exact ih.append hfirst.destroyedIn_sublist

/-! ## Launches and what covers them -/

/-- Whether at every moment in some steps no more machines were launched than were destroyed
before. -/
def Covered (steps : List Step) : Prop :=
  ∀ part, part <:+ steps → part.countP Step.isLaunch ≤ part.countP Step.isDestruction

/-- Where there are no steps there is no launch. -/
theorem Covered.nil : Covered [] := by
  intro part hpart
  rw [List.suffix_nil.mp hpart]
  exact Nat.le_refl _

/-- Steps that are covered each on their own are covered together. -/
theorem Covered.append {steps steps' : List Step} (h : Covered steps) (h' : Covered steps') :
    Covered (steps ++ steps') := by
  intro part hpart
  -- The moment comes among the earlier steps, or all of these are over.
  rcases List.suffix_or_suffix_of_suffix hpart (List.suffix_append steps steps') with hp | hp
  · exact h' part hp
  · obtain ⟨first, rfl⟩ := hp
    have hfirst : first <:+ steps := by
      obtain ⟨rest, hrest⟩ := hpart
      rw [← List.append_assoc] at hrest
      exact ⟨rest, List.append_cancel_right hrest⟩
    have hlater := h first hfirst
    have hearlier := h' steps' List.suffix_rfl
    rw [List.countP_append, List.countP_append]
    omega

/-- Another step is covered if it is so at the end. -/
theorem Covered.cons {steps : List Step} {step : Step} (h : Covered steps)
    (hstep : (step :: steps).countP Step.isLaunch ≤ (step :: steps).countP Step.isDestruction) :
    Covered (step :: steps) := by
  intro part hpart
  rcases List.suffix_cons_iff.mp hpart with rfl | hpart
  · exact hstep
  · exact h part hpart

/-- Only what is launched or destroyed matters. -/
theorem Covered.of_filter {steps : List Step} (h : Covered (steps.filter Step.isSwap)) :
    Covered steps := by
  -- Launches and destructions are among the swaps.
  have hlaunch : ∀ step : Step, (step.isLaunch && step.isSwap) = step.isLaunch := by
    intro step
    unfold Step.isLaunch
    split <;> rfl
  have hdestruction : ∀ step : Step, (step.isDestruction && step.isSwap) = step.isDestruction := by
    intro step
    unfold Step.isDestruction
    split <;> rfl
  intro part hpart
  have hpart' := h _ (hpart.filter Step.isSwap)
  simp only [List.countP_filter, hlaunch, hdestruction] at hpart'
  exact hpart'

/-- In a place the launch comes after the destruction that covers it. -/
theorem Succession.covered (h₀ : Succession r m h turn) : Covered turn := by
  -- A destruction that is answered covers one launch.
  have hdestroyed : ∀ nonce time, Covered (metBy (.destroy m.id nonce) () time) := by
    intro nonce time
    exact (Covered.nil.cons (Nat.zero_le _)).cons (Nat.zero_le _)
  have hasked : ∀ input nonce time time',
      Covered (.asked (.launch input) time' :: metBy (.destroy m.id nonce) () time) := by
    intro input nonce time time'
    exact (hdestroyed nonce time).cons (Nat.le_refl 1)
  cases h₀ with
  | kept hid hturn =>
    cases hturn with
    | unasked => exact .nil
    | unanswered => exact Covered.nil.cons (Nat.zero_le _)
    | refused => exact (Covered.nil.cons (Nat.zero_le _)).cons (Nat.zero_le _)
  | lost hinput hreplaces hturn =>
    cases hturn with
    | unasked => exact hdestroyed _ _
    | unanswered => exact hasked _ _ _ _
    | refused => exact (hasked _ _ _ _).cons (Nat.le_refl 1)
  | replaced => exact (hasked _ _ _ _).cons (Nat.le_refl 1)

/-- So it is in all places, one after the other. -/
theorem Successions.covered (h : Successions r machines members turns) :
    Covered turns.reverse.flatten := by
  induction h with
  | nil => exact Covered.nil
  | cons hfirst _ ih =>
    simp only [List.reverse_cons, List.flatten_append, List.flatten_singleton]
    exact ih.append hfirst.covered

end Rollout
