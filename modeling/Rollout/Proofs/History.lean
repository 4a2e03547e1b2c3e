import Mathlib.Data.List.Basic
import Rollout.Proofs.Triple

/-!
# Histories

The past of a session only grows, so a moment of a run is a suffix of what its past is in the end.
This module says what lies between two moments: which calls were made (`CallsSince`), what was
seen, in which order (`Seen`), and which calls a program makes at most (`Run.Calls`).

## Main statements

- `CallsSince.trans`: what holds of the calls up to a moment and from it on holds of all of them.
- `Seen.trans`: what was seen up to a moment and from it on was seen in this order.
- `Run.Calls.bind`: the calls of two programs, one after the other, are those of either.
-/

namespace Rollout

variable {σ τ ρ α β : Type} {env : Environment σ}

/-! ## Calls since a moment -/

/-- The call that a step makes. -/
def Step.call? : Step → Option Call
  | .asked c _ => some c
  | _ => none

/-- A past goes on from a moment, and every call that was made since then satisfies a condition on
what came before it. -/
structure CallsSince (base past : List Step) (φ : List Step → Call → Prop) : Prop where
  suffix : base <:+ past
  holds : ∀ c time before, (.asked c time :: before) <:+ past → base <:+ before → φ before c

namespace CallsSince

variable {base mid past : List Step} {φ ψ : List Step → Call → Prop}

/-- No call was made since just now. -/
theorem refl : CallsSince base base φ := by
  refine ⟨List.suffix_rfl, fun c time before hpast hbase => ?_⟩
  -- A past with one more call is too long to be there.
  have h₁ := hpast.length_le
  have h₂ := hbase.length_le
  simp only [List.length_cons] at h₁
  omega

/-- One more step: its call, if it makes one, has to satisfy the condition. -/
theorem cons (h : CallsSince base past φ) {step : Step}
    (hstep : ∀ c, step.call? = some c → φ past c) : CallsSince base (step :: past) φ := by
  refine ⟨h.suffix.trans (List.suffix_cons step past), fun c time before hpast hbase => ?_⟩
  -- A call is the one of this step, or an earlier one.
  rcases List.suffix_cons_iff.mp hpast with heq | hpast
  · obtain ⟨rfl, rfl⟩ := List.cons.inj heq
    exact hstep c rfl
  · exact h.holds c time before hpast hbase

/-- One more call. -/
theorem asked (h : CallsSince base past φ) {c : Call} (time : Nat) (hc : φ past c) :
    CallsSince base (.asked c time :: past) φ :=
  h.cons fun _ heq => Option.some.inj heq ▸ hc

/-- A step that makes no call does not count. -/
theorem skip (h : CallsSince base past φ) {step : Step} (hstep : step.call? = none) :
    CallsSince base (step :: past) φ := by
  refine h.cons fun c hc => ?_
  rw [hstep] at hc
  cases hc

/-- A condition on the calls may be weakened by what is known of the past before each. -/
theorem mono (h : CallsSince base past φ)
    (hφ : ∀ before c, base <:+ before → before <:+ past → φ before c → ψ before c) :
    CallsSince base past ψ := by
  refine ⟨h.suffix, fun c time before hpast hbase => ?_⟩
  exact hφ before c hbase ((List.suffix_cons _ _).trans hpast) (h.holds c time before hpast hbase)

/-- What holds of all calls holds of those up to a moment. -/
theorem earlier (h : CallsSince base past φ) (hmid : mid <:+ past) (hbase : base <:+ mid) :
    CallsSince base mid φ :=
  ⟨hbase, fun c time before hpast => h.holds c time before (hpast.trans hmid)⟩

/-- What holds of the calls up to a moment and from it on holds of all of them. -/
theorem trans (h₁ : CallsSince base mid φ) (h₂ : CallsSince mid past φ) :
    CallsSince base past φ := by
  refine ⟨h₁.suffix.trans h₂.suffix, fun c time before hpast hbase => ?_⟩
  -- The call was made before the middle moment, right at it, or later.
  rcases List.suffix_or_suffix_of_suffix hpast h₂.suffix with h | h
  · exact h₁.holds c time before h hbase
  · rcases List.suffix_cons_iff.mp h with rfl | h
    · exact h₁.holds c time before List.suffix_rfl hbase
    · exact h₂.holds c time before hpast h

/-- What holds of every call from a moment on. -/
theorem extend (h : CallsSince base mid φ) (hpast : mid <:+ past)
    (hφ : ∀ before c, mid <:+ before → φ before c) : CallsSince base past φ :=
  h.trans ⟨hpast, fun c _ before _ hbefore => hφ before c hbefore⟩

end CallsSince

/-! ## What was seen -/

/-- Some steps happened since a moment, in this order, the latest first. -/
def Seen (base : List Step) (steps past : List Step) : Prop :=
  ∃ new, past = new ++ base ∧ steps.Sublist new

namespace Seen

variable {base mid past past' steps steps' : List Step}

/-- Nothing has to be seen in no time. -/
theorem nil : Seen base [] base := ⟨[], rfl, List.Sublist.slnil⟩

/-- A step may go unseen. -/
theorem cons (h : Seen base steps past) (step : Step) : Seen base steps (step :: past) := by
  obtain ⟨new, rfl, hnew⟩ := h
  exact ⟨step :: new, rfl, hnew.cons step⟩

/-- A step may be the next one that is seen. -/
theorem take (h : Seen base steps past) (step : Step) :
    Seen base (step :: steps) (step :: past) := by
  obtain ⟨new, rfl, hnew⟩ := h
  exact ⟨step :: new, rfl, hnew.cons_cons step⟩

/-- What was seen up to a moment and from it on was seen in this order. -/
theorem trans (h : Seen base steps mid) (h' : Seen mid steps' past) :
    Seen base (steps' ++ steps) past := by
  obtain ⟨new, rfl, hnew⟩ := h
  obtain ⟨new', rfl, hnew'⟩ := h'
  exact ⟨new' ++ new, (List.append_assoc new' new base).symm, hnew'.append hnew⟩

/-- Where time has passed, nothing need have been seen. -/
theorem of_suffix (h : base <:+ past) : Seen base [] past := by
  obtain ⟨new, rfl⟩ := h
  exact ⟨new, rfl, List.nil_sublist new⟩

/-- What was seen stays seen. -/
theorem later (h : Seen base steps past) (hpast : past <:+ past') : Seen base steps past' :=
  h.trans (of_suffix hpast)

/-- What was seen before a moment was seen since an earlier one. -/
theorem since_earlier (h : Seen mid steps past) (hbase : base <:+ mid) : Seen base steps past := by
  have h := (of_suffix hbase).trans h
  rwa [List.append_nil] at h

end Seen

/-! ## The calls a program makes -/

/-- Whether a step is about a call of a kind, or about none. Dropping a lease is about the call
that it saves. -/
def Step.Within (φ : Call → Prop) : Step → Prop
  | .asked c _ | .answered c _ => φ c
  | .dropped id nonce => φ (.release id nonce)
  | .looked _ | .reported .. => True

/-- A step that is about a call of a kind is about one of a wider kind. -/
theorem Step.Within.mono {φ ψ : Call → Prop} (h : ∀ c, φ c → ψ c) {step : Step}
    (hstep : step.Within φ) : step.Within ψ := by
  cases step with
  | asked c _ => exact h c hstep
  | answered c _ => exact h c hstep
  | dropped id nonce => exact h _ hstep
  | _ => trivial

/-- All that happened from one moment to another is about calls of a kind. -/
def Adds (φ : Call → Prop) (p p' : List Step) : Prop :=
  ∃ new, p' = new ++ p ∧ ∀ step ∈ new, step.Within φ

namespace Adds

variable {φ ψ : Call → Prop} {p p' p'' : List Step}

/-- Nothing happened since just now. -/
theorem refl : Adds φ p p := ⟨[], rfl, by simp⟩

/-- One more step of the kind. -/
theorem cons (h : Adds φ p p') {step : Step} (hstep : step.Within φ) : Adds φ p (step :: p') := by
  obtain ⟨new, rfl, hnew⟩ := h
  exact ⟨step :: new, rfl, List.forall_mem_cons.mpr ⟨hstep, hnew⟩⟩

/-- One more call of the kind. -/
theorem asked (h : Adds φ p p') {c : Call} {time : Nat} (hc : φ c) :
    Adds φ p (.asked c time :: p') :=
  h.cons hc

/-- One more answer to a call of the kind. -/
theorem answered (h : Adds φ p p') {c : Call} {o : c.Outcome} (hc : φ c) :
    Adds φ p (.answered c o :: p') :=
  h.cons hc

/-- What happened up to a past happened up to one that is equal to it. -/
theorem of_eq (h : Adds φ p p') (hpast : p'' = p') : Adds φ p p'' := hpast ▸ h

/-- What happened up to a moment and from it on is all that happened. -/
theorem trans (h : Adds φ p p') (h' : Adds φ p' p'') : Adds φ p p'' := by
  obtain ⟨new, rfl, hnew⟩ := h
  obtain ⟨new', rfl, hnew'⟩ := h'
  refine ⟨new' ++ new, (List.append_assoc new' new p).symm, fun step hstep => ?_⟩
  rcases List.mem_append.mp hstep with h | h
  · exact hnew' step h
  · exact hnew step h

/-- What is about calls of a kind is about those of a wider kind. -/
theorem mono (h : Adds φ p p') (hφ : ∀ c, φ c → ψ c) : Adds ψ p p' := by
  obtain ⟨new, rfl, hnew⟩ := h
  exact ⟨new, rfl, fun step hstep => (hnew step hstep).mono hφ⟩

/-- The past has only grown. -/
theorem suffix (h : Adds φ p p') : p <:+ p' := by
  obtain ⟨new, rfl, -⟩ := h
  exact List.suffix_append new p

/-- If all that happened is about calls of a kind, every call since then is of it. -/
theorem callsSince (h : Adds φ p p') : CallsSince p p' fun _ c => φ c := by
  obtain ⟨new, rfl, hnew⟩ := h
  -- By induction on what was added: the first step of it is the latest.
  induction new with
  | nil => exact CallsSince.refl
  | cons step new ih =>
    rw [List.forall_mem_cons] at hnew
    refine (ih hnew.2).cons fun c hc => ?_
    cases step with
    | asked c' time =>
      obtain rfl := Option.some.inj hc
      exact hnew.1
    | _ => cases hc

end Adds

/-- A program makes no calls but those of a kind. -/
def Run.Calls (x : Run σ α) (φ : Call → Prop) : Prop :=
  ∀ env s, Adds φ s.past (x env s).2.past

namespace Run.Calls

variable {φ ψ : Call → Prop} {x : Run σ α} {f : α → Run σ β}

/-- A program that makes calls of a kind only makes those of a wider kind only. -/
theorem mono (h : x.Calls φ) (hφ : ∀ c, φ c → ψ c) : x.Calls ψ :=
  fun env s => (h env s).mono hφ

/-- A program that gives a result makes no call. -/
theorem pure (a : α) : (Pure.pure a : Run σ α).Calls φ := fun _ _ => Adds.refl

/-- The calls of two programs, one after the other, are those of either. -/
theorem bind (hx : x.Calls φ) (hf : ∀ a, (f a).Calls φ) : (x >>= f).Calls φ := by
  intro env s
  have h := hx env s
  rw [bind_run]
  revert h
  -- Without a result the second program makes no call.
  rcases x env s with ⟨a | _ | _, s'⟩
  · exact fun h => h.trans (hf a env s')
  · exact id
  · exact id

/-- Reading the clock makes no call. -/
theorem readClock : (Run.readClock : Run σ Int).Calls φ := fun _ _ => Adds.refl.cons trivial

/-- A report makes no call. -/
theorem report (r : Reporter) (message : String) :
    (Run.report r message : Run σ Unit).Calls φ :=
  fun _ _ => Adds.refl.cons trivial

/-- To drop a lease makes no call, but it counts as about the call that it saves. -/
theorem drop {machine nonce : String} (h : φ (.release machine nonce)) :
    (Run.drop machine nonce : Run σ Unit).Calls φ :=
  fun _ _ => Adds.refl.cons h

/-- The calls of a program as a triple: all that happens in it is about them. -/
theorem triple (h : x.Calls φ) {P : Session σ → Prop} :
    Run.Triple env P x
      ⟨fun _ s' => ∃ s, P s ∧ Adds φ s.past s'.past,
        fun _ s' => ∃ s, P s ∧ Adds φ s.past s'.past⟩ := by
  intro s hs
  have h := h env s
  revert h
  rcases x env s with ⟨_ | _ | _, s'⟩ <;> exact fun h => ⟨s, hs, h⟩

/-- The calls of a program from a past on. -/
theorem triple_at (h : x.Calls φ) (p : List Step) :
    Run.Triple env (·.past = p) x ⟨fun _ s => Adds φ p s.past, fun _ s => Adds φ p s.past⟩ := by
  refine h.triple.mono (fun _ hs => hs) ?_ ?_
  · rintro a s ⟨_, rfl, hadds⟩
    exact hadds
  · rintro e s ⟨_, rfl, hadds⟩
    exact hadds

/-- A program whose triple allows it to add calls of a kind only makes no others. -/
theorem of_triple (h : ∀ (env : Environment σ) p, Run.Triple env (·.past = p) x
    ⟨fun _ s => Adds φ p s.past, fun _ s => Adds φ p s.past⟩) : x.Calls φ := by
  intro env s
  have h := h env s.past s rfl
  revert h
  rcases x env s with ⟨_ | _ | _, s'⟩ <;> exact id

end Run.Calls

/-- Work makes no calls but those of a kind, whatever value it is on. -/
def Work.Calls (x : Work σ τ α) (φ : Call → Prop) : Prop := ∀ t, (x t).Calls φ

namespace Work.Calls

variable {φ ψ : Call → Prop} {x : Work σ τ α} {f : α → Work σ τ β}

/-- Work that makes calls of a kind only makes those of a wider kind only. -/
theorem mono (h : x.Calls φ) (hφ : ∀ c, φ c → ψ c) : x.Calls ψ := fun t => (h t).mono hφ

/-- Work that gives a result makes no call. -/
theorem pure (a : α) : (Pure.pure a : Work σ τ α).Calls φ := fun _ => Run.Calls.pure _

/-- The calls of work after work are those of either. -/
theorem bind (hx : x.Calls φ) (hf : ∀ a, (f a).Calls φ) : (x >>= f).Calls φ := by
  refine fun t => (hx t).bind ?_
  rintro ⟨t', e | a⟩
  · exact Run.Calls.pure _
  · exact hf a t'

/-- Work that fails makes no call. -/
theorem fail (e : DeployError) : (Work.fail e : Work σ τ α).Calls φ := fun _ => Run.Calls.pure _

/-- Work that is decided already makes no call. -/
theorem ofExcept (r : Except DeployError α) : (Work.ofExcept r : Work σ τ α).Calls φ := by
  cases r with
  | ok a => exact pure a
  | error e => exact fail e

/-- A program makes the same calls as work. -/
theorem lift {y : Run σ α} (h : y.Calls φ) : (Work.lift y : Work σ τ α).Calls φ :=
  fun _ => h.bind fun _ => Run.Calls.pure _

/-- Looking at the value makes no call. -/
theorem value : (Work.value : Work σ τ τ).Calls φ := fun _ => Run.Calls.pure _

/-- Changing the value makes no call. -/
theorem change (g : τ → τ) : (Work.change g : Work σ τ Unit).Calls φ := fun _ => Run.Calls.pure _

/-- An attempt makes the calls of the work. -/
theorem attempt (h : x.Calls φ) : x.attempt.Calls φ :=
  fun t => (h t).bind fun _ => Run.Calls.pure _

/-- The words of a failure make no call. -/
theorem mapError {g : DeployError → DeployError} (h : x.Calls φ) : (x.mapError g).Calls φ :=
  fun t => (h t).bind fun _ => Run.Calls.pure _

/-- Work on a part of a value makes the same calls as work on the whole. -/
theorem within {part : τ → ρ} {put : τ → ρ → τ} {y : Work σ ρ α} (h : y.Calls φ) :
    (Work.within part put y).Calls φ :=
  fun t => (h (part t)).bind fun _ => Run.Calls.pure _

end Work.Calls

end Rollout
