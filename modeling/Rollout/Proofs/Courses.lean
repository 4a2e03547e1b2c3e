import Rollout.Proofs.Fanout
import Rollout.Proofs.Waits

/-!
# The courses of errands side by side

What becomes of each errand when several are run side by side, and what this leaves in the past:
the calls in the order of the places, the answers in the order in which the errands ended. Every
errand ends unless a call is never answered, and it is interrupted only by what is in force.

## Main statements

- `Run.Triple.together_courses`: the courses of errands that are run side by side.
-/

namespace Rollout

variable {σ κ α : Type} {env : Environment σ} {b : Bounds}

/-! ## What is read off a past -/

/-- Whether a step is the answer to a call. -/
def Step.isAnswer : Step → Bool
  | .answered .. => true
  | _ => false

/-- Whether a step is neither a call nor an answer. -/
def Step.isAside (step : Step) : Bool := step.call?.isNone && !step.isAnswer

/-- The calls among steps, the earliest first. -/
def callsIn (steps : List Step) : List Call := (steps.filterMap Step.call?).reverse

/-- The answers among steps, the earliest first. -/
def answersIn (steps : List Step) : List Step := (steps.filter Step.isAnswer).reverse

/-- The steps that are neither calls nor answers, the earliest first. -/
def asidesIn (steps : List Step) : List Step := (steps.filter Step.isAside).reverse

section Reading

variable {later earlier steps : List Step}

@[simp] theorem callsIn_append : callsIn (later ++ earlier) = callsIn earlier ++ callsIn later := by
  simp [callsIn, List.filterMap_append]

@[simp] theorem answersIn_append :
    answersIn (later ++ earlier) = answersIn earlier ++ answersIn later := by
  simp [answersIn, List.filter_append]

@[simp] theorem asidesIn_append :
    asidesIn (later ++ earlier) = asidesIn earlier ++ asidesIn later := by
  simp [asidesIn, List.filter_append]

/-- What happened aside holds no call. -/
theorem callsIn_of_asides (h : ∀ step ∈ steps, step.isAside = true) : callsIn steps = [] := by
  rw [callsIn, List.reverse_eq_nil_iff, List.filterMap_eq_nil_iff]
  intro step hstep
  have hstep := h step hstep
  rw [Step.isAside, Bool.and_eq_true, Option.isNone_iff_eq_none] at hstep
  exact hstep.1

/-- Nor does it hold an answer. -/
theorem answersIn_of_asides (h : ∀ step ∈ steps, step.isAside = true) : answersIn steps = [] := by
  rw [answersIn, List.reverse_eq_nil_iff, List.filter_eq_nil_iff]
  intro step hstep
  have hstep := h step hstep
  rw [Step.isAside, Bool.and_eq_true, Bool.not_eq_true'] at hstep
  rw [hstep.2]
  exact Bool.false_ne_true

/-- It is all there is aside. -/
theorem asidesIn_of_asides (h : ∀ step ∈ steps, step.isAside = true) :
    asidesIn steps = steps.reverse := by
  rw [asidesIn, List.filter_eq_self.mpr h]

end Reading

/-! ## Courses -/

/-- What becomes of an errand. -/
inductive Fate (α : Type) where
  /-- There was nothing to ask. -/
  | idle (a : α)
  /-- An interruption was in force before the call was made. -/
  | skipped (call : Call) (reason : Interruption) (a : α)
  /-- The call was answered. -/
  | answered (call : Call) (outcome : call.Outcome) (a : α)
  /-- The wait for the answer was cut short. -/
  | abandoned (call : Call) (reason : Interruption) (a : α)
  /-- The call has no answer. -/
  | unanswered (call : Call)

namespace Fate

/-- The result, none as long as the call has no answer. -/
def result? : Fate α → Option α
  | idle a | skipped _ _ a | answered _ _ a | abandoned _ _ a => some a
  | unanswered _ => none

/-- The call that was made. -/
def call? : Fate α → Option Call
  | answered c _ _ | abandoned c _ _ | unanswered c => some c
  | idle _ | skipped .. => none

/-- The answer that was taken. -/
def answer? : Fate α → Option Step
  | answered c o _ => some (.answered c o)
  | _ => none

/-- What kept the answer away. -/
def reason? : Fate α → Option Interruption
  | skipped _ i _ | abandoned _ i _ => some i
  | _ => none

/-- Whether the call was not made though there was one to make. -/
def isSkipped : Fate α → Bool
  | skipped .. => true
  | _ => false

/-- Whether the wait for the answer ran out of time after the call was made. -/
def isCutOff : Fate α → Bool
  | abandoned _ .timedOut _ => true
  | _ => false

/-- A call is cut off if it was made and the time ran out on its answer. -/
theorem isCutOff_iff {fate : Fate α} :
    fate.isCutOff = true ↔ fate.reason? = some .timedOut ∧ fate.isSkipped = false := by
  cases fate with
  | abandoned c i a => cases i <;> simp [isCutOff, reason?, isSkipped]
  | _ => simp [isCutOff, reason?, isSkipped]

/-- What was met by nothing was not skipped. -/
theorem isSkipped_eq_false {fate : Fate α} (h : fate.reason? = none) : fate.isSkipped = false := by
  cases fate with
  | skipped c i a => cases h
  | _ => rfl

end Fate

namespace Errand

/-- The fates that an errand may have. -/
inductive Fares : Errand α → Fate α → Prop where
  | idle (a : α) : Fares (.done a) (.idle a)
  | skipped {call resume} (i : Interruption) :
      Fares (.ask call resume) (.skipped call i (resume (.error i)))
  | answered {call resume} (o : call.Outcome) :
      Fares (.ask call resume) (.answered call o (resume (.ok o)))
  | abandoned {call resume} (i : Interruption) :
      Fares (.ask call resume) (.abandoned call i (resume (.error i)))
  | unanswered {call resume} : Fares (.ask call resume) (.unanswered call)

/-- Whether the call of an errand, made at a time, does not cancel the deployment. -/
def Spares (env : Environment σ) (now : Nat) : Errand α → Prop
  | .done _ => True
  | .ask c _ => ∀ st, (env.receive c now st).cancels = false

end Errand

/-- The course of an errand: what happened before its call, the latest first, and its fate. -/
structure Course (α : Type) where
  opening : List Step
  fate : Fate α

/-- Whether a course is one of an errand that may be put so. -/
def Course.Of (Opens : List Step → Errand α → Prop) (c : Course α) : Prop :=
  ∃ e, Opens c.opening e ∧ e.Fares c.fate

/-- What errands that are run side by side leave in a past. The courses are in the order in which
they ended, each with the place of its errand: the calls are made in the order of the places, and
the answers are taken in the order of the ends. -/
structure Fanned (ended : List (Nat × Course α)) (n : Nat) (new : List Step) : Prop where
  places : (ended.map (·.1)).Perm (List.range n)
  asides : asidesIn new = (inPlace ended).flatMap (·.opening.reverse)
  calls : callsIn new = (inPlace ended).filterMap (·.fate.call?)
  answers : answersIn new = ended.filterMap (·.2.fate.answer?)

/-- Whether an errand was put in a session with neither a call nor a wait. -/
structure Opened (s : Session σ) (opening : List Step) (s' : Session σ) : Prop where
  past : s'.past = opening ++ s.past
  asides : ∀ step ∈ opening, step.isAside = true
  now : s'.now = s.now
  cancelAt : s'.cancelAt = s.cancelAt

/-! ## The calls -/

/-- How an errand stands that had such a fate so far. -/
inductive Stands (env : Environment σ) : Errand α → Run.Started σ α → Fate α → Prop where
  | finished {e a fate} (hfares : Errand.Fares e fate) (hresult : fate.result? = some a) :
      Stands env e (.finished a) fate
  | waiting {call resume} (p : Run.Pending σ call) (harrives : env.Answers → p.arrival.isSome) :
      Stands env (.ask call resume) (.waiting call p resume) (.unanswered call)

/-- An errand whose call was made: for whom it is run, how it stands, and its course so far. -/
structure Leg (κ σ α : Type) where
  party : κ
  errand : Errand α
  started : Run.Started σ α
  course : Course α

variable {Opens : κ → List Step → Errand α → Prop} {s s' s₁ s₂ : Session σ}

/-- What is known of an errand in a session once its call was made. -/
structure Leg.Made (env : Environment σ) (b : Bounds) (Opens : κ → List Step → Errand α → Prop)
    (s : Session σ) (leg : Leg κ σ α) : Prop where
  opens : Opens leg.party leg.course.opening leg.errand
  stands : Stands env leg.errand leg.started leg.course.fate
  inForce : ∀ i, leg.course.fate.reason? = some i → b.InForce i s

/-- What is known of an errand is known later as well. -/
theorem Leg.Made.later {leg : Leg κ σ α} (h : leg.Made env b Opens s) (hs : s.Precedes s') :
    leg.Made env b Opens s' :=
  ⟨h.opens, h.stands, fun i hi => (h.inForce i hi).later hs⟩

/-- What is left when the calls of errands are made. -/
structure Launched (env : Environment σ) (b : Bounds) (Opens : κ → List Step → Errand α → Prop)
    (s : Session σ) (legs : List (Leg κ σ α)) (new : List Step) (s' : Session σ) : Prop where
  past : s'.past = new ++ s.past
  now : s'.now = s.now
  precedes : s.Precedes s'
  made : ∀ leg ∈ legs, leg.Made env b Opens s'
  asides : asidesIn new = legs.flatMap (·.course.opening.reverse)
  calls : callsIn new = legs.filterMap (·.course.fate.call?)
  answers : answersIn new = legs.filterMap (·.course.fate.answer?)
  kept : (∀ leg ∈ legs, leg.errand.Spares env s.now) → s'.cancelAt = s.cancelAt
  unskipped : b.interruption? s = none →
    (b.heedsCancel = false ∨ ∀ leg ∈ legs, leg.errand.Spares env s.now) →
    ∀ leg ∈ legs, leg.course.fate.isSkipped = false

namespace Launched

variable {legs legs' : List (Leg κ σ α)} {new new' : List Step}

/-- Where there are no errands, nothing happens. -/
theorem nil : Launched env b Opens s [] [] s where
  past := rfl
  now := rfl
  precedes := .refl s
  made := by simp
  asides := rfl
  calls := rfl
  answers := rfl
  kept _ := rfl
  unskipped _ _ := by simp

/-- First the calls of some errands are made, then those of others. -/
theorem append (h : Launched env b Opens s legs new s₁)
    (h' : Launched env b Opens s₁ legs' new' s₂) :
    Launched env b Opens s (legs ++ legs') (new' ++ new) s₂ where
  past := by rw [h'.past, h.past, List.append_assoc]
  now := h'.now.trans h.now
  precedes := h.precedes.trans h'.precedes
  made leg hleg := by
    -- An errand of the first is still as it was when the others are put.
    rcases List.mem_append.mp hleg with hleg | hleg
    · exact (h.made leg hleg).later h'.precedes
    · exact h'.made leg hleg
  asides := by rw [asidesIn_append, h.asides, h'.asides, List.flatMap_append]
  calls := by rw [callsIn_append, h.calls, h'.calls, List.filterMap_append]
  answers := by rw [answersIn_append, h.answers, h'.answers, List.filterMap_append]
  kept hspares := by
    rw [List.forall_mem_append] at hspares
    exact (h'.kept (h.now ▸ hspares.2)).trans (h.kept hspares.1)
  unskipped hnone hspares := by
    rw [List.forall_mem_append] at hspares ⊢
    -- Nothing comes into force while the calls of the first are made.
    have hnone₁ : b.interruption? s₁ = none := by
      rw [← hnone]
      rcases hspares with hheeds | hspares
      · exact b.interruption?_congr_of_deaf hheeds h.now
      · exact b.interruption?_congr h.now (h.kept hspares.1)
    exact ⟨h.unskipped hnone (hspares.imp_right And.left),
      h'.unskipped hnone₁ (hspares.imp_right fun hspares => h.now ▸ hspares.2)⟩

/-- One errand that was put: what happened after that is about its call. -/
theorem single {k : κ} {e : Errand α} {st : Run.Started σ α} {opening : List Step}
    (fate : Fate α) (steps : List Step) (hopened : Opened s opening s₁) (hopens : Opens k opening e)
    (hpast : s'.past = steps ++ s₁.past) (hnow : s'.now = s₁.now) (hprecedes : s₁.Precedes s')
    (hstands : Stands env e st fate) (hforce : ∀ i, fate.reason? = some i → b.InForce i s')
    (hasides : asidesIn steps = []) (hcalls : callsIn steps = fate.call?.toList)
    (hanswers : answersIn steps = fate.answer?.toList)
    (hspared : e.Spares env s₁.now → s'.cancelAt = s₁.cancelAt)
    (hskipped : b.interruption? s₁ = none → fate.isSkipped = false) :
    Launched env b Opens s [⟨k, e, st, ⟨opening, fate⟩⟩] (steps ++ opening) s' where
  past := by rw [hpast, hopened.past, List.append_assoc]
  now := hnow.trans hopened.now
  precedes := by
    -- Before the call only the past has changed.
    refine .trans (.of_cancelAt_eq (Nat.le_of_eq hopened.now.symm) hopened.cancelAt ?_) hprecedes
    exact hopened.past ▸ List.suffix_append _ _
  made := by simpa using ⟨hopens, hstands, hforce⟩
  asides := by simp [asidesIn_of_asides hopened.asides, hasides]
  calls := by
    rw [callsIn_append, callsIn_of_asides hopened.asides, hcalls]
    cases h : fate.call? <;> simp [h]
  answers := by
    rw [answersIn_append, answersIn_of_asides hopened.asides, hanswers]
    cases h : fate.answer? <;> simp [h]
  kept hspares := by
    rw [List.forall_mem_singleton] at hspares
    exact (hspared (hopened.now ▸ hspares)).trans hopened.cancelAt
  unskipped hnone _ := by
    rw [List.forall_mem_singleton]
    exact hskipped ((b.interruption?_congr hopened.now hopened.cancelAt).trans hnone)

end Launched

namespace Run.Triple

variable {f : κ → Run σ (Errand α)}

/-- A call that is made leaves what `Sent` says, and nothing that was is undone. -/
theorem send_preceded {c : Call} (s : Session σ) :
    Run.Triple env (· = s) (Run.send c)
      ⟨fun p s' => Sent env c s p s' ∧ s.Precedes s', fun _ _ => False⟩ :=
  ((send_sent s).and (Run.Ages.triple (Run.Ages.send c) s)).mono (fun _ hs => ⟨hs, hs⟩)
    (fun _ _ hs => hs) fun _ _ hs => hs.1

/-- Making the call of an errand that was put. -/
theorem start_launched {k : κ} {e : Errand α} {opening : List Step}
    (hopened : Opened s opening s₁) (hopens : Opens k opening e) :
    Run.Triple env (· = s₁) (Run.start b e)
      ⟨fun st s' => ∃ leg new, leg.party = k ∧ leg.started = st ∧
        Launched env b Opens s [leg] new s', fun _ _ => False⟩ := by
  cases e with
  -- An errand without a call is over at once.
  | done a =>
    refine pure fun s' hs' => ?_
    subst hs'
    exact ⟨_, _, rfl, rfl, .single (.idle a) [] hopened hopens rfl rfl
      (.refl s') (.finished (.idle a) rfl) (fun _ h => by cases h) rfl rfl rfl (fun _ => rfl)
      fun _ => rfl⟩
  | ask c resume =>
    refine start_steps (fun i hi => ?_) (fun _ => send_preceded s₁) (fun p s₂ hs₂ => ?_)
      (fun p s₂ hs₂ => ?_)
    · -- What is in force keeps the call from being made.
      refine ⟨_, _, rfl, rfl, .single (.skipped c i (resume (.error i))) []
        hopened hopens rfl rfl (.refl s₁) (.finished (.skipped i) rfl) ?_ rfl rfl rfl
        (fun _ => rfl) fun hnone => ?_⟩
      · rintro _ ⟨⟩
        exact Bounds.inForce_of_interruption? hi
      · rw [hnone] at hi
        cases hi
    · -- The answer came with the call and is taken.
      obtain ⟨hsent, hprecedes⟩ := hs₂
      refine ⟨_, _, rfl, rfl, .single (.answered c _ (resume (.ok _)))
        [.answered c _, .asked c s₁.now] hopened hopens ?_ hsent.now ?_
        (.finished (.answered _) rfl) (fun _ h => by cases h) rfl rfl rfl
        (fun hspares => hsent.spares (hspares _)) fun _ => rfl⟩
      · show Step.answered c _ :: s₂.past = _
        rw [hsent.past]
        rfl
      · exact hprecedes.trans (.of_cancelAt_eq (Nat.le_refl _) rfl (List.suffix_cons _ _))
    · -- The answer is still to come.
      obtain ⟨hsent, hprecedes⟩ := hs₂
      exact ⟨_, _, rfl, rfl, .single (.unanswered c) [.asked c s₁.now] hopened hopens hsent.past
        hsent.now hprecedes (.waiting p hsent.arrives) (fun _ h => by cases h) rfl rfl rfl
        (fun hspares => hsent.spares (hspares _)) fun _ => rfl⟩

/-- The calls of errands are made one after the other. -/
theorem startAll_launched (keys : List κ)
    (hopens : ∀ k ∈ keys, ∀ s, Run.Triple env (· = s) (f k)
      ⟨fun e s' => ∃ opening, Opened s opening s' ∧ Opens k opening e, fun _ _ => False⟩)
    (s : Session σ) :
    Run.Triple env (· = s) (Run.startAll b (keys.map f))
      ⟨fun sts s' => ∃ legs new, legs.map (·.party) = keys ∧ legs.map (·.started) = sts ∧
        Launched env b Opens s legs new s', fun _ _ => False⟩ := by
  -- By induction on the errands: what is known of the first is known after the others as well.
  induction keys generalizing s with
  | nil =>
    refine pure fun s' hs' => ?_
    subst hs'
    exact ⟨[], [], rfl, rfl, .nil⟩
  | cons k keys ih =>
    rw [List.forall_mem_cons] at hopens
    refine bind (hopens.1 s) (fun e => at_session fun s₁ hs₁ => ?_) (fun _ _ h => h)
    obtain ⟨opening, hopened, hput⟩ := hs₁
    refine bind (start_launched hopened hput) (fun st => at_session fun s₂ hs₂ => ?_)
      (fun _ _ h => h)
    obtain ⟨leg, new, rfl, rfl, hleg⟩ := hs₂
    refine bind (ih hopens.2 s₂) (fun sts => pure fun s' hs' => ?_) (fun _ _ h => h)
    obtain ⟨legs, new', rfl, rfl, hlegs⟩ := hs'
    exact ⟨leg :: legs, new' ++ new, rfl, rfl, hleg.append hlegs⟩

end Run.Triple

/-! ## The answers -/

/-- Whether a course may follow from that of an errand whose call was made. -/
structure Leg.Ends (leg : Leg κ σ α) (c : Course α) : Prop where
  opening : c.opening = leg.course.opening
  fares : leg.errand.Fares c.fate
  call : c.fate.call? = leg.course.fate.call?
  skipped : c.fate.isSkipped = leg.course.fate.isSkipped

/-- However an errand stands, its fate so far is one that it may have. -/
theorem Stands.fares {e : Errand α} {st : Run.Started σ α} {fate : Fate α}
    (h : Stands env e st fate) : e.Fares fate := by
  cases h with
  | finished hfares _ => exact hfares
  | waiting p _ => exact .unanswered

/-- What is left when the waits of errands have ended, in their order. -/
structure Landed (b : Bounds) (s : Session σ) (waits : List (Nat × Leg κ σ α))
    (ended : List (Nat × Course α)) (new : List Step) (s' : Session σ) : Prop where
  past : s'.past = new ++ s.past
  precedes : s.Precedes s'
  cancelAt : s'.cancelAt = s.cancelAt
  ends : List.Forall₂ (fun w x => x.1 = w.1 ∧ w.2.Ends x.2) waits ended
  inForce : ∀ x ∈ ended, ∀ i, x.2.fate.reason? = some i → b.InForce i s'
  asides : asidesIn new = []
  calls : callsIn new = []
  answers : waits.filterMap (·.2.course.fate.answer?) ++ answersIn new =
    ended.filterMap (·.2.fate.answer?)

namespace Landed

variable {w : Nat × Leg κ σ α} {x : Nat × Course α} {waits : List (Nat × Leg κ σ α)}
variable {ended : List (Nat × Course α)} {new new' : List Step}

/-- The courses of errands before anything else happens. -/
theorem same (hmade : ∀ w ∈ waits, w.2.Made env b Opens s) :
    Landed b s waits (waits.map fun w => (w.1, w.2.course)) [] s where
  past := rfl
  precedes := .refl s
  cancelAt := rfl
  ends := by
    -- The course of an errand is itself a way to go on.
    rw [List.forall₂_map_right_iff, List.forall₂_same]
    exact fun w hw => ⟨rfl, rfl, (hmade w hw).stands.fares, rfl, rfl⟩
  inForce x hx := by
    obtain ⟨w, hw, rfl⟩ := List.mem_map.mp hx
    exact (hmade w hw).inForce
  asides := rfl
  calls := rfl
  answers := by rw [List.filterMap_map, answersIn, List.filter_nil, List.reverse_nil,
    List.append_nil]; rfl

/-- First one wait ends, then others do. Nothing is answered in the first, or nothing is answered
yet of the others. -/
theorem cons (h : Landed b s [w] [x] new s₁) (h' : Landed b s₁ waits ended new' s')
    (hlast : answersIn new = [] ∨ waits.filterMap (·.2.course.fate.answer?) = []) :
    Landed b s (w :: waits) (x :: ended) (new' ++ new) s' where
  past := by rw [h'.past, h.past, List.append_assoc]
  precedes := h.precedes.trans h'.precedes
  cancelAt := h'.cancelAt.trans h.cancelAt
  ends := .cons (List.forall₂_cons.mp h.ends).1 h'.ends
  inForce := by
    -- What was in force after the first wait still is.
    refine List.forall_mem_cons.mpr ⟨fun i hi => ?_, h'.inForce⟩
    exact (h.inForce x List.mem_cons_self i hi).later h'.precedes
  asides := by rw [asidesIn_append, h.asides, h'.asides, List.append_nil]
  calls := by rw [callsIn_append, h.calls, h'.calls, List.append_nil]
  answers := by
    rw [answersIn_append, ← List.singleton_append (x := w), ← List.singleton_append (x := x),
      List.filterMap_append, List.filterMap_append, ← h.answers, ← h'.answers]
    -- One of the two lists in the middle is empty, so they can change places.
    rcases hlast with hlast | hlast <;> simp [hlast]

end Landed

namespace Run.Triple

/-- Whether the waits that are over already come before the others. -/
def FinishedFirst (waits : List (Nat × Leg κ σ α)) : Prop :=
  waits.Pairwise fun v w => w.2.started.isFinished = true → v.2.started.isFinished = true

/-- The wait for an errand: a course comes of it, unless the answer never comes. -/
theorem finish_landed {w : Nat × Leg κ σ α} {s₀ : Session σ} (hmade : w.2.Made env b Opens s)
    (hcancel : s.cancelAt = s₀.cancelAt) :
    Run.Triple env (· = s) (Run.finish b s₀ w.2.started)
      ⟨fun a s' => ∃ c new, Landed b s [w] [(w.1, c)] new s' ∧ c.fate.result? = some a ∧
          (w.2.started.isFinished = true → answersIn new = []),
        fun e s' => e = .stuck ∧ s' = s ∧ ¬ env.Answers ∧ w.2.course.fate.result? = none⟩ := by
  obtain ⟨place, party, errand, started, opening, fate⟩ := w
  have hsame : Landed b s [(place, (⟨party, errand, started, opening, fate⟩ : Leg κ σ α))] _ [] s :=
    .same (List.forall_mem_singleton.mpr hmade)
  obtain ⟨-, hstands, -⟩ := hmade
  cases hstands with
  -- It is over, and nothing happens any more.
  | finished hfares hresult =>
    refine pure fun s' hs' => ?_
    subst hs'
    exact ⟨_, _, hsame, hresult, fun _ => rfl⟩
  | @waiting c resume p harrives =>
    refine finish_steps (fun time _ => ?_) (fun i time ht => ?_)
      (fun hnever => ⟨rfl, rfl, fun hanswers => ?_, rfl⟩)
    · -- The answer comes, and is taken.
      refine ⟨⟨opening, .answered c _ (resume (.ok _))⟩, [.answered c _], ⟨rfl, ?_, rfl,
        .cons ⟨rfl, rfl, .answered _, rfl, rfl⟩ .nil, ?_, rfl, rfl, rfl⟩, rfl,
        fun h => by cases h⟩
      · exact .of_cancelAt_eq (Nat.le_max_left _ _) rfl (List.suffix_cons _ _)
      · rw [List.forall_mem_singleton]
        exact fun _ h => by cases h
    · -- The wait is interrupted, and the call stays without an answer.
      refine ⟨⟨opening, .abandoned c i (resume (.error i))⟩, [], ⟨rfl, .passTo s time, rfl,
        .cons ⟨rfl, rfl, .abandoned i, rfl, rfl⟩ .nil, ?_, rfl, rfl, rfl⟩, rfl, fun _ => rfl⟩
      rw [List.forall_mem_singleton]
      rintro _ ⟨⟩
      exact Bounds.inForce_of_waking ht hcancel
    · -- The wait has no end only if the answer never comes.
      have harrives := harrives hanswers
      rw [(Bounds.eq_none_of_waking hnever).1] at harrives
      cases harrives

/-- The waits of errands are ended one after the other. -/
theorem finishAll_landed (s₀ : Session σ) (waits : List (Nat × Leg κ σ α))
    (hmade : ∀ w ∈ waits, w.2.Made env b Opens s) (hcancel : s.cancelAt = s₀.cancelAt)
    (hfirst : FinishedFirst waits) :
    Run.Triple env (· = s) (Run.finishAll b s₀ (waits.map fun w => (w.1, w.2.started)))
      ⟨fun results s' => ∃ ended new, Landed b s waits ended new s' ∧
          results.map (fun x => (x.1, some x.2)) = ended.map fun x => (x.1, x.2.fate.result?),
        fun e s' => e = .stuck ∧ ¬ env.Answers ∧ ∃ ended new, Landed b s waits ended new s' ∧
          ∃ x ∈ ended, x.2.fate.result? = none⟩ := by
  -- By induction on the waits: no wait changes what is known of the others.
  induction waits generalizing s with
  | nil =>
    refine pure fun s' hs' => ?_
    subst hs'
    exact ⟨[], [], .same hmade, rfl⟩
  | cons w waits ih =>
    have hall := hmade
    rw [List.forall_mem_cons] at hmade
    refine bind (finish_landed hmade.1 hcancel) (fun a => at_session fun s₁ hs₁ => ?_) ?_
    · obtain ⟨c, new, hlanded, hresult, hquiet⟩ := hs₁
      have hmade₁ : ∀ w ∈ waits, w.2.Made env b Opens s₁ :=
        fun w hw => (hmade.2 w hw).later hlanded.precedes
      -- Once a wait is not over, none of those after it is.
      have hlast : answersIn new = [] ∨ waits.filterMap (·.2.course.fate.answer?) = [] := by
        cases hw : w.2.started.isFinished with
        | true => exact .inl (hquiet hw)
        | false =>
          refine .inr (List.filterMap_eq_nil_iff.mpr fun v hv => ?_)
          have hv' := (List.pairwise_cons.mp hfirst).1 v hv
          have hstands := (hmade.2 v hv).stands
          revert hv' hstands
          generalize v.2.started = st, v.2.errand = e, v.2.course.fate = fate
          intro hv' hstands
          cases hstands with
          | finished _ _ => rw [hw] at hv'; cases hv' rfl
          | waiting p _ => rfl
      refine bind (ih hmade₁ (hlanded.cancelAt.trans hcancel) hfirst.tail)
        (fun results => pure fun s' hs' => ?_) ?_
      · obtain ⟨ended, new', hlanded', hresults⟩ := hs'
        refine ⟨_, _, hlanded.cons hlanded' hlast, ?_⟩
        rw [List.map_cons, List.map_cons, hresults, hresult]
      · -- A later wait has no end.
        rintro e s' ⟨rfl, hanswers, ended, new', hlanded', x, hx, hnone⟩
        exact ⟨rfl, hanswers, _, _, hlanded.cons hlanded' hlast, x, List.mem_cons_of_mem _ hx,
          hnone⟩
    · -- This wait has no end, and the others stand as they did.
      rintro e s' ⟨rfl, rfl, hanswers, hnone⟩
      exact ⟨rfl, hanswers, _, _, .same hall, _, List.mem_cons_self, hnone⟩

end Run.Triple

/-! ## All of it -/

/-- How errands went that were run side by side for parties. -/
structure Ran (env : Environment σ) (b : Bounds) (Opens : κ → List Step → Errand α → Prop)
    (keys : List κ) (s : Session σ) (ended : List (Nat × Course α)) (new : List Step)
    (s' : Session σ) : Prop where
  past : s'.past = new ++ s.past
  precedes : s.Precedes s'
  fanned : Fanned ended keys.length new
  courses : List.Forall₂ (fun k c => Course.Of (Opens k) c) keys (inPlace ended)
  inForce : ∀ x ∈ ended, ∀ i, x.2.fate.reason? = some i → b.InForce i s'
  unskipped : b.interruption? s = none →
    (b.heedsCancel = false ∨
      ∀ k ∈ keys, ∀ opening e, Opens k opening e → e.Spares env s.now) →
    ∀ x ∈ ended, x.2.fate.isSkipped = false

/-- Where neither the time nor a cancellation ends a wait, every errand gets what it waits for. -/
theorem Ran.reason?_eq_none {keys : List κ} {ended : List (Nat × Course α)} {new : List Step}
    (h : Ran env b Opens keys s ended new s') (hdeadline : b.deadline = none)
    (hcanceled : s'.isCanceled = false) : ∀ x ∈ ended, x.2.fate.reason? = none := fun x hx =>
  Option.eq_none_iff_forall_not_mem.mpr fun i hi =>
    Bounds.not_inForce hdeadline hcanceled (h.inForce x hx i hi)

/-- The results in place are those that there are. -/
theorem mem_inPlace {results : List (Nat × α)} {a : α} :
    a ∈ inPlace results ↔ ∃ place, (place, a) ∈ results := by
  rw [(inPlace_perm results).mem_iff, List.mem_map]
  exact ⟨fun ⟨x, hx, h⟩ => ⟨x.1, h ▸ hx⟩, fun ⟨place, h⟩ => ⟨_, h, rfl⟩⟩

/-- What is made of every result is made of those in their places. -/
theorem inPlace_map {β : Type} (g : α → β) (results : List (Nat × α)) :
    inPlace (results.map fun x => (x.1, g x.2)) = (inPlace results).map g := by
  unfold inPlace
  -- Sorting goes by the places alone.
  rw [← List.map_mergeSort (f := fun x : Nat × α => (x.1, g x.2))
    (r := fun x y => decide (x.1 ≤ y.1)) fun _ _ _ _ => rfl, List.map_map, List.map_map]
  rfl

/-- The results of errands in their places. -/
theorem forall₂_result? {results : List (Nat × α)} {ended : List (Nat × Course α)}
    (h : results.map (fun x => (x.1, some x.2)) = ended.map fun x => (x.1, x.2.fate.result?)) :
    List.Forall₂ (fun c a => c.fate.result? = some a) (inPlace ended) (inPlace results) := by
  have hmap : (inPlace ended).map (·.fate.result?) = (inPlace results).map some := by
    rw [← inPlace_map, ← inPlace_map, h]
  rw [← List.forall₂_eq_eq_eq] at hmap
  exact List.forall₂_map_left_iff.mp (List.forall₂_map_right_iff.mp hmap)

section Lists

variable {β γ : Type} {R S : α → β → Prop} {l : List α} {l' : List β}

/-- Two lists stay related member by member by what follows for members of the second. -/
theorem forall₂_of_mem_right (h : List.Forall₂ R l l') (hS : ∀ a b, b ∈ l' → R a b → S a b) :
    List.Forall₂ S l l' := by
  induction h with
  | nil => exact .nil
  | cons hab _ ih =>
    exact .cons (hS _ _ List.mem_cons_self hab)
      (ih fun a b hb => hS a b (List.mem_cons_of_mem _ hb))

/-- A list that is related to two others by an equation is what the equation makes of them. -/
theorem eq_zipWith_of_forall₂ {T : β → γ → Prop} {k : α → β → γ} {l'' : List γ}
    (h : List.Forall₂ R l l') (h' : List.Forall₂ T l' l'')
    (hk : ∀ a b c, R a b → T b c → c = k a b) : l'' = List.zipWith k l l' := by
  induction h generalizing l'' with
  | nil =>
    cases h'
    rfl
  | cons hab _ ih =>
    cases h' with
    | cons hbc h' => rw [List.zipWith_cons_cons, ← hk _ _ _ hab hbc, ← ih h']

/-- What is made of two related lists is related to the first by what holds of each pair. -/
theorem forall₂_zipWith {T : α → γ → Prop} {k : α → β → γ} (h : List.Forall₂ R l l')
    (hk : ∀ a b, b ∈ l' → R a b → T a (k a b)) : List.Forall₂ T l (List.zipWith k l l') := by
  induction h with
  | nil => exact .nil
  | cons hab _ ih =>
    exact .cons (hk _ _ List.mem_cons_self hab)
      (ih fun a b hb => hk a b (List.mem_cons_of_mem _ hb))

/-- Related lists have the same images where related members have. -/
theorem map_eq_of_forall₂ {f : α → γ} {g : β → γ} (h : List.Forall₂ R l l')
    (hfg : ∀ a b, R a b → f a = g b) : l.map f = l'.map g := by
  induction h with
  | nil => rfl
  | cons hab _ ih => rw [List.map_cons, List.map_cons, hfg _ _ hab, ih]

/-- A member of the second of two related lists is related to one of the first. -/
theorem exists_of_mem_right {b : β} (h : List.Forall₂ R l l') (hb : b ∈ l') : ∃ a ∈ l, R a b := by
  induction h with
  | nil => cases hb
  | cons hab _ ih =>
    rcases List.mem_cons.mp hb with rfl | hb
    · exact ⟨_, List.mem_cons_self, hab⟩
    · obtain ⟨a, ha, hR⟩ := ih hb
      exact ⟨a, List.mem_cons_of_mem _ ha, hR⟩

end Lists

/-- The waits for errands, in the order in which they end. -/
def sortWaits (b : Bounds) (s : Session σ) (legs : List (Leg κ σ α)) : List (Nat × Leg κ σ α) :=
  (legs.mapIdx fun index leg => (index, leg)).mergeSort
    fun d e => d.2.started.noLater b s e.2.started

/-- What is sorted are the errands in their places. -/
theorem sortWaits_perm (b : Bounds) (s : Session σ) (legs : List (Leg κ σ α)) :
    (sortWaits b s legs).Perm (legs.mapIdx fun index leg => (index, leg)) :=
  List.mergeSort_perm _ _

/-- To sort the waits with what is known of them is to sort the waits. -/
theorem sortWaits_started (b : Bounds) (s : Session σ) (legs : List (Leg κ σ α)) :
    (sortWaits b s legs).map (fun w => (w.1, w.2.started)) =
      ((legs.map (·.started)).mapIdx fun index e => (index, e)).mergeSort
        fun d e => d.2.noLater b s e.2 := by
  rw [sortWaits, List.map_mergeSort (f := fun w : Nat × Leg κ σ α => (w.1, w.2.started))
    (s := fun d e => d.2.noLater b s e.2) fun _ _ _ _ => rfl]
  congr 1
  exact List.ext_getElem (by simp) (by simp)

/-- The waits that are over are the first ones in order. -/
theorem sortWaits_finishedFirst (b : Bounds) (s : Session σ) (legs : List (Leg κ σ α)) :
    Run.Triple.FinishedFirst (sortWaits b s legs) := by
  refine (List.pairwise_mergeSort (fun _ _ _ => Run.Started.noLater_trans _ _ _)
    (fun _ _ => Run.Started.noLater_total _ _) _).imp fun {v w} hvw hw => ?_
  cases hv : v.2.started.isFinished with
  | true => rfl
  -- A wait that is not over comes no earlier than one that is.
  | false =>
    rw [Run.Started.noLater_of_waiting hv hw] at hvw
    cases hvw

/-- The answers that came with the calls are taken in the order of the places. -/
theorem sortWaits_answers {legs : List (Leg κ σ α)}
    (hmade : ∀ leg ∈ legs, leg.Made env b Opens s) :
    (sortWaits b s legs).filterMap (·.2.course.fate.answer?) =
      legs.filterMap (·.course.fate.answer?) := by
  -- Only what is finished has an answer, and what is finished stays in its order.
  have hfinished : ∀ waits : List (Nat × Leg κ σ α), (∀ w ∈ waits, w.2.Made env b Opens s) →
      (waits.filter (·.2.started.isFinished)).filterMap (·.2.course.fate.answer?) =
        waits.filterMap (·.2.course.fate.answer?) := by
    intro waits hwaits
    rw [List.filterMap_filter]
    refine List.filterMap_congr fun w hw => ?_
    have hstands := (hwaits w hw).stands
    revert hstands
    generalize w.2.started = st, w.2.errand = e, w.2.course.fate = fate
    intro hstands
    cases hstands with
    | finished _ _ => rfl
    | waiting p _ => rfl
  have hplaces : ∀ w ∈ legs.mapIdx (fun index leg => (index, leg)), w.2.Made env b Opens s := by
    intro w hw
    obtain ⟨i, hi, rfl⟩ := List.mem_mapIdx.mp hw
    exact hmade _ (List.getElem_mem hi)
  rw [← hfinished _ fun w hw => hplaces w ((sortWaits_perm b s legs).mem_iff.mp hw), sortWaits,
    filter_mergeSort (fun _ _ _ => Run.Started.noLater_trans _ _ _)
      (fun _ _ => Run.Started.noLater_total _ _)
      (fun x y hx => Run.Started.noLater_of_isFinished hx _), hfinished _ hplaces]
  conv_rhs => rw [← map_snd_mapIdx legs, List.filterMap_map]
  rfl

/-- The courses of errands whose calls were made and whose waits have ended. -/
theorem Ran.of_landed {keys : List κ} {legs : List (Leg κ σ α)} {new new' : List Step}
    {ended : List (Nat × Course α)} (hparties : legs.map (·.party) = keys)
    (hlaunched : Launched env b Opens s legs new s₁)
    (hlanded : Landed b s₁ (sortWaits b s₁ legs) ended new' s') :
    Ran env b Opens keys s ended (new' ++ new) s' := by
  have hplaces : (ended.map (·.1)).Perm (List.range legs.length) := by
    -- The waits are those of all errands in some order.
    have hperm := ((sortWaits_perm b s₁ legs).map (·.1)).trans
      (.of_eq (map_fst_mapIdx legs))
    rwa [map_eq_of_forall₂ (g := (·.1)) hlanded.ends fun w x h => h.1.symm] at hperm
  -- Every course is that of the errand in its place.
  have hends : ∀ x ∈ ended, ∃ leg, legs[x.1]? = some leg ∧ leg.Ends x.2 := by
    intro x hx
    obtain ⟨w, hw, hplace, hw'⟩ := exists_of_mem_right hlanded.ends hx
    rw [(sortWaits_perm b s₁ legs).mem_iff, List.mem_mapIdx] at hw
    obtain ⟨i, hi, rfl⟩ := hw
    exact ⟨legs[i], by rw [hplace]; exact List.getElem?_eq_getElem hi, hw'⟩
  have hcourses : List.Forall₂ Leg.Ends legs (inPlace ended) := forall₂_inPlace hplaces hends
  refine ⟨?_, hlaunched.precedes.trans hlanded.precedes, ⟨?_, ?_, ?_, ?_⟩, ?_, hlanded.inForce, ?_⟩
  · rw [hlanded.past, hlaunched.past, List.append_assoc]
  · rwa [← hparties, List.length_map]
  · -- The waits add no look at the clock and no call, so those are the ones of the launch.
    have hopenings := map_eq_of_forall₂ (f := (·.course.opening.reverse))
      (g := (·.opening.reverse)) hcourses fun leg c h => by rw [h.opening]
    rw [asidesIn_append, hlanded.asides, List.append_nil, hlaunched.asides, List.flatMap_def,
      List.flatMap_def, hopenings]
  · have hcalls := map_eq_of_forall₂ (f := (·.course.fate.call?)) (g := (·.fate.call?)) hcourses
      fun leg c h => h.call.symm
    rw [callsIn_append, hlanded.calls, List.append_nil, hlaunched.calls]
    simpa [List.filterMap_map, Function.comp_def] using congrArg (List.filterMap id) hcalls
  · -- The answers that came with the calls come first.
    rw [answersIn_append, hlaunched.answers, ← sortWaits_answers hlaunched.made,
      hlanded.answers]
  · rw [← hparties, List.forall₂_map_left_iff]
    refine ((List.forall₂_and_left _ _).mpr ⟨hlaunched.made, hcourses⟩).imp fun leg c h => ?_
    exact ⟨leg.errand, h.2.opening ▸ h.1.opens, h.2.fares⟩
  · intro hnone hspares x hx
    obtain ⟨leg, hleg, hx⟩ := hends x hx
    rw [hx.skipped]
    refine hlaunched.unskipped hnone (hspares.imp_right fun hspares leg hleg => ?_) leg
      (List.mem_of_getElem? hleg)
    exact hspares _ (hparties ▸ List.mem_map_of_mem hleg) _ _ (hlaunched.made leg hleg).opens

namespace Run.Triple

variable {f : κ → Run σ (Errand α)}

/-- The courses of errands that are run side by side. They end if every call is answered. -/
theorem together_courses (keys : List κ)
    (hopens : ∀ k ∈ keys, ∀ s, Run.Triple env (· = s) (f k)
      ⟨fun e s' => ∃ opening, Opened s opening s' ∧ Opens k opening e, fun _ _ => False⟩)
    (s : Session σ) :
    Run.Triple env (· = s) (Run.together b (keys.map f))
      ⟨fun results s' => ∃ ended new, Ran env b Opens keys s ended new s' ∧
          results.map (fun x => (x.1, some x.2)) = ended.map fun x => (x.1, x.2.fate.result?),
        fun e s' => e = .stuck ∧ ¬ env.Answers ∧ ∃ ended new, Ran env b Opens keys s ended new s' ∧
          ∃ x ∈ ended, x.2.fate.result? = none⟩ := by
  refine bind (startAll_launched keys hopens s) (fun sts => ?_) (fun _ _ h => h.elim)
  refine session_bind fun s₁ hs₁ => ?_
  obtain ⟨legs, new, hparties, rfl, hlaunched⟩ := hs₁
  show Run.Triple env _ (Run.finishAll b s₁ (((legs.map (·.started)).mapIdx
    fun index e => (index, e)).mergeSort fun d e => d.2.noLater b s₁ e.2)) _
  -- The program sorts the errands; with them goes what is known of each.
  rw [← sortWaits_started]
  -- Sorting keeps what is known of every errand.
  have hmade : ∀ w ∈ sortWaits b s₁ legs, w.2.Made env b Opens s₁ := by
    intro w hw
    rw [(sortWaits_perm b s₁ legs).mem_iff, List.mem_mapIdx] at hw
    obtain ⟨i, hi, rfl⟩ := hw
    exact hlaunched.made _ (List.getElem_mem hi)
  refine (finishAll_landed s₁ _ hmade rfl (sortWaits_finishedFirst b s₁ legs)).mono
    (fun _ hs => hs) ?_ ?_
  · rintro results s' ⟨ended, new', hlanded, hresults⟩
    exact ⟨ended, _, .of_landed hparties hlaunched hlanded, hresults⟩
  · rintro e s' ⟨rfl, hanswers, ended, new', hlanded, hnone⟩
    exact ⟨rfl, hanswers, ended, _, .of_landed hparties hlaunched hlanded, hnone⟩

end Run.Triple

/-! ## Answers that come with their calls -/

namespace Run

/-- Where nothing is waited for, the results are there at once. -/
theorem finishAll_finished (s₀ : Session σ) (results : List (Nat × α)) :
    finishAll b s₀ (results.map fun x => (x.1, .finished x.2)) env s = (.done results, s) := by
  induction results with
  | nil => rfl
  | cons x results ih =>
    show andThen (finishAll b s₀ _) _ env s = _
    rw [andThen, ih]
    rfl

/-- Where every answer comes with its call, nothing is waited for. -/
theorem together_run {errands : List (Run σ (Errand α))} (results : List α)
    (h : startAll b errands env s = (.done (results.map .finished), s')) :
    together b errands env s = (.done (results.mapIdx fun index a => (index, a)), s') := by
  show andThen (startAll b errands) _ env s = _
  rw [andThen, h]
  show finishAll b s' (((results.map Started.finished).mapIdx
    fun index e => (index, e)).mergeSort _) env s' = _
  have hmap : (results.map (Started.finished (σ := σ))).mapIdx (fun index e => (index, e)) =
      (results.mapIdx fun index a => (index, a)).map fun x => (x.1, .finished x.2) :=
    List.ext_getElem (by simp) (by simp)
  -- All of them are over, so their order stays.
  rw [hmap, List.mergeSort_of_pairwise, finishAll_finished]
  rw [List.pairwise_map]
  exact List.pairwise_of_forall fun _ _ => rfl

end Run

/-- Results that stand in the order of their places are in place. -/
theorem inPlace_mapIdx (l : List α) : inPlace (l.mapIdx fun index a => (index, a)) = l := by
  rw [inPlace, List.mergeSort_of_pairwise, map_snd_mapIdx]
  rw [List.pairwise_iff_getElem]
  intro i j hi hj hij
  simpa using hij.le

end Rollout
