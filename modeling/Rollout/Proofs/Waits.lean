import Mathlib.Order.WithBot
import Rollout.Proofs.Ages
import Rollout.Session.Fanout

/-!
# How waits end

A wait is cut short only by what is in force when it ends: a cancellation or a deadline. So a call
that is made without a deadline is answered unless the deployment is canceled. When errands are run
side by side their waits end in the order of time, and those that come first stay in their order.

## Main statements

- `Bounds.inForce_of_waking`: what cuts a wait short is in force when the wait ends.
- `filter_mergeSort`: what comes before everything else stays in its order when it is sorted.
- `Run.Triple.request_answered`: a call without a deadline is answered unless it is canceled.
-/

namespace Rollout

variable {σ τ α : Type} {env : Environment σ} {b : Bounds}

/-! ## Interruptions in force -/

/-- Whether an interruption is in force in a session. -/
def Bounds.InForce (b : Bounds) (i : Interruption) (s : Session σ) : Prop :=
  match i with
  | .canceled => b.heedsCancel = true ∧ s.isCanceled = true
  | .timedOut => ∃ d, b.deadline = some d ∧ d ≤ s.now

namespace Bounds

variable {i : Interruption} {s s' : Session σ} {arrival : Option Nat} {time : Nat}

/-- What is in force stays in force. -/
theorem InForce.later (h : b.InForce i s) (hs : s.Precedes s') : b.InForce i s' := by
  cases i with
  | canceled => exact ⟨h.1, hs.canceled h.2⟩
  | timedOut =>
    obtain ⟨d, hd, hle⟩ := h
    exact ⟨d, hd, Nat.le_trans hle hs.now⟩

/-- What ends a wait before it begins is in force. -/
theorem inForce_of_interruption? (h : b.interruption? s = some i) : b.InForce i s := by
  unfold interruption? at h
  split at h
  · rename_i hcancel
    obtain rfl := Option.some.inj h
    unfold cancelTime at hcancel
    split at hcancel
    · exact ⟨‹_›, hcancel⟩
    · cases hcancel
  · split at h
    · rename_i hdeadline
      obtain rfl := Option.some.inj h
      simpa [InForce, Option.any_eq_true] using hdeadline
    · cases h

/-- What does not heed cancellation is interrupted by the time only. -/
theorem interruption?_congr_of_deaf (hheeds : b.heedsCancel = false) (hnow : s'.now = s.now) :
    b.interruption? s' = b.interruption? s := by
  unfold interruption? cancelTime
  rw [hheeds, hnow]
  rfl

/-- What cuts a wait short is in force when the wait ends. -/
theorem inForce_of_waking (h : b.waking s arrival = .interrupted i time)
    (hcancel : s'.cancelAt = s.cancelAt) : b.InForce i (s'.passTo time) := by
  -- A wait is interrupted by what cuts it off, and at that time.
  have hcutoff := (cutoff_of_waking h).1
  have hnow : time ≤ (s'.passTo time).now := Nat.le_max_right _ _
  have hcanceled : b.cancelTime s = some time → b.InForce .canceled (s'.passTo time) := by
    intro htime
    unfold cancelTime at htime
    split at htime
    · exact ⟨‹_›, Session.isCanceled_iff.mpr ⟨time, hcancel.trans htime, hnow⟩⟩
    · cases htime
  -- What cuts it off is the cancellation or the deadline, whichever comes first.
  unfold cutoff at hcutoff
  split at hcutoff
  · rename_i hc hd
    split at hcutoff
    · cases hcutoff
      exact hcanceled hc
    · cases hcutoff
      exact ⟨time, hd, hnow⟩
  · rename_i hc _
    cases hcutoff
    exact hcanceled hc
  · rename_i hd
    cases hcutoff
    exact ⟨time, hd, hnow⟩
  · cases hcutoff

/-- Without a deadline and a cancellation nothing is in force. -/
theorem not_inForce (hdeadline : b.deadline = none) (hcanceled : s.isCanceled = false) :
    ¬ b.InForce i s := by
  intro h
  cases i with
  | canceled => exact Bool.eq_false_iff.mp hcanceled h.2
  | timedOut =>
    obtain ⟨d, hd, -⟩ := h
    rw [hdeadline] at hd
    cases hd

end Bounds

/-! ## The order in which waits end -/

/-- What comes before everything else stays in its order when it is sorted. -/
theorem filter_mergeSort {le : α → α → Bool} {p : α → Bool}
    (htrans : ∀ x y z, le x y = true → le y z = true → le x z = true)
    (htotal : ∀ x y, (le x y || le y x) = true) (hfirst : ∀ x y, p x = true → le x y = true)
    (l : List α) : (l.mergeSort le).filter p = l.filter p := by
  have hsorted : (l.filter p).Pairwise fun x y => le x y = true :=
    List.pairwise_of_forall_mem_list fun x hx y _ => hfirst x y (List.mem_filter.mp hx).2
  -- Sorting is stable, so what was sorted stays a part of the sorted list.
  have hsublist := (List.sublist_mergeSort htrans htotal hsorted List.filter_sublist).filter p
  simp only [List.filter_filter, Bool.and_self] at hsublist
  refine (hsublist.eq_of_length ?_).symm
  exact ((List.mergeSort_perm l le).filter p).length_eq.symm

/-- The moment at which a wait ends: after all times if it has no end. -/
def Waking.moment (w : Waking) : WithTop Nat := w.time?

/-- One wait ends no later than another if its moment is no later. -/
theorem Waking.noLater_iff {v w : Waking} : v.noLater w = true ↔ v.moment ≤ w.moment := by
  unfold noLater moment
  cases v.time? with
  | none =>
    cases w.time? with
    | none => exact iff_of_true rfl (le_refl _)
    | some u => exact iff_of_false Bool.false_ne_true (WithTop.not_top_le_coe u)
  | some t =>
    cases w.time? with
    | none => exact iff_of_true rfl le_top
    | some u => exact decide_eq_true_iff.trans WithTop.coe_le_coe.symm

namespace Run.Started

variable {s : Session σ}

/-- Whether there is nothing to wait for. -/
def isFinished : Run.Started σ α → Bool
  | finished _ => true
  | waiting .. => false

/-- What is finished comes first. -/
theorem noLater_of_isFinished {d : Run.Started σ α} (h : d.isFinished = true)
    (e : Run.Started σ α) : d.noLater b s e = true := by
  cases d with
  | finished a => rfl
  | waiting c p resume => cases h

/-- What is waited for comes after what is finished. -/
theorem noLater_of_waiting {d e : Run.Started σ α} (hd : d.isFinished = false)
    (he : e.isFinished = true) : d.noLater b s e = false := by
  cases d with
  | finished a => cases hd
  | waiting c p resume =>
    cases e with
    | finished a => rfl
    | waiting c p resume => cases he

/-- The moment at which a started errand ends: before all times if there is nothing to wait for. -/
def moment (b : Bounds) (s : Session σ) (d : Run.Started σ α) : WithBot (WithTop Nat) :=
  (d.waking? b s).map Waking.moment

/-- One errand ends no later than another if its moment is no later. -/
theorem noLater_iff {d e : Run.Started σ α} :
    d.noLater b s e = true ↔ d.moment b s ≤ e.moment b s := by
  unfold noLater moment
  cases d.waking? b s with
  | none => exact iff_of_true rfl bot_le
  | some v =>
    cases e.waking? b s with
    | none => exact iff_of_false Bool.false_ne_true (WithBot.not_coe_le_bot _)
    | some w => exact Waking.noLater_iff.trans WithBot.coe_le_coe.symm

/-- Of two errands one ends no later than the other. -/
theorem noLater_total (d e : Run.Started σ α) :
    (d.noLater b s e || e.noLater b s d) = true := by
  rw [Bool.or_eq_true, noLater_iff, noLater_iff]
  exact le_total _ _

/-- No later than what is no later is no later. -/
theorem noLater_trans (d e f : Run.Started σ α) (hde : d.noLater b s e = true)
    (hef : e.noLater b s f = true) : d.noLater b s f = true :=
  noLater_iff.mpr ((noLater_iff.mp hde).trans (noLater_iff.mp hef))

end Run.Started

/-! ## Calls that are answered -/

/-- A call is answered unless it is canceled. -/
theorem Run.Triple.request_answered {c : Call} (hanswers : env.Answers) (p : List Step) :
    Run.Triple env (·.past = p) (Run.request {} c)
      ⟨fun r s => s.isCanceled = false → ∃ (time : Nat) (o : c.Outcome), r = .ok o ∧
          s.past = .answered c o :: .asked c time :: p,
        fun _ s => ¬ s.isCanceled = false⟩ := by
  refine at_session fun s hs => request_steps (fun i hi hcanceled => ?_) (fun _ => send_sent s)
    (fun pending s₁ s₂ hsent hcomes _ => ?_) (fun pending s₁ i time _ _ hwaking hcanceled => ?_)
    (fun pending s₁ hsent hnever => ?_)
  · -- Without a deadline nothing but the cancellation can be in force.
    exact (Bounds.not_inForce rfl hcanceled (Bounds.inForce_of_interruption? hi)).elim
  · refine ⟨s.now, _, rfl, ?_⟩
    show Step.answered c _ :: s₂.past = _
    rw [hcomes.past, hsent.past, hs]
  · -- Nor can anything else cut the wait short.
    exact (Bounds.not_inForce rfl hcanceled (Bounds.inForce_of_waking hwaking rfl)).elim
  · -- A wait has no end only if the answer never comes.
    have harrives := hsent.arrives hanswers
    rw [(Bounds.eq_none_of_waking hnever).1] at harrives
    cases harrives

/-- A call of a piece of work is answered unless it is canceled. It leaves the value alone. -/
theorem Work.Triple.call_answered {c : Call} {what machine : String} {K : τ → Prop}
    (hanswers : env.Answers) (p : List Step) :
    Work.Triple env (fun t s => K t ∧ s.past = p) (Work.call c what machine)
      ⟨fun t a s => s.isCanceled = false → K t ∧
          ∃ time, s.past = .answered c (.ok a) :: .asked c time :: p,
        fun t e s => s.isCanceled = false → K t ∧ e.isCanceled = false ∧
          ∃ time e', s.past = .answered c (.error e') :: .asked c time :: p,
        fun _ s => ¬ s.isCanceled = false⟩ := by
  refine fun t => Run.Triple.of_and fun ht => ?_
  refine Run.Triple.bind (Run.Triple.request_answered hanswers p) (fun r => ?_) (fun _ _ h => h)
  split
  · -- An interruption would be a cancellation.
    refine Run.Triple.pure fun s hs hcanceled => ?_
    obtain ⟨time, o, heq, -⟩ := hs hcanceled
    cases heq
  · refine Run.Triple.pure fun s hs hcanceled => ?_
    obtain ⟨time, o, heq, hpast⟩ := hs hcanceled
    cases heq
    exact ⟨ht, rfl, time, _, hpast⟩
  · refine Run.Triple.pure fun s hs hcanceled => ?_
    obtain ⟨time, o, heq, hpast⟩ := hs hcanceled
    cases heq
    exact ⟨ht, time, hpast⟩

end Rollout
