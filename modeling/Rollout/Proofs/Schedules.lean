import Mathlib.Algebra.Group.Nat.Defs
import Rollout.Backoff

/-!
# Schedules of delays

The interval of a schedule doubles from delay to delay until it is the greatest one, where it
stays. So the delay after `k` others is the least interval doubled `k` times, or the greatest
interval if that is shorter. Jitter moves a delay, but not the intervals that follow.

How a delay is drawn from the interval is left open: a draw grows the interval as it should and
stays within half of it (`Draw.Grows`), or it gives up. The first interval is taken as it is given
and may be longer than the greatest one. No delay shows that, so a schedule is described by its
intervals as far as the greatest one allows.

## Main statements

- `Backoff.IsAt.next`: one delay doubles the interval.
- `Backoff.IsAt.series`: the interval after any number of delays.
- `Backoff.doubles`: the delays of a schedule without jitter, with it, and where it gives up.
-/

namespace Rollout.Backoff

variable {b : Backoff} {draw : Draw} {interval greatest : Nat}

/-! ## Draws -/

/-- What is expected of a draw: it stays within half of the interval, and grows it. -/
structure Draw.Grows (draw : Draw) : Prop where
  drawn : ∀ b : Backoff, ∃ d, (draw b).1 = some d ∧ b.current ≤ 2 * d ∧ 2 * d ≤ 3 * b.current
  grown : ∀ b : Backoff, (draw b).2 = { b with current := b.grown }

/-- A draw without jitter takes the interval as it is. -/
structure Draw.Plain (draw : Draw) : Prop extends draw.Grows where
  plain : ∀ b : Backoff, (draw b).1 = some b.current

/-- Whether a draw gives no delay. It may leave any interval behind. -/
structure Draw.GivesUp (draw : Draw) : Prop where
  none : ∀ b : Backoff, (draw b).1 = .none
  kept : ∀ b : Backoff, (draw b).2.greatest = b.greatest

/-- The draws of a poll are as expected, whatever the jitter is. -/
theorem Draw.moved_grows (offset : Int) : (Draw.moved offset).Grows where
  drawn b := ⟨_, rfl, b.current_le_movedBy offset, b.movedBy_le offset⟩
  grown _ := rfl

/-- Without jitter a poll draws the interval as it is. -/
theorem Draw.moved_zero_plain : (Draw.moved 0).Plain where
  toGrows := moved_grows 0
  plain b := congrArg some b.movedBy_zero

/-- A draw that gives up does so for every schedule. -/
theorem Draw.givingUp_givesUp : Draw.givingUp.GivesUp where
  none _ := rfl
  kept _ := rfl

/-- Where a draw gives up, the greatest interval stands in. -/
theorem next_of_givesUp (h : draw.GivesUp) (b : Backoff) : (b.next draw).1 = b.greatest := by
  simp [next, h.none b]

/-! ## Intervals -/

/-- Whether a schedule is at an interval, as far as its greatest one allows. -/
structure IsAt (b : Backoff) (interval greatest : Nat) : Prop where
  greatest_eq : b.greatest = greatest
  current_eq : min b.current greatest = min interval greatest

/-- A schedule starts at its least interval. -/
theorem jittered_isAt (least greatest : Nat) : (jittered least greatest).IsAt least greatest :=
  ⟨rfl, rfl⟩

/-- One delay doubles the interval. -/
theorem IsAt.next (h : b.IsAt interval greatest) (hdraw : draw.Grows) :
    (b.next draw).2.IsAt (interval * 2) greatest := by
  obtain ⟨rfl, hcurrent⟩ := h
  show (draw b).2.IsAt _ _
  rw [hdraw.grown]
  refine ⟨rfl, ?_⟩
  show min b.grown b.greatest = _
  rw [grown_eq_min]
  -- An interval beyond the greatest one is as good as the greatest: doubled, both are cut down.
  omega

/-- Without jitter, the delay is the interval. -/
theorem IsAt.next_eq (h : b.IsAt interval greatest) (hdraw : draw.Plain) :
    (b.next draw).1 = min interval greatest := by
  obtain ⟨rfl, hcurrent⟩ := h
  rw [← hcurrent, Backoff.next, hdraw.plain, Option.getD_some]

/-- With jitter, the delay is half of the interval at least. -/
theorem IsAt.le_next (h : b.IsAt interval greatest) (hdraw : draw.Grows) :
    min interval greatest ≤ 2 * (b.next draw).1 := by
  obtain ⟨rfl, hcurrent⟩ := h
  obtain ⟨d, hd, hhalf, -⟩ := hdraw.drawn b
  rw [← hcurrent, Backoff.next, hd, Option.getD_some]
  omega

/-! ## Series of delays -/

variable {draws : List Draw}

/-- There are as many delays as draws. -/
theorem length_series (b : Backoff) (draws : List Draw) :
    (b.series draws).length = draws.length := by
  induction draws generalizing b with
  | nil => rfl
  | cons draw draws ih => exact congrArg (· + 1) (ih _)

/-- What every draw of a series keeps, from one position to the next, holds of the schedule that
each delay is drawn from. -/
theorem exists_series_eq {φ : Nat → Backoff → Prop}
    (hstep : ∀ draw ∈ draws, ∀ k b, φ k b → φ (k + 1) (b.next draw).2) {i k : Nat} (hb : φ i b)
    (hk : k < draws.length) :
    ∃ b', φ (i + k) b' ∧ (b.series draws)[k]? = some (b'.next draws[k]).1 := by
  -- By induction on the draws; what is kept holds of the schedule that the first one leaves.
  induction draws generalizing b i k with
  | nil => cases hk
  | cons draw draws ih =>
    cases k with
    | zero => exact ⟨b, hb, rfl⟩
    | succ k =>
      have hnext := hstep draw List.mem_cons_self i b hb
      obtain ⟨b', hb', heq⟩ := ih (fun draw hmem => hstep draw (List.mem_cons_of_mem _ hmem)) hnext
        (Nat.lt_of_succ_lt_succ hk)
      rw [Nat.succ_add_eq_add_succ] at hb'
      exact ⟨b', hb', heq⟩

/-- After so many delays the interval is doubled as often. -/
theorem IsAt.series (h : b.IsAt interval greatest) (hdraws : ∀ draw ∈ draws, draw.Grows) {k : Nat}
    (hk : k < draws.length) :
    ∃ b' : Backoff, b'.IsAt (interval * 2 ^ k) greatest ∧
      (b.series draws)[k]? = some (b'.next draws[k]).1 := by
  -- What the draws keep is that at position `k` the interval is doubled `k` times.
  have hstep : ∀ draw ∈ draws, ∀ k (b : Backoff), b.IsAt (interval * 2 ^ k) greatest →
      (b.next draw).2.IsAt (interval * 2 ^ (k + 1)) greatest := by
    intro draw hmem k b hb
    rw [pow_succ, ← mul_assoc]
    exact hb.next (hdraws draw hmem)
  have hseries := exists_series_eq (φ := fun k b => b.IsAt (interval * 2 ^ k) greatest) hstep
    (i := 0) (by simpa using h) hk
  rwa [Nat.zero_add] at hseries

/-- How the delays of a schedule from a least to a greatest interval grow. -/
structure Doubles (least greatest : Nat) : Prop where
  /-- Without jitter the delays double up to the greatest interval. -/
  plain : ∀ draws : List Draw, (∀ draw ∈ draws, draw.Plain) →
    (jittered least greatest).series draws =
      (List.range draws.length).map fun k => min (least * 2 ^ k) greatest
  /-- Whenever the schedule gives up, the greatest interval is slept. -/
  exhausted : ∀ draws : List Draw, (∀ draw ∈ draws, draw.Grows ∨ draw.GivesUp) →
    ∀ (k : Nat) (hk : k < draws.length), draws[k].GivesUp →
      ((jittered least greatest).series draws)[k]? = some greatest
  /-- Whatever the jitter is, no delay is longer than the greatest interval, and none is shorter
  than half of what it is without. -/
  moved : ∀ draws : List Draw, (∀ draw ∈ draws, draw.Grows) → ∀ k < draws.length,
    ∃ d, ((jittered least greatest).series draws)[k]? = some d ∧ d ≤ greatest ∧
      min (least * 2 ^ k) greatest ≤ 2 * d
  /-- The draws of a poll are of these kinds: whatever the jitter is, without it, and where the
  schedule gives up. -/
  drawn : (∀ offset, (Draw.moved offset).Grows) ∧ (Draw.moved 0).Plain ∧ Draw.givingUp.GivesUp

/-- The delays double up to the greatest interval, whatever the two intervals are: also if the
greatest one is not reached by doubling, or is the shorter one. -/
theorem doubles (least greatest : Nat) : Doubles least greatest := by
  have hstart := jittered_isAt least greatest
  constructor
  case plain =>
    intro draws hdraws
    -- The two lists agree at each position, and are of one length.
    refine List.ext_getElem? fun k => ?_
    rcases Nat.lt_or_ge k draws.length with hk | hk
    · obtain ⟨b, hb, heq⟩ := hstart.series (fun draw hmem => (hdraws draw hmem).toGrows) hk
      rw [heq, hb.next_eq (hdraws _ (List.getElem_mem hk)), List.getElem?_map,
        List.getElem?_range hk, Option.map_some]
    · rw [List.getElem?_eq_none (by rwa [length_series]), List.getElem?_eq_none (by simpa using hk)]
  case exhausted =>
    intro draws hdraws k hk hup
    -- A draw that gives up may leave any interval, but never another greatest one.
    have hstep : ∀ draw ∈ draws, ∀ (_ : Nat) (b : Backoff), b.greatest = greatest →
        (b.next draw).2.greatest = greatest := by
      rintro draw hmem - b rfl
      rcases hdraws draw hmem with hdraw | hdraw
      · show (draw b).2.greatest = _
        rw [hdraw.grown]
      · exact hdraw.kept b
    obtain ⟨b, hb, heq⟩ := exists_series_eq hstep (i := 0) hstart.greatest_eq hk
    rw [heq, next_of_givesUp hup, hb]
  case moved =>
    intro draws hdraws k hk
    obtain ⟨b, hb, heq⟩ := hstart.series hdraws hk
    exact ⟨_, heq, hb.greatest_eq ▸ next_le b _, hb.le_next (hdraws _ (List.getElem_mem hk))⟩
  case drawn => exact ⟨Draw.moved_grows, Draw.moved_zero_plain, Draw.givingUp_givesUp⟩

/-- The greatest interval lies between two doublings, then below the least one. -/
example : (jittered 3 10).delays false 4 = [3, 6, 10, 10] ∧
    (jittered 5 3).delays false 3 = [3, 3, 3] := by decide

end Rollout.Backoff
