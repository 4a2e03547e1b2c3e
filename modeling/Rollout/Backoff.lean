/-!
# Backoff

The delays between the tries of a poll. A delay starts at a least interval and doubles up to a
greatest one; what is slept is the delay with some jitter, but never more than the greatest.
All durations are in nanoseconds.
-/

namespace Rollout

/-- A schedule of growing delays. -/
structure Backoff where
  /-- The first interval. -/
  initial : Nat
  /-- The interval of the next delay. -/
  current : Nat
  /-- The greatest interval. -/
  greatest : Nat
deriving DecidableEq, Inhabited

namespace Backoff

/-- Nanoseconds of a millisecond. -/
def perMilli : Nat := 1000000

/-- Nanoseconds of a second. -/
def perSecond : Nat := 1000000000

/-- The jitter of a delay, as a percentage of its interval to either side. -/
def jitterPercent : Nat := 50

/-- The growth of the interval from one delay to the next, as a percentage. -/
def growthPercent : Nat := 200

/-- The schedule from a least to a greatest interval. It never gives up on its own. -/
def jittered (least greatest : Nat) : Backoff :=
  { initial := least, current := least, greatest := greatest }

/-- The schedule of polls for a state or an event. -/
def poll : Backoff := jittered (500 * perMilli) (2 * perSecond)

/-- The schedule of polls for health, from the shortest interval of the machine's checks. -/
def health (interval : Nat) : Backoff := jittered (interval / 2) (interval * 2)

/-- The interval after the present one. -/
def grown (b : Backoff) : Nat :=
  if b.greatest ≤ b.current * 2 then b.greatest else b.current * 2

/-- The interval doubles, up to the greatest one. -/
theorem grown_eq_min (b : Backoff) : b.grown = min (b.current * 2) b.greatest := by
  unfold grown
  split <;> omega

/-- The schedule after a delay was taken. -/
def advance (b : Backoff) : Backoff := { b with current := b.grown }

/-- The present interval, moved by `offset` but by no more than the jitter allows. -/
def movedBy (b : Backoff) (offset : Int) : Nat :=
  let reach : Int := (b.current * jitterPercent / 100 : Nat)
  (b.current + max (-reach) (min offset reach)).toNat

/-- One draw of a delay: the delay, or none where the schedule gives up, and the schedule after. -/
abbrev Draw := Backoff → Option Nat × Backoff

/-- Draws the interval with some jitter, and grows it. -/
def Draw.moved (offset : Int) : Draw := fun b => (some (b.movedBy offset), b.advance)

/-- Gives up, and leaves the interval as it is. -/
def Draw.givingUp : Draw := fun b => (none, b)

/-- The next delay of a schedule, and the schedule after it. A delay is never longer than the
greatest interval, which also stands in for it where the schedule gives up. -/
def next (b : Backoff) (draw : Draw) : Nat × Backoff :=
  (min ((draw b).1.getD b.greatest) b.greatest, (draw b).2)

@[simp] theorem next_moved (b : Backoff) (offset : Int) :
    b.next (.moved offset) = (min (b.movedBy offset) b.greatest, b.advance) := rfl

/-- No delay is longer than the greatest interval. -/
theorem next_le (b : Backoff) (draw : Draw) : (b.next draw).1 ≤ b.greatest := Nat.min_le_right _ _

/-- Without an offset the interval is drawn as it is. -/
theorem movedBy_zero (b : Backoff) : b.movedBy 0 = b.current := by
  simp only [movedBy, jitterPercent]
  omega

/-- The jitter takes away half of the interval at most. -/
theorem current_le_movedBy (b : Backoff) (offset : Int) : b.current ≤ 2 * b.movedBy offset := by
  simp only [movedBy, jitterPercent]
  omega

/-- The jitter adds half of the interval at most. -/
theorem movedBy_le (b : Backoff) (offset : Int) : 2 * b.movedBy offset ≤ 3 * b.current := by
  simp only [movedBy, jitterPercent]
  omega

/-- The delays of a schedule for a series of draws. -/
def series (b : Backoff) : List Draw → List Nat
  | [] => []
  | draw :: draws => (b.next draw).1 :: (b.next draw).2.series draws

/-- So many delays without jitter, of a schedule that gives up or doesn't. -/
def delays (b : Backoff) (givesUp : Bool) (n : Nat) : List Nat :=
  b.series (List.replicate n (if givesUp then .givingUp else .moved 0))

end Backoff

end Rollout
