import Rollout.Proofs.Deciding
import Rollout.Proofs.Protocol

/-!
# Leases that may be alive

A lease that is given up is forgotten without a call only if the control plane has dropped it
already. What tells is the local clock, which may differ from the control plane's by `clockSkew`. A
lease is held up to its expiry, and stale beyond the expiry and the skew, so there is a gap between
the two in which it is neither: it is not used any more, but it may be alive, and it is released.

The program reads its clock in milliseconds. Here the same comparisons are made of instants of the
whole calendar to the nanosecond, with spans of time that may overflow. They never do, the two agree
where both can be asked, and a clock that shows milliseconds only never makes a lease stale too
early.

## Main statements

- `Instant.since?_eq`: the span between two instants can always be held.
- `Lease.Precise.wellTimed`: what is certain of being held and of being stale.
- `Handle.release_asks`, `Handle.release_barred`: what becomes of a lease that is not stale.
- `Handle.spares_alive`: a lease that is alive on the control plane's clock is released by a call,
  unless the deployment has been canceled, and then the caller is told.
-/

namespace Rollout

/-! ## Instants -/

/-- An instant of the calendar, to the nanosecond since the start of 1970. -/
structure Instant where
  nanos : Int
  least_le : -8334601228800000000000 ≤ nanos
  le_greatest : nanos ≤ 8210266876799999999999

namespace Instant

/-- The nanoseconds of a millisecond. -/
def perMilli : Int := 1000000

/-- The longest span of time either way: one of as many milliseconds as 64 bits hold. -/
def longestSpan : Int := 9223372036854775807 * perMilli

/-- The nanoseconds from an instant to a later one, if the span can be held. -/
def since? (t e : Instant) : Option Int :=
  if -longestSpan ≤ t.nanos - e.nanos ∧ t.nanos - e.nanos ≤ longestSpan then
    some (t.nanos - e.nanos)
  else none

/-- What a clock shows at an instant: a part of a millisecond is not seen. -/
def millis (t : Instant) : Int := t.nanos / perMilli

/-- The span between two instants of the calendar can always be held. -/
theorem since?_eq (t e : Instant) : t.since? e = some (t.nanos - e.nanos) := by
  have ht := t.least_le
  have ht' := t.le_greatest
  have he := e.least_le
  have he' := e.le_greatest
  apply if_pos
  unfold longestSpan perMilli
  omega

end Instant

/-- The instant of a timestamp. -/
def Timestamp.instant (t : Timestamp) : Instant where
  nanos := t.millis * Instant.perMilli
  least_le := by
    have := t.least_le
    unfold Instant.perMilli
    omega
  le_greatest := by
    have := t.le_greatest
    unfold Instant.perMilli
    omega

/-! ## Being held and being stale -/

namespace Lease

/-- A lease whose expiry may be any instant. -/
structure Precise where
  nonce : String
  expiresAt : Option Instant

/-- How far the local clock and the control plane's may differ, in nanoseconds. -/
def preciseSkew : Int := clockSkew * Instant.perMilli

namespace Precise

variable {l : Precise} {t e : Instant}

/-- Whether the lease may be used at an instant. -/
def isHeldAt (l : Precise) (t : Instant) : Bool :=
  l.nonce != "" && l.expiresAt.any (t.nanos < ·.nanos)

/-- Whether the control plane has dropped the lease at an instant, unless that cannot be
computed. -/
def isStaleAt? (l : Precise) (t : Instant) : Option Bool :=
  match l.expiresAt with
  | some e => (t.since? e).map (preciseSkew < ·)
  | none => some true

/-- A lease is held if it has a nonce and expires later. -/
theorem isHeldAt_iff : l.isHeldAt t = true ↔
    l.nonce ≠ "" ∧ ∃ e, l.expiresAt = some e ∧ t.nanos < e.nanos := by
  cases h : l.expiresAt <;> simp [isHeldAt, h]

/-- With an expiry, a lease is stale when the skew has passed since. -/
theorem isStaleAt?_of_some (h : l.expiresAt = some e) :
    l.isStaleAt? t = some (decide (preciseSkew < t.nanos - e.nanos)) := by
  simp only [isStaleAt?, h, Instant.since?_eq, Option.map_some]

/-- Without one it is stale. -/
theorem isStaleAt?_of_none (h : l.expiresAt = none) : l.isStaleAt? t = some true := by
  simp only [isStaleAt?, h]

/-- It is stale if it expired longer ago than the skew. -/
theorem isStaleAt?_eq_true_iff (h : l.expiresAt = some e) :
    l.isStaleAt? t = some true ↔ preciseSkew < t.nanos - e.nanos := by
  rw [isStaleAt?_of_some h, Option.some.injEq, decide_eq_true_iff]

/-- It is not stale if it expired within the skew, or will. -/
theorem isStaleAt?_eq_false_iff (h : l.expiresAt = some e) :
    l.isStaleAt? t = some false ↔ t.nanos - e.nanos ≤ preciseSkew := by
  rw [isStaleAt?_of_some h, Option.some.injEq, decide_eq_false_iff_not, Int.not_lt]

/-- What is certain of a lease, whenever it is asked for. -/
structure WellTimed (l : Precise) : Prop where
  /-- Nothing overflows. -/
  computes : ∀ t, ∃ stale, l.isStaleAt? t = some stale
  /-- A lease is never held and stale at once. -/
  exclusive : ∀ t, l.isHeldAt t = true → l.isStaleAt? t = some false
  held_antitone : ∀ t t' : Instant, t.nanos ≤ t'.nanos → l.isHeldAt t' = true →
    l.isHeldAt t = true
  stale_monotone : ∀ t t' : Instant, t.nanos ≤ t'.nanos → l.isStaleAt? t = some true →
    l.isStaleAt? t' = some true
  /-- A lease is not stale as long as it is unexpired on a clock that differs by the skew at
  most. -/
  alive : ∀ (t e : Instant) (d : Int), l.expiresAt = some e → -preciseSkew ≤ d →
    d ≤ preciseSkew → t.nanos + d < e.nanos → l.isStaleAt? t = some false

/-- These things are certain of every lease. -/
theorem wellTimed (l : Precise) : l.WellTimed where
  computes := by
    intro t
    cases h : l.expiresAt with
    | none => exact ⟨true, isStaleAt?_of_none h⟩
    | some e => exact ⟨_, isStaleAt?_of_some h⟩
  exclusive := by
    intro t hheld
    obtain ⟨-, e, he, hlt⟩ := isHeldAt_iff.mp hheld
    -- A lease that is held has not expired, so nothing has passed since.
    have hskew : 0 ≤ preciseSkew := by decide
    rw [isStaleAt?_eq_false_iff he]
    omega
  held_antitone := by
    intro t t' hle hheld
    obtain ⟨hnonce, e, he, hlt⟩ := isHeldAt_iff.mp hheld
    exact isHeldAt_iff.mpr ⟨hnonce, e, he, by omega⟩
  stale_monotone := by
    intro t t' hle hstale
    cases h : l.expiresAt with
    | none => exact isStaleAt?_of_none h
    | some e =>
      rw [isStaleAt?_eq_true_iff h] at hstale ⊢
      omega
  alive := by
    intro t e d he hleast hgreatest hlt
    rw [isStaleAt?_eq_false_iff he]
    omega

end Precise

/-- A lease among those that expire at any instant. -/
def precise (l : Lease) : Precise := ⟨l.nonce, l.expiresAt.map Timestamp.instant⟩

variable {l : Lease} {e : Timestamp}

/-- What a clock shows is enough to tell whether the lease is held. -/
theorem isHeldAt_millis (l : Lease) (t : Instant) : l.isHeldAt t.millis = l.precise.isHeldAt t := by
  -- An expiry is a whole millisecond, so a part of one makes no difference.
  have hlt : ∀ e : Timestamp, t.millis < e.millis ↔ t.nanos < e.instant.nanos := by
    intro e
    unfold Instant.millis Timestamp.instant Instant.perMilli
    dsimp only
    omega
  cases h : l.expiresAt <;> simp [isHeldAt, Precise.isHeldAt, precise, h, hlt]

/-- The expiry is at the instant of its timestamp. -/
theorem precise_expiresAt (h : l.expiresAt = some e) :
    l.precise.expiresAt = some e.instant := by
  rw [precise, h]
  rfl

/-- At a whole millisecond a clock shows whether the lease is stale. -/
theorem isStaleAt_timestamp (l : Lease) (t : Timestamp) :
    l.precise.isStaleAt? t.instant = some (l.isStaleAt t.millis) := by
  cases h : l.expiresAt with
  | none => rw [Precise.isStaleAt?_of_none (by simp [precise, h]), isStaleAt, h]
  | some e =>
    -- Whole milliseconds differ as their nanoseconds do.
    have hiff : preciseSkew < t.instant.nanos - e.instant.nanos ↔
        clockSkew < t.millis - e.millis := by
      unfold preciseSkew clockSkew Timestamp.instant Instant.perMilli
      dsimp only
      omega
    rw [Precise.isStaleAt?_of_some (precise_expiresAt h), isStaleAt, h]
    exact congrArg some (decide_eq_decide.mpr hiff)

/-- A clock that does not show parts of a millisecond makes no lease stale too early. -/
theorem isStaleAt_millis (l : Lease) (t : Instant) (h : l.isStaleAt t.millis = true) :
    l.precise.isStaleAt? t = some true := by
  cases hexpiry : l.expiresAt with
  | none => exact Precise.isStaleAt?_of_none (by simp [precise, hexpiry])
  | some e =>
    -- The part of a millisecond that is not shown only adds to the time that has passed.
    have hbeyond : clockSkew < t.millis - e.millis := by
      rw [isStaleAt, hexpiry] at h
      exact decide_eq_true_iff.mp h
    rw [Precise.isStaleAt?_eq_true_iff (precise_expiresAt hexpiry)]
    unfold Instant.millis clockSkew Instant.perMilli at hbeyond
    unfold preciseSkew clockSkew Timestamp.instant Instant.perMilli
    dsimp only
    omega

/-- Whether the program, by the milliseconds that a clock shows, makes of the lease what it is. -/
structure IsShown (l : Lease) : Prop where
  held : ∀ t : Instant, l.isHeldAt t.millis = l.precise.isHeldAt t
  stale : ∀ t : Timestamp, l.precise.isStaleAt? t.instant = some (l.isStaleAt t.millis)
  /-- A part of a millisecond that is not shown makes no lease stale too early. -/
  notEarly : ∀ t : Instant, l.isStaleAt t.millis = true → l.precise.isStaleAt? t = some true

/-- The program's comparisons agree with those of instants. -/
theorem isShown (l : Lease) : l.IsShown :=
  ⟨l.isHeldAt_millis, l.isStaleAt_timestamp, l.isStaleAt_millis⟩

/-- Whether a lease may be alive when a clock shows a time: it is unexpired on the control plane's
clock, if that differs by the skew at most. -/
structure MayLive (l : Lease) (now : Int) : Prop where
  nonce : l.nonce ≠ ""
  unexpired : ∃ (t e : Instant) (d : Int), now = t.millis ∧ l.precise.expiresAt = some e ∧
    -preciseSkew ≤ d ∧ d ≤ preciseSkew ∧ t.nanos + d < e.nanos

/-- A lease that may be alive is not stale. -/
theorem MayLive.isStaleAt {now : Int} (h : l.MayLive now) : l.isStaleAt now = false := by
  obtain ⟨t, e, d, rfl, he, hleast, hgreatest, hlt⟩ := h.unexpired
  have halive := l.precise.wellTimed.alive t e d he hleast hgreatest hlt
  -- If it were stale by the clock, it would be so at the instant.
  by_contra hstale
  rw [l.isStaleAt_millis t (by simpa using hstale)] at halive
  cases halive

end Lease

/-! ## Giving a lease up -/

namespace Handle

variable {σ : Type} {env : Environment σ} {s : Session σ} {h : Handle}

/-- A lease that is not stale is given up by a call. -/
theorem releasing_eq (hnonce : h.lease.nonce ≠ "")
    (hstale : h.lease.isStaleAt (env.clock s.readings s.now) = false) :
    ∃ resume, h.releasing env s =
        (.done (.ask (.release h.id h.lease.nonce) resume), (Run.readClock env s).2) ∧
      resume (.error .canceled) =
        ({ h with lease := {} }, .error (.canceled "lease release" h.id)) := by
  simp only [releasing, if_neg hnonce, Run.bind_run, Run.readClock, hstale, Bool.false_eq_true,
    if_false, Run.pure_run]
  exact ⟨_, rfl, rfl⟩

/-- A release of a lease that is not stale is a request, and when that is cut short, the lease is
gone all the same. -/
theorem release_eq (hnonce : h.lease.nonce ≠ "")
    (hstale : h.lease.isStaleAt (env.clock s.readings s.now) = false) :
    ∃ resume : Except Interruption (Call.release h.id h.lease.nonce).Outcome →
        Handle × Except DeployError Unit,
      release h env s = (Run.request {} (.release h.id h.lease.nonce) >>= fun r =>
        return resume r) env (Run.readClock env s).2 ∧
      resume (.error .canceled) =
        ({ h with lease := {} }, .error (.canceled "lease release" h.id)) := by
  obtain ⟨resume, hreleasing, hresume⟩ := releasing_eq hnonce hstale
  refine ⟨resume, ?_, hresume⟩
  unfold release
  rw [Run.bind_run, hreleasing]
  rfl

/-- A lease that is not stale is given up by a call. -/
theorem release_asks (hnonce : h.lease.nonce ≠ "")
    (hstale : h.lease.isStaleAt (env.clock s.readings s.now) = false)
    (hcanceled : s.isCanceled = false) :
    (.asked (.release h.id h.lease.nonce) s.now :: .looked (env.clock s.readings s.now) :: s.past)
      <:+ (release h env s).2.past := by
  obtain ⟨resume, hrelease, -⟩ := release_eq hnonce hstale
  -- To read the clock cancels nothing.
  have hlooked : (Run.readClock env s).2.isCanceled = false := hcanceled
  have hasks := Run.request_asks env (.release h.id h.lease.nonce) hlooked
  rw [hrelease, Run.bind_pure_session]
  exact hasks

/-- Of a deployment that has been canceled a lease that is not stale is not given up, and the caller
is told. -/
theorem release_barred (hnonce : h.lease.nonce ≠ "")
    (hstale : h.lease.isStaleAt (env.clock s.readings s.now) = false)
    (hcanceled : s.isCanceled = true) :
    release h env s =
      (.done ({ h with lease := {} }, .error (.canceled "lease release" h.id)),
        (Run.readClock env s).2) := by
  obtain ⟨resume, hrelease, hresume⟩ := release_eq hnonce hstale
  have hlooked : (Run.readClock env s).2.isCanceled = true := hcanceled
  -- The request is barred before its call is made.
  rw [hrelease, Run.bind_run,
    request_barred (Bounds.interruption?_of_isCanceled rfl hlooked)]
  exact congrArg (fun x => (Ending.done x, (Run.readClock env s).2)) hresume

/-- What becomes of a lease that may be alive when it is given up. -/
structure SparesAlive (env : Environment σ) (h : Handle) (s : Session σ) : Prop where
  /-- The clock is read, and then the control plane is asked to release the lease. -/
  asked : h.lease.MayLive (env.clock s.readings s.now) → s.isCanceled = false →
    (.asked (.release h.id h.lease.nonce) s.now :: .looked (env.clock s.readings s.now) :: s.past)
      <:+ (release h env s).2.past
  /-- Of a deployment that has been canceled nothing is asked, but the caller is told. -/
  told : h.lease.MayLive (env.clock s.readings s.now) → s.isCanceled = true →
    release h env s =
      (.done ({ h with lease := {} }, .error (.canceled "lease release" h.id)),
        (Run.readClock env s).2)

/-- No lease that may be alive is dropped silently. Whether a lease is held or stale is computed
without overflow at all instants, as the program does it. It is never both, one that is not held
any more is never held again, and one that is stale stays so. No lease is stale that is
unexpired on the control plane's clock, so that one is released by a call. Only if the deployment
has been canceled there is no call, and then the caller is told. -/
theorem spares_alive (σ : Type) :
    (∀ l : Lease.Precise, l.WellTimed) ∧ (∀ l : Lease, l.IsShown) ∧
      ∀ (env : Environment σ) (h : Handle) (s : Session σ), SparesAlive env h s := by
  refine ⟨Lease.Precise.wellTimed, Lease.isShown, fun env h s => ⟨?_, ?_⟩⟩
  · -- What may be alive is not stale, so there is a call.
    intro hlive hcanceled
    exact release_asks hlive.nonce hlive.isStaleAt hcanceled
  · intro hlive hcanceled
    exact release_barred hlive.nonce hlive.isStaleAt hcanceled

/-- A handle with a lease for the first second and a little more. -/
def leasedBriefly : Handle where
  machine := { id := "m1" }
  lease := { nonce := "nonce", expiresAt := some { millis := 1001 } }

/-- A lease that has expired almost five seconds ago may be alive, and is released. -/
theorem spares_alive_leasedBriefly : leasedBriefly.lease.isHeldAt 6000 = false ∧
    leasedBriefly.lease.MayLive 6000 ∧
    .asked (.release "m1" "nonce") 0 ∈
      (release leasedBriefly { Environment.obliging with clock := fun _ _ => 6000 }
        { remote := () }).2.past := by
  have hlive : leasedBriefly.lease.MayLive 6000 := {
    nonce := by decide
    unexpired := ⟨⟨6000000000, by decide, by decide⟩, _, -Lease.preciseSkew, rfl, rfl, by decide,
      by decide, by decide⟩ }
  have hasked := ((spares_alive Unit).2.2 { Environment.obliging with clock := fun _ _ => 6000 }
    leasedBriefly { remote := () }).asked hlive rfl
  exact ⟨by decide, hlive, hasked.subset List.mem_cons_self⟩

/-- Of a deployment that has been canceled a lease that is alive is not released. -/
theorem canceled_release_asks_nothing : leasedBriefly.lease.MayLive 0 ∧
    leasedBriefly.lease.isHeldAt 0 = true ∧ ∀ c time, .asked c time ∉
      (release leasedBriefly .obliging { remote := (), cancelAt := some 0 }).2.past := by
  refine ⟨⟨by decide, ⟨0, by decide, by decide⟩, _, 0, rfl, rfl, by decide, by decide, by decide⟩,
    by decide, fun c time hmem => ?_⟩
  have hpast : (release leasedBriefly .obliging { remote := (), cancelAt := some 0 }).2.past =
      [.looked 0] := rfl
  rw [hpast] at hmem
  simp at hmem

end Handle

end Rollout
