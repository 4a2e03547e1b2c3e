import Mathlib.Algebra.Order.Group.Multiset
import Rollout.Fleet.Basic
import Rollout.Proofs.Request

/-!
# The ledger of leases

Which leases are open is read off the past alone: a lease is opened by the answer that grants it,
and closed by asking for its release, by the answer that its machine is destroyed, or by dropping
it when it is stale. A past in which a lease is closed that is not open has no ledger. So a ledger
says that no lease is closed twice, and `Ledger.balance` counts it.

`Entitled` says what a call needs that is made under a lease, and `Books` is the invariant that
every part of a rollout keeps: all such calls were entitled, and what the program still has is
open.

## Main statements

- `Ledger.balance`: as many leases of a nonce were granted as were closed or are still open.
- `Books.granted`, `Books.released`, `Books.destroyed`, `Books.dropped`: how the books are kept.
- `Books.adds`: calls that have nothing to do with leases leave the books as they are.
-/

namespace Rollout

variable {σ : Type} {env : Environment σ}

/-- A lease that is open on a machine. -/
structure Holding where
  machine : String
  lease : Lease
deriving DecidableEq

/-- Whether a holding is of a machine and a nonce. -/
def Holding.isOf (machine nonce : String) (x : Holding) : Bool :=
  x.machine == machine && x.lease.nonce == nonce

/-! ## Steps that open and close leases -/

namespace Step

/-- Whether a step is the answer that grants the lease of a nonce on a machine. -/
def grants (machine nonce : String) : Step → Bool
  | .answered (.acquire id _) (.ok reply) =>
    match Lease.ofReply id reply with
    | .ok lease => id == machine && lease.nonce == nonce
    | .error _ => false
  | _ => false

/-- Whether a step asks for the release of the lease of a nonce on a machine. -/
def releases (machine nonce : String) : Step → Bool
  | .asked (.release id n) _ => id == machine && n == nonce
  | _ => false

/-- Whether a step is the answer that a machine was destroyed under the lease of a nonce. -/
def destroys (machine nonce : String) : Step → Bool
  | .answered (.destroy id n) (.ok _) => id == machine && n == nonce
  | _ => false

/-- Whether a step drops the lease of a nonce on a machine. -/
def drops (machine nonce : String) : Step → Bool
  | .dropped id n => id == machine && n == nonce
  | _ => false

/-- Whether a step opens or closes the lease of a nonce on a machine. -/
def moves (machine nonce : String) (step : Step) : Bool :=
  step.grants machine nonce || step.releases machine nonce || step.destroys machine nonce
    || step.drops machine nonce

end Step

/-! ## The ledger -/

/-- The leases that were granted since a moment and are open. -/
inductive Ledger (base : List Step) : List Step → Multiset Holding → Prop where
  | start : Ledger base base 0
  | granted {past held} {id ttl reply lease} (h : Ledger base past held)
      (hlease : Lease.ofReply id reply = .ok lease) :
      Ledger base (.answered (.acquire id ttl) (.ok reply) :: past) (⟨id, lease⟩ ::ₘ held)
  | released {past held} {id lease time} (h : Ledger base past (⟨id, lease⟩ ::ₘ held)) :
      Ledger base (.asked (.release id lease.nonce) time :: past) held
  | destroyed {past held} {id lease} (h : Ledger base past (⟨id, lease⟩ ::ₘ held)) :
      Ledger base (.answered (.destroy id lease.nonce) (.ok ()) :: past) held
  /-- Only a stale lease may be dropped. -/
  | dropped {past held} {id lease now}
      (h : Ledger base (.looked now :: past) (⟨id, lease⟩ ::ₘ held))
      (hstale : lease.isStaleAt now) :
      Ledger base (.dropped id lease.nonce :: .looked now :: past) held
  | other {past held step} (h : Ledger base past held)
      (hstep : ∀ machine nonce, step.moves machine nonce = false) : Ledger base (step :: past) held

namespace Ledger

variable {base past : List Step} {held : Multiset Holding}

/-- A ledger is about what was added to its past. -/
theorem suffix (h : Ledger base past held) : base <:+ past := by
  induction h with
  | start => exact List.suffix_rfl
  | granted _ _ ih | released _ ih | destroyed _ ih | dropped _ _ ih | other _ _ ih =>
    exact ih.trans (List.suffix_cons _ _)

/-- The last step since a moment, if there is a past to which it was added. -/
private theorem eq_cons_of_append_eq {new : List Step} {step : Step} (h : base <:+ past)
    (hpast : new ++ base = step :: past) : ∃ new', new = step :: new' ∧ new' ++ base = past := by
  cases new with
  | nil =>
    -- With nothing new, the past of the step would be a longer one than the moment itself.
    have hlength := h.length_le
    rw [List.nil_append] at hpast
    rw [hpast, List.length_cons] at hlength
    omega
  | cons s new' =>
    rw [List.cons_append, List.cons.injEq] at hpast
    exact ⟨new', by rw [hpast.1], hpast.2⟩

/-- A step more counts once, if it counts. -/
private theorem countP_step (p : Step → Bool) (step : Step) (steps : List Step) :
    (step :: steps).countP p = steps.countP p + (p step).toNat := by
  rw [List.countP_cons]
  cases p step <;> rfl

/-- A holding more counts once, if it is of the machine and of the nonce. -/
private theorem countP_holding (id : String) (lease : Lease) (machine nonce : String) :
    (⟨id, lease⟩ ::ₘ held).countP (Holding.isOf machine nonce ·) =
      held.countP (Holding.isOf machine nonce ·) +
        (id == machine && lease.nonce == nonce).toNat := by
  rw [Multiset.countP_cons]
  unfold Holding.isOf
  cases id == machine && lease.nonce == nonce <;> rfl

/-- As many leases of a nonce on a machine were granted as were released, went with the machine,
were dropped, or are still open. -/
theorem balance {new : List Step} (h : Ledger base (new ++ base) held) (machine nonce : String) :
    new.countP (Step.grants machine nonce) =
      new.countP (Step.releases machine nonce) + new.countP (Step.destroys machine nonce)
        + new.countP (Step.drops machine nonce) + held.countP (Holding.isOf machine nonce ·) := by
  generalize hpast : new ++ base = past at h
  -- One step at a time: a step that opens or closes a lease counts on one side and in the holdings.
  induction h generalizing new with
  | start =>
    -- Nothing happened, and nothing is open.
    have hnew : new = [] := List.append_left_eq_self.mp hpast
    subst hnew
    rfl
  | granted h hlease ih =>
    obtain ⟨new, rfl, hnew⟩ := eq_cons_of_append_eq h.suffix hpast
    have ih := ih hnew
    simp only [countP_step, Step.grants, Step.releases, Step.destroys, Step.drops, hlease,
      countP_holding, Bool.toNat_false]
    omega
  | released h ih | destroyed h ih | dropped h _ ih =>
    -- What is given up was open before: one less is open and one more is counted.
    obtain ⟨new, rfl, hnew⟩ := eq_cons_of_append_eq h.suffix hpast
    have ih := ih hnew
    rw [countP_holding] at ih
    simp only [countP_step, Step.grants, Step.releases, Step.destroys, Step.drops,
      Bool.toNat_false]
    omega
  | other h hstep ih =>
    obtain ⟨new, rfl, hnew⟩ := eq_cons_of_append_eq h.suffix hpast
    have ih := ih hnew
    -- Another step counts nowhere.
    have hnone := hstep machine nonce
    simp only [Step.moves, Bool.or_eq_false_iff] at hnone
    obtain ⟨⟨⟨hgrants, hreleases⟩, hdestroys⟩, hdrops⟩ := hnone
    simp only [countP_step, hgrants, hreleases, hdestroys, hdrops, Bool.toNat_false]
    omega

end Ledger

/-! ## The books of a rollout -/

namespace Call

/-- The nonce of the lease under which a call changes a machine. -/
def leaseNonce? : Call → Option String
  | update _ nonce | destroy _ nonce => some nonce
  | _ => none

/-- Whether a call has nothing to do with leases. -/
def IsFree : Call → Prop
  | update .. | destroy .. | acquire .. | release .. => False
  | _ => True

/-- What has nothing to do with leases names none. -/
theorem IsFree.leaseNonce?_eq_none {c : Call} (h : c.IsFree) : c.leaseNonce? = none := by
  cases c <;> first | rfl | exact h.elim

end Call

/-- What is about a call that has nothing to do with leases moves none. -/
theorem Step.moves_eq_false {step : Step} (h : step.Within Call.IsFree) (machine nonce : String) :
    step.moves machine nonce = false := by
  cases step with
  | asked c time => cases c <;> first | exact h.elim | rfl
  | answered c o => cases c <;> first | exact h.elim | rfl
  | dropped id nonce => exact h.elim
  | _ => rfl

/-- A call that is made under a lease names the machine of a lease that was granted since a
moment, is still open, and is held by the clock that was read right before. -/
def Entitled (base before : List Step) (c : Call) : Prop :=
  ∀ nonce, c.leaseNonce? = some nonce → ∃ now older id lease held,
    before = .looked now :: older ∧ Ledger base before (⟨id, lease⟩ ::ₘ held) ∧
    c.machineId? = some id ∧ lease.nonce = nonce ∧ lease.isHeldAt now

/-- The books of a program since a moment: every call was entitled, and what the program has is
open. Beside it there may be leases that were lost, but only to a cancellation that came as
leases were given up. -/
structure Books (env : Environment σ) (base : List Step) (held : Multiset Holding)
    (past : List Step) : Prop where
  entitled : CallsSince base past (Entitled base)
  ledger : ∃ lost, Ledger base past (lost + held) ∧ (env.SparesRelease → lost = 0)

namespace Books

variable {base past past' : List Step} {held : Multiset Holding}

/-- At the start nothing was called and nothing is open. -/
theorem start : Books env base 0 base := ⟨.refl, 0, .start, fun _ => rfl⟩

/-- What is no call and moves no lease. -/
theorem other (h : Books env base held past) {step : Step} (hcall : step.call? = none)
    (hstep : ∀ machine nonce, step.moves machine nonce = false) :
    Books env base held (step :: past) := by
  obtain ⟨hcalls, lost, hledger, hlost⟩ := h
  exact ⟨hcalls.skip hcall, lost, hledger.other hstep, hlost⟩

/-- A look at the clock leaves the books as they are. -/
theorem looked (h : Books env base held past) (now : Int) :
    Books env base held (.looked now :: past) :=
  h.other rfl fun _ _ => rfl

/-- A call that is entitled, if it is made under a lease, and gives up none. -/
theorem asked (h : Books env base held past) {c : Call} (hc : Entitled base past c) (time : Nat)
    (hstep : ∀ machine nonce, (Step.asked c time).moves machine nonce = false) :
    Books env base held (.asked c time :: past) := by
  obtain ⟨hcalls, lost, hledger, hlost⟩ := h
  exact ⟨hcalls.asked time hc, lost, hledger.other hstep, hlost⟩

/-- A call that is not made under a lease. -/
private theorem entitled_of_none {c : Call} (h : c.leaseNonce? = none) : Entitled base past c := by
  intro nonce hnonce
  rw [h] at hnonce
  cases hnonce

/-- Calls that have nothing to do with leases leave the books as they are. -/
theorem adds {φ : Call → Prop} (h : Books env base held past) (hadds : Adds φ past past')
    (hφ : ∀ c, φ c → c.IsFree) : Books env base held past' := by
  obtain ⟨new, rfl, hnew⟩ := hadds
  -- By induction on the steps that were added, the latest first.
  induction new with
  | nil => exact h
  | cons step new ih =>
    rw [List.forall_mem_cons] at hnew
    -- No step of a free call opens or closes a lease, so the ledger goes on with it.
    have hstep := Step.moves_eq_false (hnew.1.mono hφ)
    cases step with
    | asked c time =>
      exact (ih hnew.2).asked (entitled_of_none (hφ c hnew.1).leaseNonce?_eq_none) time hstep
    | _ => exact (ih hnew.2).other rfl hstep

/-- A lease that is granted is open from then on. -/
theorem granted (h : Books env base held past) {id : String} {ttl : Nat} {reply : Lease.Reply}
    {lease : Lease} (hlease : Lease.ofReply id reply = .ok lease) :
    Books env base (⟨id, lease⟩ ::ₘ held) (.answered (.acquire id ttl) (.ok reply) :: past) := by
  obtain ⟨hcalls, lost, hledger, hlost⟩ := h
  refine ⟨hcalls.skip rfl, lost, ?_, hlost⟩
  -- What was lost stays beside what is held.
  rw [Multiset.add_cons]
  exact hledger.granted hlease

/-- A lease whose release is asked for is closed, whatever becomes of the call. -/
theorem released {id : String} {lease : Lease} (h : Books env base (⟨id, lease⟩ ::ₘ held) past)
    (time : Nat) : Books env base held (.asked (.release id lease.nonce) time :: past) := by
  obtain ⟨hcalls, lost, hledger, hlost⟩ := h
  rw [Multiset.add_cons] at hledger
  exact ⟨hcalls.asked time (entitled_of_none rfl), lost, hledger.released, hlost⟩

/-- The lease of a machine is closed with the machine. -/
theorem destroyed {id : String} {lease : Lease} (h : Books env base (⟨id, lease⟩ ::ₘ held) past) :
    Books env base held (.answered (.destroy id lease.nonce) (.ok ()) :: past) := by
  obtain ⟨hcalls, lost, hledger, hlost⟩ := h
  rw [Multiset.add_cons] at hledger
  exact ⟨hcalls.skip rfl, lost, hledger.destroyed, hlost⟩

/-- A stale lease may be dropped without a call. -/
theorem dropped {id : String} {lease : Lease} {now : Int}
    (h : Books env base (⟨id, lease⟩ ::ₘ held) (.looked now :: past))
    (hstale : lease.isStaleAt now) :
    Books env base held (.dropped id lease.nonce :: .looked now :: past) := by
  obtain ⟨hcalls, lost, hledger, hlost⟩ := h
  rw [Multiset.add_cons] at hledger
  exact ⟨hcalls.skip rfl, lost, hledger.dropped hstale, hlost⟩

/-- What is held may be lost where leases may be lost at all. -/
theorem lose {lost : Multiset Holding} (h : Books env base (lost + held) past)
    (hspares : ¬ env.SparesRelease) : Books env base held past := by
  obtain ⟨hcalls, lost', hledger, -⟩ := h
  -- What is lost now joins what was lost before.
  rw [← add_assoc] at hledger
  exact ⟨hcalls, lost' + lost, hledger, fun h => absurd h hspares⟩

/-- Asking for a lease opens none yet. -/
theorem acquireAsked (h : Books env base held past) (id : String) (ttl time : Nat) :
    Books env base held (.asked (.acquire id ttl) time :: past) :=
  h.asked (entitled_of_none rfl) time fun _ _ => rfl

end Books

/-- The books are kept of what a value has that is worked on, however the work ends. -/
def Books.post {τ α : Type} (env : Environment σ) (base : List Step)
    (held : τ → Multiset Holding) : Work.Post σ τ α where
  ok t _ s := Books env base (held t) s.past
  error t _ s := Books env base (held t) s.past
  halts _ s := CallsSince base s.past (Entitled base)

/-- Programs that make only calls that have nothing to do with leases keep the books. -/
theorem Books.free {α : Type} {base : List Step} {held : Multiset Holding} {x : Run σ α}
    (hx : x.Calls Call.IsFree) :
    Run.Triple env (fun s => Books env base held s.past) x
      ⟨fun _ s => Books env base held s.past,
        fun _ s => CallsSince base s.past (Entitled base)⟩ := by
  refine hx.triple.mono (fun _ hs => hs) ?_ ?_
  · -- A past that is only added to by free calls has the books it had.
    rintro a s ⟨s₀, h₀, hadds⟩
    exact h₀.adds hadds fun _ hc => hc
  · rintro e s ⟨s₀, h₀, hadds⟩
    exact (h₀.adds hadds fun _ hc => hc).entitled

/-- Work that makes only calls that have nothing to do with leases keeps the books. -/
theorem Books.free_work {τ α : Type} {base : List Step} {held : Multiset Holding}
    {x : Work σ τ α} (hx : x.Calls Call.IsFree) :
    Work.Triple env (fun _ s => Books env base held s.past) x
      (Books.post env base (fun _ => held)) := by
  refine fun t => (Books.free (hx t)).mono (fun _ hs => hs) ?_ (fun _ _ hs => hs)
  rintro ⟨t', _ | _⟩ s hs <;> exact hs

/-- A call that has nothing to do with leases keeps the books, and leaves the value alone. -/
theorem Books.call {τ : Type} {base : List Step} {held : τ → Multiset Holding} {K : τ → Prop}
    {c : Call} {what machine : String} (hc : c.IsFree) :
    Work.Triple env (fun t s => Books env base (held t) s.past ∧ K t) (Work.call c what machine)
      ⟨fun t _ s => Books env base (held t) s.past ∧ K t,
        fun t _ s => Books env base (held t) s.past,
        fun _ s => CallsSince base s.past (Entitled base)⟩ := by
  have hasked : ∀ p time, Adds Call.IsFree p (.asked c time :: p) :=
    fun p time => Adds.refl.asked hc
  refine Work.Triple.call (K := fun t p => Books env base (held t) p ∧ K t)
    (R := fun t _ p => Books env base (held t) p ∧ K t)
    (E := fun t _ p => Books env base (held t) p)
    (H := fun p => CallsSince base p (Entitled base)) ?_ ?_ ?_ ?_ ?_
  -- The call is not made; then it is cut short, refused, replied to, or never answered.
  · exact fun _ _ _ h => h.1
  · exact fun _ _ time p h => h.1.adds (hasked p time) fun _ hc => hc
  · exact fun _ _ time p h _ => h.1.adds ((hasked p time).answered hc) fun _ hc => hc
  · exact fun _ _ time p h _ => ⟨h.1.adds ((hasked p time).answered hc) fun _ hc => hc, h.2⟩
  · exact fun _ time p h => (h.1.adds (hasked p time) fun _ hc => hc).entitled

end Rollout
