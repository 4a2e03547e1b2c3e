import Rollout.Proofs.Fanout
import Rollout.Proofs.Handle
import Rollout.Proofs.Ledger

/-!
# How leases are taken, used and given up

What a handle and a fleet have is read off the leases in them. The operations on leases keep the
books of it: what is taken is had, what is given up is not, and a change is made only under what
is had.

## Main statements

- `Handle.update_books`, `Handle.destroy_books`: changes are entitled.
- `Fleet.acquire_books`: afterwards every member has a lease, or none has.
- `Fleet.release_books`: afterwards no member has a lease.
-/

namespace Rollout

variable {σ τ α : Type} {env : Environment σ} {base : List Step} {other : Multiset Holding}

namespace Lease

/-- A lease that is granted has a nonce. -/
theorem ofReply_nonce_ne {machine : String} {r : Reply} {lease : Lease}
    (h : ofReply machine r = .ok lease) : lease.nonce ≠ "" := by
  simp only [ofReply] at h
  split at h
  · cases h
  · split at h
    · cases h
    · split at h
      · split at h
        · simp [ofReply.malformed] at h
        · rename_i hnonce
          obtain rfl := Except.ok.inj h
          simpa using hnonce
      · simp [ofReply.malformed] at h

/-- A lease that is held has a nonce. -/
theorem nonce_ne_of_isHeldAt {lease : Lease} {now : Int} (h : lease.isHeldAt now) :
    lease.nonce ≠ "" := by
  simp only [isHeldAt, Bool.and_eq_true, bne_iff_ne] at h
  exact h.1

end Lease

namespace Handle

variable (h : Handle)

/-- What a handle has. -/
def holdings (h : Handle) : Multiset Holding :=
  if h.lease.nonce = "" then 0 else {⟨h.id, h.lease⟩}

variable {h}

/-- Without a nonce a handle has nothing. -/
theorem holdings_of_nonce_eq (hnonce : h.lease.nonce = "") : h.holdings = 0 := if_pos hnonce

/-- With a nonce a handle has its lease. -/
theorem holdings_of_nonce_ne (hnonce : h.lease.nonce ≠ "") : h.holdings = {⟨h.id, h.lease⟩} :=
  if_neg hnonce

/-- What a handle has depends on its id and its lease. -/
theorem holdings_congr {h' : Handle} (hid : h'.id = h.id) (hlease : h'.lease = h.lease) :
    h'.holdings = h.holdings := by
  unfold holdings
  rw [hid, hlease]

/-! ## Changes under a lease -/

/-- A call on the machine of a handle with the nonce of its lease is entitled right after the
clock told that the lease is held. -/
theorem entitled_of_isHeldAt {c : Call} {now : Int} {p : List Step}
    (hbooks : Books env base (h.holdings + other) p) (hheld : h.lease.isHeldAt now)
    (hmachine : c.machineId? = some h.id) (hnonce : c.leaseNonce? = some h.lease.nonce) :
    Entitled base (.looked now :: p) c := by
  intro nonce hc
  obtain rfl := Option.some.inj (hnonce.symm.trans hc)
  obtain ⟨-, lost, hledger, -⟩ := hbooks.looked now
  rw [holdings_of_nonce_ne (Lease.nonce_ne_of_isHeldAt hheld), Multiset.singleton_add,
    Multiset.add_cons] at hledger
  exact ⟨now, p, h.id, h.lease, _, rfl, hledger, hmachine, rfl, hheld⟩

/-- A call that is made under the lease right after the clock was read is entitled. Until it is
answered, everything is had as before. -/
theorem call_books {c : Call} {what machine : String} {now : Int} (hheld : h.lease.isHeldAt now)
    (hmachine : c.machineId? = some h.id) (hnonce : c.leaseNonce? = some h.lease.nonce)
    (hasked : ∀ time m n, (Step.asked c time).moves m n = false)
    (hrefused : ∀ e m n, (Step.answered c (.error e)).moves m n = false) :
    Work.Triple env (fun t s => t = h ∧ ∃ p, Books env base (h.holdings + other) p ∧
        s.past = .looked now :: p) (Work.call c what machine)
      ⟨fun t a s => t = h ∧ env.Gives c (.ok a) ∧
          ∃ p, Books env base (h.holdings + other) p ∧ s.past = .answered c (.ok a) :: p,
        fun t _ s => t = h ∧ Books env base (h.holdings + other) s.past,
        fun _ s => CallsSince base s.past (Entitled base)⟩ := by
  -- From the look at the clock to the call nothing happens, so the call is entitled.
  have hcall : ∀ p time, Books env base (h.holdings + other) p →
      Books env base (h.holdings + other) (.asked c time :: .looked now :: p) :=
    fun p time hp => (hp.looked now).asked
      (entitled_of_isHeldAt hp hheld hmachine hnonce) time (hasked time)
  refine Work.Triple.call
    (K := fun t p' => t = h ∧ ∃ p, Books env base (h.holdings + other) p ∧ p' = .looked now :: p)
    (R := fun t a p' => t = h ∧ env.Gives c (.ok a) ∧
      ∃ p, Books env base (h.holdings + other) p ∧ p' = .answered c (.ok a) :: p)
    (E := fun t _ p' => t = h ∧ Books env base (h.holdings + other) p')
    (H := fun p' => CallsSince base p' (Entitled base)) ?_ ?_ ?_ ?_ ?_
  · -- The call is not made; then it is cut short, refused, replied to, or never answered.
    rintro e t _ ⟨ht, p, hp, rfl⟩
    exact ⟨ht, hp.looked now⟩
  · rintro e t time _ ⟨ht, p, hp, rfl⟩
    exact ⟨ht, hcall p time hp⟩
  · rintro e t time _ ⟨ht, p, hp, rfl⟩ -
    exact ⟨ht, (hcall p time hp).other rfl (hrefused e)⟩
  · rintro a t time _ ⟨ht, p, hp, rfl⟩ hgives
    exact ⟨ht, hgives, _, hcall p time hp, rfl⟩
  · rintro t time _ ⟨ht, p, hp, rfl⟩
    exact (hcall p time hp).entitled

/-- An update is entitled, and the handle has the same lease on the same machine afterwards. -/
theorem update_books (hechoes : env.Echoes) {input : LaunchInput} (hid : input.id = some h.id)
    (other : Multiset Holding) :
    Run.Triple env (fun s => Books env base (h.holdings + other) s.past) (update input h)
      (Books.post env base (·.holdings + other)).toRun := by
  refine heldNonce_bind_triple h (K := Books env base (h.holdings + other)) (fun now hheld => ?_) ?_
  · refine Run.Triple.pre (Work.Triple.bind (call_books (c := .update input h.lease.nonce)
      hheld hid rfl (fun _ _ _ => rfl) (fun _ _ _ => rfl)) (fun m => Work.Triple.change ?_)
      ?_ (fun _ _ hs => hs) h) (fun s hs => ⟨rfl, hs⟩)
    · rintro t s ⟨rfl, hgives, p, hp, hpast⟩
      -- The reply names the same machine, so the handle has the same lease.
      have hsame : holdings { t with machine := m } = t.holdings :=
        holdings_congr (hechoes.update _ _ _ _ hgives hid) rfl
      show Books env base (holdings { t with machine := m } + other) s.past
      rw [hpast, hsame]
      exact hp.other rfl fun _ _ => rfl
    · rintro _ e s ⟨rfl, hs⟩
      exact hs
  · -- The lease is not held, and no call is made.
    intro e now p s hp hpast
    show Books env base (h.holdings + other) s.past
    exact hpast ▸ hp.looked now

/-- A machine that is destroyed has no lease any more. -/
theorem destroy_books (other : Multiset Holding) :
    Run.Triple env (fun s => Books env base (h.holdings + other) s.past) (destroy h)
      (Books.post env base (·.holdings + other)).toRun := by
  refine heldNonce_bind_triple h (K := Books env base (h.holdings + other)) (fun now hheld => ?_) ?_
  · show Run.Triple env _ ((Work.call (.destroy h.id h.lease.nonce) "destroy" h.id >>= fun _ =>
      Work.change destroyed : Work σ Handle Unit) h) _
    refine Run.Triple.pre (Work.Triple.bind (call_books hheld rfl rfl (fun _ _ _ => rfl)
      (fun _ _ _ => rfl)) (fun _ => Work.Triple.change ?_) ?_ (fun _ _ hs => hs) h)
      (fun s hs => ⟨rfl, hs⟩)
    · rintro t s ⟨rfl, -, p, hp, hpast⟩
      show Books env base (t.destroyed.holdings + other) s.past
      rw [holdings_of_nonce_ne (Lease.nonce_ne_of_isHeldAt hheld), Multiset.singleton_add] at hp
      -- The machine takes its lease with it.
      rw [hpast, holdings_of_nonce_eq (h := t.destroyed) rfl, zero_add]
      exact hp.destroyed
    · rintro _ e s ⟨rfl, hs⟩
      exact hs
  · intro e now p s hp hpast
    show Books env base (h.holdings + other) s.past
    exact hpast ▸ hp.looked now

/-! ## Taking and giving up leases -/

/-- The account of taking leases: a result has what its handle has. -/
def acquireAccount (env : Environment σ) (base : List Step) :
    Account σ Handle (Handle × Except DeployError Unit) (Multiset Holding) where
  holds := Books env base
  making _ := True
  party := holdings
  result x := x.1.holdings
  fits h x := x.1.machine = h.machine ∧ (x.2 = .ok () → x.1.lease.nonce ≠ "")

/-- Without a lease, a handle gets the one that is granted, or none. -/
theorem acquiring_triple (b : Bounds) (term : Nat) (hnonce : h.lease.nonce = "") :
    Run.Triple env (fun s => Books env base (h.holdings + other) s.past ∧ True) (h.acquiring term)
      ⟨Run.Triple.Put (acquireAccount env base) env b h other, fun _ _ => False⟩ := by
  -- What has no nonce is not held, so a lease is asked for.
  have hheld : ∀ now, h.lease.isHeldAt now = false := by
    intro now
    rw [Lease.isHeldAt, hnonce]
    rfl
  refine Run.Triple.bind (R := ⟨fun _ s => Books env base (h.holdings + other) s.past,
    fun _ _ => False⟩) (Run.Triple.readClock fun s now hs => hs.1.looked now) (fun now => ?_)
    (fun _ _ h => h)
  simp only [hheld now, Bool.false_eq_true, if_false]
  refine Run.Triple.pure fun s hs => ⟨h.holdings, ?_, hs, trivial⟩
  -- Nothing is had until a lease is granted.
  have hnone : h.holdings = 0 := holdings_of_nonce_eq hnonce
  constructor
  · intro s other' _ _ hs
    rwa [hnone, zero_add] at hs
  · intro other' p time hp
    rw [hnone, zero_add] at hp
    exact hp.acquireAsked _ _ time
  · exact fun _ _ _ _ _ => trivial
  · exact fun i => ⟨⟨rfl, fun heq => by cases heq⟩, hnone⟩
  · rintro (e | reply) other' p - hp
    · refine ⟨⟨rfl, fun heq => by cases heq⟩, ?_⟩
      show Books env base (h.holdings + other') _
      rw [hnone, zero_add]
      exact hp.other rfl fun _ _ => rfl
    · -- A reply counts only if a lease can be read from it.
      cases hlease : Lease.ofReply h.id reply with
      | error e =>
        simp only [hlease]
        refine ⟨⟨rfl, fun heq => by cases heq⟩, ?_⟩
        show Books env base (h.holdings + other') _
        rw [hnone, zero_add]
        refine hp.other rfl fun _ _ => ?_
        simp [Step.moves, Step.grants, Step.releases, Step.destroys, Step.drops, hlease]
      | ok lease =>
        simp only [hlease]
        have hne := Lease.ofReply_nonce_ne hlease
        refine ⟨⟨rfl, fun _ => hne⟩, ?_⟩
        show Books env base (holdings { h with lease := lease } + other') _
        rw [holdings_of_nonce_ne (h := { h with lease := lease }) hne, Multiset.singleton_add]
        exact hp.granted hlease

/-- The account of giving leases up: a result has nothing. While the releases are asked for, no
interruption comes between them unless a release itself cancels the deployment. -/
def releaseAccount (env : Environment σ) (base : List Step) (b : Bounds) :
    Account σ Handle (Handle × Except DeployError Unit) (Multiset Holding) where
  holds := Books env base
  making s := env.SparesRelease → b.interruption? s = none
  party := holdings
  result _ := 0
  fits h x := x.1.machine = h.machine

/-- A handle gives up its lease by a call, or drops it when it is stale. -/
theorem releasing_triple (b : Bounds) :
    Run.Triple env (fun s => Books env base (h.holdings + other) s.past ∧
        (releaseAccount env base b).making s) h.releasing
      ⟨Run.Triple.Put (releaseAccount env base b) env b h other, fun _ _ => False⟩ := by
  unfold releasing
  split
  · -- Without a lease there is nothing to give up.
    refine Run.Triple.pure fun s hs => ⟨0, ⟨rfl, rfl⟩, ?_, hs.2⟩
    rw [← holdings_of_nonce_eq ‹_›]
    exact hs.1
  · rename_i hnonce
    simp only [holdings_of_nonce_ne hnonce, Multiset.singleton_add]
    refine Run.Triple.bind (R := ⟨fun now s => ∃ p, s.past = .looked now :: p ∧
      Books env base (⟨h.id, h.lease⟩ ::ₘ other) (.looked now :: p) ∧
      (releaseAccount env base b).making s, fun _ _ => False⟩)
      (Run.Triple.readClock fun s now hs => ⟨s.past, rfl, hs.1.looked now, hs.2⟩)
      (fun now => ?_) (fun _ _ h => h)
    split
    · -- A stale lease is dropped, without a call.
      rename_i hstale
      refine Run.Triple.bind (R := ⟨fun _ s => Books env base other s.past ∧
        (releaseAccount env base b).making s, fun _ _ => False⟩)
        (Run.Triple.change fun s hs => ?_) (fun _ => Run.Triple.pure fun s hs => ?_)
        (fun _ _ h => h)
      · obtain ⟨p, hpast, hp, hmaking⟩ := hs
        refine ⟨?_, hmaking⟩
        show Books env base other (_ :: s.past)
        rw [hpast]
        exact hp.dropped hstale
      · exact ⟨0, ⟨rfl, rfl⟩, by rw [zero_add]; exact hs.1, hs.2⟩
    · refine Run.Triple.pure fun s hs => ?_
      obtain ⟨p, hpast, hp, hmaking⟩ := hs
      refine ⟨{⟨h.id, h.lease⟩}, ?_, by rw [hpast, Multiset.singleton_add]; exact hp, hmaking⟩
      -- Any other is to be released. From the moment the call is made it is given up.
      constructor
      · intro s other' hmaking hi hs
        refine hs.lose fun hspares => ?_
        rw [hmaking hspares] at hi
        cases hi
      · intro other' p time hp
        rw [Multiset.singleton_add] at hp
        exact hp.released time
      · intro s p s' hmaking hsent hspares
        rw [b.interruption?_congr hsent.now (hsent.spares (hspares _ _ _ _))]
        exact hmaking hspares
      · rintro (_ | _) <;> exact ⟨rfl, rfl⟩
      · intro o other' p _ hp
        have hbooks : Books env base (0 + other')
            (.answered (.release h.id h.lease.nonce) o :: p) := by
          rw [zero_add]
          exact hp.other rfl fun _ _ => rfl
        cases o <;> exact ⟨rfl, hbooks⟩

/-! ### The calls -/

/-- Up to its call an errand that takes a lease only reads the clock. -/
theorem acquiring_calls {φ : Call → Prop} {term : Nat} : (h.acquiring (σ := σ) term).Calls φ := by
  refine Run.Calls.readClock.bind fun now => ?_
  split <;> exact Run.Calls.pure _

/-- Whatever the answer is, a result of taking a lease is about the same machine. -/
theorem acquiring_yields {φ : Call → Prop} (term : Nat) (hφ : ∀ ttl, φ (.acquire h.id ttl)) :
    Run.Triple env (fun _ => True) (h.acquiring term)
      ⟨fun e _ => e.Yields φ (·.1.machine = h.machine), fun _ _ => False⟩ := by
  refine Run.Triple.bind (R := ⟨fun _ _ => True, fun _ _ => False⟩)
    (Run.Triple.readClock fun _ _ _ => trivial) (fun now => ?_) (fun _ _ h => h)
  split
  · exact Run.Triple.pure fun _ _ => rfl
  · refine Run.Triple.pure fun _ _ => ⟨hφ _, ?_⟩
    rintro (i | e | reply)
    · rfl
    · rfl
    · simp only
      split <;> rfl

/-- Up to its call an errand that gives a lease up makes no other. -/
theorem releasing_calls {φ : Call → Prop} (hφ : φ (.release h.id h.lease.nonce)) :
    (h.releasing (σ := σ)).Calls φ := by
  unfold releasing
  split
  · exact Run.Calls.pure _
  · refine Run.Calls.readClock.bind fun now => ?_
    split
    · exact (Run.Calls.drop hφ).bind fun _ => Run.Calls.pure _
    · exact Run.Calls.pure _

/-- Whatever the answer is, a result of giving a lease up is about the same machine. -/
theorem releasing_yields {φ : Call → Prop} (hφ : φ (.release h.id h.lease.nonce)) :
    Run.Triple env (fun _ => True) h.releasing
      ⟨fun e _ => e.Yields φ (·.1.machine = h.machine), fun _ _ => False⟩ := by
  unfold releasing
  split
  · exact Run.Triple.pure fun _ _ => rfl
  · refine Run.Triple.bind (R := ⟨fun _ _ => True, fun _ _ => False⟩)
      (Run.Triple.readClock fun _ _ _ => trivial) (fun now => ?_) (fun _ _ h => h)
    split
    · exact Run.Triple.bind (R := ⟨fun _ _ => True, fun _ _ => False⟩)
        (Run.Triple.change fun _ _ => trivial) (fun _ => Run.Triple.pure fun _ _ => rfl)
        (fun _ _ h => h)
    · refine Run.Triple.pure fun _ _ => ⟨hφ, ?_⟩
      rintro ((_ | _) | _ | _) <;> rfl

end Handle

/-! ## Fleets -/

namespace Fleet

variable {f : Fleet}

/-- What the members of a fleet have. -/
def holdings (f : Fleet) : Multiset Holding := (f.members.map Handle.holdings).sum

/-- The machines of a fleet. -/
def machines (f : Fleet) : List Machine := f.members.map (·.machine)

/-- Whether no member has a lease. -/
def Unleased (f : Fleet) : Prop := ∀ h ∈ f.members, h.lease.nonce = ""

/-- A fleet without leases has nothing. -/
theorem Unleased.holdings_eq (hf : f.Unleased) : f.holdings = 0 := by
  refine List.sum_eq_zero fun x hx => ?_
  obtain ⟨h, hh, rfl⟩ := List.mem_map.mp hx
  exact Handle.holdings_of_nonce_eq (hf h hh)

/-- Without a failure every result is good. -/
theorem forall_of_failures_eq_nil {results : List (Nat × Handle × Except DeployError Unit)}
    (h : failures results = []) : ∀ x ∈ inPlace results, x.2 = .ok () := by
  intro x hx
  rw [(inPlace_perm results).mem_iff, List.mem_map] at hx
  obtain ⟨⟨place, handle, r⟩, hmem, rfl⟩ := hx
  have hnone := List.filterMap_eq_nil_iff.mp h _ hmem
  cases r with
  | ok a => rfl
  | error e => cases hnone

/-- Results about the machines of a fleet make a fleet of the same machines. -/
theorem machines_ofResults {results : List (Nat × Handle × Except DeployError Unit)}
    (h : List.Forall₂ (fun h (x : Handle × Except DeployError Unit) => x.1.machine = h.machine)
      f.members (inPlace results)) : (ofResults results).machines = f.machines := by
  unfold machines ofResults
  rw [List.map_map]
  generalize f.members = members, inPlace results = xs at h
  induction h with
  | nil => rfl
  | cons hx _ ih => rw [List.map_cons, List.map_cons, ih, Function.comp_apply, hx]

/-- As the leases are given up nothing is in force: a cancellation that came before does not
count. -/
theorem releaseBounds_interruption? (s : Session σ) :
    (releaseBounds s).interruption? s = none := by
  unfold releaseBounds
  cases hcanceled : s.isCanceled with
  -- The grace period has just begun.
  | true =>
    have hlater : ¬ s.now + gracePeriod ≤ s.now := by
      unfold gracePeriod
      omega
    simp [Bounds.interruption?, Bounds.cancelTime, hlater]
  | false =>
    unfold Session.isCanceled at hcanceled
    simp [Bounds.interruption?, Bounds.cancelTime, hcanceled]

/-- Giving up the leases of a fleet leaves it without any, whatever becomes of the calls. -/
theorem release_books :
    Run.Triple env (fun s => Books env base f.holdings s.past) (release f) (Work.Post.toRun
      ⟨fun f' _ s => f'.machines = f.machines ∧ Books env base 0 s.past,
        fun f' _ s => f'.machines = f.machines ∧ Books env base 0 s.past,
        fun _ s => CallsSince base s.past (Entitled base)⟩) := by
  refine Run.Triple.session_bind fun s hs => ?_
  refine Run.Triple.bind (R := ⟨fun results s => (ofResults results).machines = f.machines ∧
    Books env base 0 s.past, fun _ s => CallsSince base s.past (Entitled base)⟩)
    ((Run.Triple.together (A := Handle.releaseAccount env base (releaseBounds s))
      (fun _ _ h => h.entitled) f.members ?_ (fun h _ other => Handle.releasing_triple _) 0).mono
      ?_ ?_ (fun _ _ h => h)) (fun results => ?_) (fun _ _ h => h)
  · -- What is in force does not change while time stands still.
    intro s₁ s₂ hnow hcancel hs₁ hspares
    rw [Bounds.interruption?_congr _ hnow hcancel]
    exact hs₁ hspares
  · rintro _ rfl
    exact ⟨by rw [add_zero]; exact hs, fun _ => releaseBounds_interruption? _⟩
  · rintro results s' ⟨hfits, hbooks⟩
    refine ⟨machines_ofResults hfits, ?_⟩
    -- No result of a release has a lease any more.
    have hnothing : ((inPlace results).map
        (Handle.releaseAccount env base (releaseBounds s)).result).sum = 0 :=
      List.sum_eq_zero fun x hx => by
        obtain ⟨_, -, rfl⟩ := List.mem_map.mp hx
        rfl
    rw [hnothing, add_zero] at hbooks
    exact hbooks
  · dsimp only
    split <;> exact Run.Triple.pure fun _ h => h

/-- Leases are taken on all members or on none. -/
theorem acquire_books (hf : f.Unleased) (term : Nat) :
    Run.Triple env (fun s => Books env base 0 s.past) (acquire term f) (Work.Post.toRun
      ⟨fun f' _ s => f'.machines = f.machines ∧ (∀ h ∈ f'.members, h.lease.nonce ≠ "") ∧
        Books env base f'.holdings s.past,
        fun f' _ s => f'.machines = f.machines ∧ Books env base 0 s.past,
        fun _ s => CallsSince base s.past (Entitled base)⟩) := by
  refine Run.Triple.bind (R := ⟨fun results s => (ofResults results).machines = f.machines ∧
    (failures results = [] → ∀ h ∈ (ofResults results).members, h.lease.nonce ≠ "") ∧
    Books env base (ofResults results).holdings s.past,
    fun _ s => CallsSince base s.past (Entitled base)⟩)
    ((Run.Triple.together (A := Handle.acquireAccount env base)
      (fun _ _ h => h.entitled) f.members (fun _ _ _ _ _ => trivial)
      (fun h hh other => Handle.acquiring_triple _ term (hf h hh)) 0).mono
      ?_ ?_ (fun _ _ h => h)) (fun results => ?_) (fun _ _ h => h)
  · intro s hs
    refine ⟨?_, trivial⟩
    show Books env base (f.holdings + 0) s.past
    rw [hf.holdings_eq, add_zero]
    exact hs
  · rintro results s ⟨hfits, hbooks⟩
    refine ⟨machines_ofResults (hfits.imp fun _ _ h => h.1), fun hnone h hh => ?_, ?_⟩
    · -- The member in a place was made of the result there, which fits the member before it.
      obtain ⟨x, hx, rfl⟩ := List.mem_map.mp hh
      obtain ⟨i, rfl⟩ := List.mem_iff_get.mp hx
      have hi : i.1 < f.members.length := by
        rw [hfits.length_eq]
        exact i.isLt
      have hfit := (List.forall₂_iff_get.mp hfits).2 i.1 hi i.isLt
      exact hfit.2 (forall_of_failures_eq_nil hnone _ hx)
    · rw [add_zero] at hbooks
      unfold holdings ofResults
      rw [List.map_map]
      exact hbooks
  · dsimp only
    split
    · exact Run.Triple.pure fun s hs => ⟨hs.1, hs.2.1 ‹_›, hs.2.2⟩
    · -- What was taken is given up again, and only the first failure is told.
      refine Run.Triple.bind (R := ⟨fun x s => x.1.machines = f.machines ∧ Books env base 0 s.past,
        fun _ s => CallsSince base s.past (Entitled base)⟩)
        (Run.Triple.of_and fun hmachines => release_books.mono (fun _ hs => hs.2) ?_
          (fun _ _ h => h)) (fun x => ?_) (fun _ _ h => h)
      · rintro ⟨f', e | _⟩ s hs
        · exact ⟨hs.1.trans hmachines, hs.2⟩
        · exact ⟨hs.1.trans hmachines, hs.2⟩
      · exact Run.Triple.pure fun s hs => hs

/-! ### The calls -/

/-- The calls that give up leases on a fleet. -/
def Releases (f : Fleet) (c : Call) : Prop := ∃ m ∈ f.machines, ∃ nonce, c = .release m.id nonce

/-- The calls that take leases on a fleet, or give them up. -/
def Leases (f : Fleet) (c : Call) : Prop :=
  f.Releases c ∨ ∃ m ∈ f.machines, ∃ ttl, c = .acquire m.id ttl

/-- Giving up the leases of a fleet makes releases only, and changes no machine. -/
theorem release_calls (p : List Step) :
    Run.Triple env (·.past = p) (release f) (Work.Post.toRun
      ⟨fun f' _ s => f'.machines = f.machines ∧ Adds f.Releases p s.past,
        fun f' _ s => f'.machines = f.machines ∧ Adds f.Releases p s.past,
        fun _ s => Adds f.Releases p s.past⟩) := by
  have hmem : ∀ h ∈ f.members, f.Releases (.release h.id h.lease.nonce) :=
    fun h hh => ⟨h.machine, List.mem_map_of_mem hh, _, rfl⟩
  refine Run.Triple.session_bind fun s hs => ?_
  refine Run.Triple.bind (R := ⟨fun results s => (ofResults results).machines = f.machines ∧
    Adds f.Releases p s.past, fun _ s => Adds f.Releases p s.past⟩)
    ((Run.Triple.together_calls (R := fun h x => x.1.machine = h.machine) f.members
      (fun h hh => Handle.releasing_calls (hmem h hh)) (fun h hh => ?_)).mono ?_ ?_
      (fun _ _ h => h)) (fun results => ?_) (fun _ _ h => h)
  · exact Handle.releasing_yields (hmem h hh)
  · rintro _ rfl
    exact hs
  · exact fun results s' hs' => ⟨machines_ofResults hs'.1, hs'.2⟩
  · dsimp only
    split <;> exact Run.Triple.pure fun _ h => h

/-- Taking the leases of a fleet takes and gives up leases only, and changes no machine. -/
theorem acquire_calls (term : Nat) (p : List Step) :
    Run.Triple env (·.past = p) (acquire term f) (Work.Post.toRun
      ⟨fun f' _ s => f'.machines = f.machines ∧ Adds f.Leases p s.past,
        fun f' _ s => f'.machines = f.machines ∧ Adds f.Leases p s.past,
        fun _ s => Adds f.Leases p s.past⟩) := by
  have hmem : ∀ h ∈ f.members, ∀ ttl, f.Leases (.acquire h.id ttl) :=
    fun h hh ttl => .inr ⟨h.machine, List.mem_map_of_mem hh, ttl, rfl⟩
  refine Run.Triple.bind (R := ⟨fun results s => (ofResults results).machines = f.machines ∧
    Adds f.Leases p s.past, fun _ s => Adds f.Leases p s.past⟩)
    ((Run.Triple.together_calls (R := fun h x => x.1.machine = h.machine) f.members
      (fun h hh => Handle.acquiring_calls) (fun h hh => ?_)).mono (fun _ h => h) ?_
      (fun _ _ h => h)) (fun results => ?_) (fun _ _ h => h)
  · exact Handle.acquiring_yields term (hmem h hh)
  · exact fun results s' hs' => ⟨machines_ofResults hs'.1, hs'.2⟩
  · dsimp only
    split
    · exact Run.Triple.pure fun s hs => hs
    · -- The calls that give up what was taken are about the same machines.
      refine Run.Triple.of_and fun hmachines => Run.Triple.at_past fun p' => ?_
      have hleases : ∀ c, (ofResults results).Releases c → f.Leases c := by
        intro c hc
        unfold Releases at hc
        rw [hmachines] at hc
        exact .inl hc
      have hrelease : Run.Triple env (fun s => Adds f.Leases p p' ∧ s.past = p')
          (release (ofResults results)) ⟨fun x s => x.1.machines = f.machines ∧
            Adds f.Leases p s.past, fun _ s => Adds f.Leases p s.past⟩ := by
        refine Run.Triple.of_and fun hp => (release_calls p').mono (fun _ hs => hs) ?_ ?_
        · rintro ⟨f', _ | _⟩ s hs
          · exact ⟨hs.1.trans hmachines, hp.trans (hs.2.mono hleases)⟩
          · exact ⟨hs.1.trans hmachines, hp.trans (hs.2.mono hleases)⟩
        · exact fun _ s hs => hp.trans (hs.mono hleases)
      refine Run.Triple.bind (hrelease.pre fun s hs => ?_) (fun x => Run.Triple.pure ?_)
        (fun _ _ h => h)
      · obtain ⟨hs, rfl⟩ := hs
        exact ⟨hs, rfl⟩
      · exact fun _ hs => hs

/-- As a program: giving up leases makes releases only. -/
theorem release_run_calls (f : Fleet) : (release (σ := σ) f).Calls f.Releases := by
  refine Run.Calls.of_triple fun env p => (release_calls p).mono (fun _ hs => hs) ?_
    (fun _ _ hs => hs)
  rintro ⟨f', _ | _⟩ s hs <;> exact hs.2

/-- As a program: taking leases takes and gives up leases only. -/
theorem acquire_run_calls (f : Fleet) (term : Nat) :
    (acquire (σ := σ) term f).Calls f.Leases := by
  refine Run.Calls.of_triple fun env p => (acquire_calls term p).mono (fun _ hs => hs) ?_
    (fun _ _ hs => hs)
  rintro ⟨f', _ | _⟩ s hs <;> exact hs.2

end Fleet

end Rollout
