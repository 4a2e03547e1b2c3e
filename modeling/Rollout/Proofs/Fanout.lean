import Mathlib.Algebra.BigOperators.Group.List.Basic
import Mathlib.Data.List.Forall2
import Mathlib.Data.List.Range
import Rollout.Proofs.Request
import Rollout.Session.Fanout

/-!
# What errands side by side do

Every errand is run for a party. It starts with what the party has and ends with what the result
has; between its call and the answer it has nothing. Since what each has is accounted for beside
what all the others have, it does not matter in which order the answers come.

## Main statements

- `Run.Triple.together`: what the parties have becomes what their results have, and in the order
  of their places every result fits its party.
- `Run.Triple.together_calls`: errands make no calls but their own.
-/

namespace Rollout

variable {σ κ α M : Type} {env : Environment σ} [AddCommMonoid M]

/-! ## Results in place -/

/-- In order, the places of results are counted from zero without a gap. -/
private theorem map_fst_mergeSort (results : List (Nat × α)) {n : Nat}
    (h : (results.map (·.1)).Perm (List.range n)) :
    (results.mergeSort (fun a b => a.1 ≤ b.1)).map (·.1) = List.range n := by
  have hperm : ((results.mergeSort (fun a b => a.1 ≤ b.1)).map (·.1)).Perm (List.range n) :=
    ((List.mergeSort_perm results _).map _).trans h
  -- Both lists are sorted, and they have the same members.
  refine hperm.eq_of_pairwise (fun a b _ _ (hab : a ≤ b) hba => Nat.le_antisymm hab hba) ?_ ?_
  · rw [List.pairwise_map]
    have hsorted : (results.mergeSort fun a b => a.1 ≤ b.1).Pairwise
        fun a b => decide (a.1 ≤ b.1) = true :=
      List.pairwise_mergeSort (fun a b c hab hbc => by simp only [decide_eq_true_eq] at *; omega)
        (fun a b => by simp only [Bool.or_eq_true, decide_eq_true_eq]; omega) results
    exact hsorted.imp fun h => of_decide_eq_true h
  · exact List.pairwise_le_range

/-- The places that are added to a list are counted from zero. -/
theorem map_fst_mapIdx (l : List α) :
    (l.mapIdx fun index a => (index, a)).map (·.1) = List.range l.length :=
  List.ext_getElem (by simp) (by simp)

/-- Places that are added to a list leave it as it is. -/
theorem map_snd_mapIdx (l : List α) :
    (l.mapIdx fun index a => (index, a)).map (·.2) = l :=
  List.ext_getElem (by simp) (by simp)

/-- Results in place are the same results in another order. -/
theorem inPlace_perm (results : List (Nat × α)) :
    (inPlace results).Perm (results.map (·.2)) :=
  (List.mergeSort_perm results _).map _

/-- Results that each fit the party in their place fit the parties in order. -/
theorem forall₂_inPlace {R : κ → α → Prop} {keys : List κ} {results : List (Nat × α)}
    (hplaces : (results.map (·.1)).Perm (List.range keys.length))
    (hfits : ∀ x ∈ results, ∃ k, keys[x.1]? = some k ∧ R k x.2) :
    List.Forall₂ R keys (inPlace results) := by
  have hsorted := map_fst_mergeSort results hplaces
  generalize hs : results.mergeSort (fun a b => a.1 ≤ b.1) = sorted at hsorted
  have hlength : sorted.length = keys.length := by
    rw [← List.length_map (f := (·.1)), hsorted, List.length_range]
  unfold inPlace
  rw [hs, List.forall₂_iff_get]
  refine ⟨by rw [List.length_map, hlength], fun i hi hi' => ?_⟩
  rw [List.length_map] at hi'
  -- After sorting, the place of a result is where it stands.
  have hplace : sorted[i].1 = i := by
    have h : (sorted.map (·.1))[i]? = some i := by
      rw [hsorted, List.getElem?_range hi]
    rw [List.getElem?_map, List.getElem?_eq_getElem hi'] at h
    exact Option.some.inj h
  have hmem : sorted[i] ∈ results := by
    rw [← (List.mergeSort_perm results _).mem_iff, hs]
    exact List.getElem_mem hi'
  obtain ⟨k, hk, hR⟩ := hfits sorted[i] hmem
  rw [hplace, List.getElem?_eq_getElem hi] at hk
  obtain rfl := Option.some.inj hk
  simpa only [List.get_eq_getElem, List.getElem_map] using hR

/-! ## Errands -/

/-- Whether an errand makes no call but those of a kind, and has no results but those of a kind. -/
def Errand.Yields (φ : Call → Prop) (R : α → Prop) : Errand α → Prop
  | .done a => R a
  | .ask c resume => φ c ∧ ∀ r, R (resume r)

/-- The account of errands that are run side by side: what the parties have and the results have,
what a result has to meet, and what holds of the past while so much is had in all. -/
structure Account (σ κ α M : Type) where
  holds : M → List Step → Prop
  /-- What holds besides while the calls are made. -/
  making : Session σ → Prop
  party : κ → M
  result : α → M
  fits : κ → α → Prop

namespace Account

/-- A call fits the account of a party that has something when it is made: the party has nothing
while it waits, and what the result has afterwards. -/
structure Asks (A : Account σ κ α M) (env : Environment σ) (b : Bounds) (k : κ) (m : M) (c : Call)
    (resume : Except Interruption c.Outcome → α) : Prop where
  skipped : ∀ s other, A.making s → (b.interruption? s).isSome → A.holds (m + other) s.past →
    A.holds other s.past
  asked : ∀ other p time, A.holds (m + other) p → A.holds other (.asked c time :: p)
  making : ∀ s p s', A.making s → Run.Sent env c s p s' → A.making s'
  failed : ∀ i, A.fits k (resume (.error i)) ∧ A.result (resume (.error i)) = 0
  answered : ∀ o other p, env.Gives c o → A.holds other p →
    A.fits k (resume (.ok o)) ∧
      A.holds (A.result (resume (.ok o)) + other) (.answered c o :: p)

/-- An errand fits the account of a party that has something. -/
def Admits (A : Account σ κ α M) (env : Environment σ) (b : Bounds) (k : κ) (m : M) :
    Errand α → Prop
  | .done a => A.fits k a ∧ A.result a = m
  | .ask c resume => A.Asks env b k m c resume

/-- What a started errand has. -/
def started (A : Account σ κ α M) : Run.Started σ α → M
  | .finished a => A.result a
  | .waiting .. => 0

/-- A started errand fits the account of its party. -/
def Goes (A : Account σ κ α M) (env : Environment σ) (b : Bounds) (k : κ) :
    Run.Started σ α → Prop
  | .finished a => A.fits k a
  | .waiting c p resume => (∀ later, env.Gives c (p.answer later).2) ∧
      ∃ m, A.Asks env b k m c resume

end Account

namespace Run.Triple

variable {A : Account σ κ α M} {b : Bounds} {f : κ → Run σ (Errand α)}

/-- What holds when errands are put: what each party has in place of what it had before. -/
def Put (A : Account σ κ α M) (env : Environment σ) (b : Bounds) (k : κ) (other : M)
    (e : Errand α) (s : Session σ) : Prop :=
  ∃ m, A.Admits env b k m e ∧ A.holds (m + other) s.past ∧ A.making s

/-- Making the call of an errand: what its party has becomes what the started errand has. -/
private theorem start_triple {k : κ} {m other : M} {e : Errand α}
    (hclock : ∀ s s', s'.now = s.now → s'.cancelAt = s.cancelAt → A.making s → A.making s')
    (he : A.Admits env b k m e) :
    Run.Triple env (fun s => A.holds (m + other) s.past ∧ A.making s) (Run.start b e)
      ⟨fun st s => A.Goes env b k st ∧ A.holds (A.started st + other) s.past ∧ A.making s,
        fun _ _ => False⟩ := by
  cases e with
  | done a =>
    obtain ⟨hfits, rfl⟩ := he
    exact pure fun s hs => ⟨hfits, hs⟩
  | ask c resume =>
    refine at_session fun s hs => ?_
    obtain ⟨hs, hmaking⟩ := hs
    refine start_steps (fun i hi => ?_) (fun _ => send_sent s) (fun p s₁ hsent => ?_)
      (fun p s₁ hsent => ?_)
    · -- An interruption is in force: the call is not made, and what the party has is gone.
      refine ⟨(he.failed i).1, ?_, hmaking⟩
      show A.holds (A.result _ + other) _
      rw [(he.failed i).2, zero_add]
      exact he.skipped s other hmaking (by rw [hi]; rfl) hs
    · -- The answer came with the call: what the result has is there at once.
      have hother : A.holds other s₁.past := hsent.past ▸ he.asked other s.past s.now hs
      obtain ⟨hfits, hholds⟩ := he.answered _ other s₁.past (hsent.gives s₁.remote) hother
      exact ⟨hfits, hholds, hclock s₁ (p.taken s₁) rfl rfl (he.making s p s₁ hmaking hsent)⟩
    · -- The answer is waited for, and from then on the party has nothing.
      refine ⟨⟨hsent.gives, m, he⟩, ?_, he.making s p s₁ hmaking hsent⟩
      show A.holds (0 + other) _
      rw [zero_add, hsent.past]
      exact he.asked other s.past s.now hs

/-- The calls of errands are made one after the other. -/
theorem startAll (keys : List κ)
    (hclock : ∀ s s', s'.now = s.now → s'.cancelAt = s.cancelAt → A.making s → A.making s')
    (herrand : ∀ k ∈ keys, ∀ other,
      Run.Triple env (fun s => A.holds (A.party k + other) s.past ∧ A.making s) (f k)
        ⟨Put A env b k other, fun _ _ => False⟩) (other : M) :
    Run.Triple env (fun s => A.holds ((keys.map A.party).sum + other) s.past ∧ A.making s)
      (Run.startAll b (keys.map f))
      ⟨fun sts s => List.Forall₂ (A.Goes env b) keys sts ∧
        A.holds ((sts.map A.started).sum + other) s.past ∧ A.making s, fun _ _ => False⟩ := by
  -- By induction on the parties: whatever the others have is carried along.
  induction keys generalizing other with
  | nil => exact pure fun s hs => ⟨.nil, hs⟩
  | cons k keys ih =>
    rw [List.forall_mem_cons] at herrand
    refine bind ((herrand.1 ((keys.map A.party).sum + other)).pre fun s hs => ?_) (fun e => ?_)
      (fun _ _ h => h)
    · rw [List.map_cons, List.sum_cons, add_assoc] at hs
      exact hs
    · refine of_exists fun m => of_and fun he => ?_
      refine bind (start_triple hclock he) (fun st => ?_) (fun _ _ h => h)
      -- The others are started while this one has what it has now.
      refine bind ((fact (p := A.Goes env b k st) fun _ => ih herrand.2 (A.started st + other)).pre
        fun s hs => ?_)
        (fun sts => pure fun s hs => ?_) (fun _ _ h => h)
      · obtain ⟨hst, hs⟩ := hs
        rw [add_left_comm] at hs
        exact ⟨hst, hs⟩
      · obtain ⟨hst, hsts, hs⟩ := hs
        refine ⟨.cons hst hsts, ?_⟩
        rw [List.map_cons, List.sum_cons, add_assoc, add_left_comm]
        exact hs

/-- Ending the wait of an errand: what the started errand has becomes what its result has. -/
private theorem finish_triple {k : κ} {st : Run.Started σ α} {s₀ : Session σ} (other : M)
    {H : List Step → Prop} (hH : ∀ m p, A.holds m p → H p) (hst : A.Goes env b k st) :
    Run.Triple env (fun s => A.holds (A.started st + other) s.past) (Run.finish b s₀ st)
      ⟨fun a s => A.fits k a ∧ A.holds (A.result a + other) s.past, fun _ s => H s.past⟩ := by
  cases st with
  | finished a => exact pure fun s hs => ⟨hst, hs⟩
  | waiting c p resume =>
    obtain ⟨hgives, m, hask⟩ := hst
    refine at_session fun s hs => ?_
    have hother : A.holds other s.past := by
      rw [← zero_add other]
      exact hs
    refine finish_steps (fun time _ => ?_) (fun i time _ => ⟨(hask.failed i).1, ?_⟩)
      (fun _ => hH _ s.past hs)
    · -- The answer comes, is taken and counts for the party.
      exact hask.answered _ other s.past (hgives s.remote) hother
    · -- Without an answer the party has nothing in the end.
      show A.holds (A.result _ + other) _
      rw [(hask.failed i).2, zero_add]
      exact hother

/-- The waits of errands are ended one after the other. -/
theorem finishAll {H : List Step → Prop} (hH : ∀ m p, A.holds m p → H p) (keys : List κ)
    (s₀ : Session σ) (waits : List (Nat × Run.Started σ α))
    (hwaits : ∀ x ∈ waits, ∃ k, keys[x.1]? = some k ∧ A.Goes env b k x.2) (other : M) :
    Run.Triple env (fun s => A.holds ((waits.map (A.started ·.2)).sum + other) s.past)
      (Run.finishAll b s₀ waits)
      ⟨fun results s => results.map (·.1) = waits.map (·.1) ∧
        (∀ x ∈ results, ∃ k, keys[x.1]? = some k ∧ A.fits k x.2) ∧
        A.holds ((results.map (A.result ·.2)).sum + other) s.past, fun _ s => H s.past⟩ := by
  -- By induction on the waits, with what the others have carried along as in `startAll`.
  induction waits generalizing other with
  | nil => exact pure fun s hs => ⟨rfl, by simp, hs⟩
  | cons x waits ih =>
    obtain ⟨place, st⟩ := x
    rw [List.forall_mem_cons] at hwaits
    obtain ⟨⟨k, hk, hst⟩, hwaits⟩ := hwaits
    refine bind ((finish_triple ((waits.map (A.started ·.2)).sum + other) hH hst).pre
      fun s hs => ?_) (fun a => ?_) (fun _ _ h => h)
    · rw [List.map_cons, List.sum_cons, add_assoc] at hs
      exact hs
    · refine of_and fun ha => ?_
      refine bind ((ih hwaits (A.result a + other)).pre fun s hs => ?_)
        (fun results => pure fun s hs => ?_) (fun _ _ h => h)
      · rw [add_left_comm] at hs
        exact hs
      obtain ⟨hplaces, hfits, hs⟩ := hs
      refine ⟨by rw [List.map_cons, List.map_cons, hplaces],
        List.forall_mem_cons.mpr ⟨⟨k, hk, ha⟩, hfits⟩, ?_⟩
      rw [List.map_cons, List.sum_cons, add_assoc, add_left_comm]
      exact hs

/-- What the parties have becomes what their results have, and in the order of their places
every result fits its party. -/
theorem together {H : List Step → Prop} (hH : ∀ m p, A.holds m p → H p) (keys : List κ)
    (hclock : ∀ s s', s'.now = s.now → s'.cancelAt = s.cancelAt → A.making s → A.making s')
    (herrand : ∀ k ∈ keys, ∀ other,
      Run.Triple env (fun s => A.holds (A.party k + other) s.past ∧ A.making s) (f k)
        ⟨Put A env b k other, fun _ _ => False⟩) (other : M) :
    Run.Triple env (fun s => A.holds ((keys.map A.party).sum + other) s.past ∧ A.making s)
      (Run.together b (keys.map f))
      ⟨fun results s => List.Forall₂ A.fits keys (inPlace results) ∧
        A.holds (((inPlace results).map A.result).sum + other) s.past, fun _ s => H s.past⟩ := by
  refine bind (startAll keys hclock herrand other) (fun sts => ?_) (fun _ _ h => h.elim)
  refine session_bind fun s₀ hs₀ => ?_
  obtain ⟨hsts, hholds, -⟩ := hs₀
  -- The waits are in another order than the calls, but the same places are in it.
  show Run.Triple env _ (Run.finishAll b s₀
    ((sts.mapIdx fun index e => (index, e)).mergeSort fun d e => d.2.noLater b s₀ e.2)) _
  have hperm := List.mergeSort_perm (sts.mapIdx fun index e => (index, e))
    fun d e => d.2.noLater b s₀ e.2
  generalize (sts.mapIdx fun index e => (index, e)).mergeSort _ = waits at hperm
  have hgoes : ∀ x ∈ waits, ∃ k, keys[x.1]? = some k ∧ A.Goes env b k x.2 := by
    intro x hx
    rw [hperm.mem_iff, List.mem_mapIdx] at hx
    obtain ⟨i, hi, rfl⟩ := hx
    have hi' : i < keys.length := hsts.length_eq ▸ hi
    exact ⟨keys[i], List.getElem?_eq_getElem hi', (List.forall₂_iff_get.mp hsts).2 i hi' hi⟩
  -- Sums do not depend on the order.
  have hsum : (waits.map (A.started ·.2)).sum = (sts.map A.started).sum := by
    have h := ((hperm.map (·.2)).map A.started).sum_eq
    rwa [map_snd_mapIdx, List.map_map] at h
  refine ((finishAll hH keys s₀ waits hgoes other).pre ?_).mono (fun _ h => h) ?_ (fun _ _ h => h)
  · rintro _ rfl
    rw [hsum]
    exact hholds
  · rintro results s ⟨hplaces, hfits, hs⟩
    refine ⟨forall₂_inPlace ?_ hfits, ?_⟩
    · rw [hplaces, hsts.length_eq, ← map_fst_mapIdx]
      exact hperm.map _
    · rw [((inPlace_perm results).map A.result).sum_eq, List.map_map]
      exact hs

/-- The account of errands of which only the calls are of interest: nobody has anything. -/
def callsAccount (φ : Call → Prop) (p : List Step) (R : κ → α → Prop) : Account σ κ α Nat :=
  ⟨fun _ p' => Adds φ p p', fun _ => True, fun _ => 0, fun _ => 0, R⟩

/-- Errands make no calls but their own, and whatever every answer makes of a party it is in the
end. -/
theorem together_calls {φ : Call → Prop} {R : κ → α → Prop} (keys : List κ) {p : List Step}
    (hcalls : ∀ k ∈ keys, (f k).Calls φ)
    (hyields : ∀ k ∈ keys, Run.Triple env (fun _ => True) (f k)
      ⟨fun e _ => e.Yields φ (R k), fun _ _ => False⟩) :
    Run.Triple env (·.past = p) (Run.together b (keys.map f))
      ⟨fun results s => List.Forall₂ R keys (inPlace results) ∧ Adds φ p s.past,
        fun _ s => Adds φ p s.past⟩ := by
  refine (together (A := callsAccount φ p R) (H := Adds φ p) (fun _ _ h => h) keys
    (fun _ _ _ _ _ => trivial) (fun k hk other => ?_) 0).pre
      fun _ hs => ⟨Adds.refl.of_eq hs, trivial⟩
  -- What an errand does before its call is its own, and so is its call.
  refine (((hcalls k hk).triple (P := fun s => Adds φ p s.past)).and (hyields k hk)).mono
    (fun _ hs => ⟨hs.1, trivial⟩) ?_ (fun _ _ hs => hs.2)
  rintro e s ⟨⟨s₀, h₀, h⟩, he⟩
  refine ⟨0, ?_, h₀.trans h, trivial⟩
  cases e with
  | done a => exact ⟨he, rfl⟩
  | ask c resume =>
    exact ⟨fun _ _ _ _ h => h, fun _ _ _ h => h.asked he.1, fun _ _ _ _ _ => trivial,
      fun _ => ⟨he.2 _, rfl⟩, fun _ _ _ _ h => ⟨he.2 _, h.answered he.1⟩⟩

end Run.Triple

end Rollout
