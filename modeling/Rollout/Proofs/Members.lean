import Rollout.Deployment.Rollout
import Rollout.Proofs.Leasing

/-!
# Work on one member

Work on the member in a place leaves the other members alone. So a property of the member and its
holdings, beside those of the others, is one of the fleet.

## Main statements

- `Fleet.member_triple`: work on the member in a place is work on the handle there.
- `Fleet.holdings_frame`: what the other members have stands beside it.
- `Fleet.member_books`: work that keeps the books of a handle keeps those of the fleet.
-/

namespace Rollout

variable {σ τ α : Type} {env : Environment σ}

namespace Fleet

variable {f : Fleet} {place : Nat} {h : Handle} {missing : DeployError} {x : Work σ Handle α}

/-- Work on the member in a place is work on the handle there. -/
theorem member_triple {P : Session σ → Prop} {Q : Work.Post σ Fleet α}
    (hnone : f.members[place]? = none → ∀ s, P s → Q.error f missing s)
    (hsome : ∀ h, f.members[place]? = some h → Run.Triple env P (x h) (Work.Post.toRun
      ⟨fun h' a s => Q.ok (f.set place h') a s, fun h' e s => Q.error (f.set place h') e s,
        Q.halts⟩)) :
    Run.Triple env P (member place missing x f) Q.toRun := by
  unfold member
  cases hplace : f.members[place]? with
  -- No member stands in the place.
  | none => exact Run.Triple.pure fun s hs => hnone hplace s hs
  | some h =>
    refine Run.Triple.bind (hsome h hplace) ?_ (fun _ _ hs => hs)
    -- The member is put back whether the work failed or not.
    rintro ⟨h', e | a⟩ <;> exact Run.Triple.pure fun _ hs => hs

/-- Work on a member of a fleet makes the calls of the work on the handle. -/
theorem member_run_calls {φ : Call → Prop}
    (hx : ∀ h, f.members[place]? = some h → (x h).Calls φ) :
    (member place missing x f).Calls φ := by
  unfold member
  split
  · exact Run.Calls.pure _
  · exact (hx _ ‹_›).bind fun _ => Run.Calls.pure _

/-- Work on any member makes the calls of the work. -/
theorem member_calls {φ : Call → Prop} (hx : x.Calls φ) : (member place missing x).Calls φ :=
  fun _ => member_run_calls fun h _ => hx h

/-- A member that is put in a place stands there. -/
theorem getElem?_set_self (hplace : f.members[place]? = some h) (h' : Handle) :
    (f.set place h').members[place]? = some h' := by
  have hlt : place < f.members.length := (List.getElem?_eq_some_iff.mp hplace).1
  exact List.getElem?_set_self hlt

/-- To put a member where it stands changes nothing. -/
theorem set_self (hplace : f.members[place]? = some h) : f.set place h = f := by
  obtain ⟨hlt, rfl⟩ := List.getElem?_eq_some_iff.mp hplace
  unfold set
  rw [List.set_getElem_self]

/-- A fleet that has machines is not empty. -/
theorem isEmpty_eq_false (h : f.machines ≠ []) : f.isEmpty = false := by
  rw [isEmpty, List.isEmpty_eq_false_iff]
  intro hnil
  exact h (by rw [machines, hnil]; rfl)

/-- To put a member in a place is to put its machine there. -/
theorem machines_set (f : Fleet) (place : Nat) (h : Handle) :
    (f.set place h).machines = f.machines.set place h.machine :=
  List.map_set

/-- The machine in a place is that of the member there. -/
theorem getElem?_machines (hplace : f.members[place]? = some h) :
    f.machines[place]? = some h.machine := by
  unfold machines
  rw [List.getElem?_map, hplace]
  rfl

/-- A fleet of the same machines has the same machine in a place. -/
theorem getElem?_of_machines_eq {f' : Fleet} (hmachines : f'.machines = f.machines)
    (hplace : f.members[place]? = some h) :
    ∃ h', f'.members[place]? = some h' ∧ h'.machine = h.machine := by
  have heq := congrArg (·[place]?) hmachines
  simp only [machines, List.getElem?_map, hplace, Option.map_some] at heq
  obtain ⟨h', hh', hmachine⟩ := Option.map_eq_some_iff.mp heq
  exact ⟨h', hh', hmachine⟩

/-- What the member in a place has stands beside what the others have. -/
theorem holdings_frame (hplace : f.members[place]? = some h) :
    ∃ other, f.holdings = h.holdings + other ∧
      ∀ h', (f.set place h').holdings = h'.holdings + other := by
  obtain ⟨members⟩ := f
  unfold holdings set
  -- The members before the place are passed over one by one.
  induction members generalizing place with
  | nil => cases hplace
  | cons first rest ih =>
    cases place with
    -- The member is the first: the others are the rest.
    | zero =>
      obtain rfl := Option.some.inj hplace
      exact ⟨(rest.map Handle.holdings).sum, List.sum_cons, fun h' => List.sum_cons⟩
    -- The first is one of the others.
    | succ place =>
      obtain ⟨other, heq, hset⟩ := ih hplace
      refine ⟨first.holdings + other, ?_, fun h' => ?_⟩
      · have hsum := congrArg (first.holdings + ·) heq
        simp only at hsum
        rw [List.map_cons, List.sum_cons, hsum, add_left_comm]
      · have hsum := congrArg (first.holdings + ·) (hset h')
        simp only at hsum
        rw [List.set_cons_succ, List.map_cons, List.sum_cons, hsum, add_left_comm]

/-- Work that keeps the books of a handle keeps those of the fleet. -/
theorem member_books {base : List Step}
    (hx : ∀ h other, f.members[place]? = some h →
      Run.Triple env (fun s => Books env base (h.holdings + other) s.past) (x h)
        (Books.post env base (·.holdings + other)).toRun) :
    Run.Triple env (fun s => Books env base f.holdings s.past) (member place missing x f)
      (Books.post env base holdings).toRun := by
  refine member_triple (fun _ s hs => hs) fun h hplace => ?_
  -- What the others have is framed.
  obtain ⟨other, heq, hset⟩ := holdings_frame hplace
  rw [heq]
  refine (hx h other hplace).mono (fun _ hs => hs) ?_ (fun _ _ hs => hs)
  rintro ⟨h', e | a⟩ s hs
  · show Books env base (f.set place h').holdings s.past
    rw [hset]
    exact hs
  · show Books env base (f.set place h').holdings s.past
    rw [hset]
    exact hs

end Fleet

end Rollout
