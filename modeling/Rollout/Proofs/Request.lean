import Rollout.Proofs.History
import Rollout.Session.Fanout

/-!
# What a request does

A request makes its call at most once. It ends with the answer to it, or interrupted before or
after it was made; it never ends only if nothing limits it and no answer comes. The lemmas here
say so once for all requests, `Environment.Gives` names the answers that the outside has for a
call, and `Environment.Echoes` and its like name what is asked of the outside.

What is proved of requests, of errands and of pauses goes through their steps: each of the lemmas
`request_steps`, `start_steps`, `finish_steps` and `pause_steps` asks for one fact for each way in
which the wait may end (`Bounds.waking_cases`).

## Main statements

- `Run.Triple.request_steps`: a request step by step, whatever is to hold when it ends.
- `Run.Triple.request`: the ways in which a request ends, and the past it leaves.
- `Run.Triple.call`: the same of the call of a piece of work.
- `Run.Triple.pause`: a pause leaves no trace.
-/

namespace Rollout

variable {σ τ α : Type} {env : Environment σ}

/-! ## The outside -/

namespace Environment

/-- Whether the outside may answer a call so. -/
def Gives (env : Environment σ) (c : Call) (o : c.Outcome) : Prop :=
  ∃ now before later, ((env.receive c now before).answer later).2 = o

/-- What is said of a machine carries the id that was asked for. -/
structure Echoes (env : Environment σ) : Prop where
  get : ∀ id m, env.Gives (.get id) (.ok m) → m.id = id
  update : ∀ input nonce m id, env.Gives (.update input nonce) (.ok m) → input.id = some id →
    m.id = id

/-- The deployment is not canceled by giving up a lease. -/
def SparesRelease (env : Environment σ) : Prop :=
  ∀ id nonce now st, (env.receive (.release id nonce) now st).cancels = false

/-- Every call is answered sooner or later. -/
def Answers (env : Environment σ) : Prop :=
  ∀ c now st, (env.receive c now st).delay.isSome

/-! ### An outside that does all that is asked of it -/

/-- The history of a machine that ran to its end. -/
def endedRun : List Machine.Event := [
  { kind := "start", timestamp := { millis := 1 } },
  { kind := "exit", timestamp := { millis := 2 }, detail := some { exit := some {} } }]

/-- Grants what it is asked for. -/
def oblige : (c : Call) → c.Outcome
  | .launch _ => .ok { id := "new", events := endedRun }
  | .update input _ => .ok { id := input.id.getD "", events := endedRun }
  | .get id => .ok { id := id, events := endedRun }
  | .acquire .. => .ok { status := "success", data := some { nonce := "nonce", expiresAt := 60 } }
  | .list => .ok {}
  | .volumes => .ok []
  | .record _ => .ok {}
  | .destroy .. | .release .. | .start _ | .wait .. => .ok ()

/-- An outside that answers every call at once and grants what it is asked for. -/
def obliging : Environment Unit where
  receive c _ st := { remote := st, delay := some 0, answer := (·, oblige c) }
  clock _ _ := 0
  jitter _ := 0
  uptime := 0

/-- What such an outside answers is the one answer that it has for the call. -/
theorem eq_oblige_of_gives {c : Call} {o : c.Outcome} (h : obliging.Gives c o) : o = oblige c := by
  obtain ⟨now, before, later, rfl⟩ := h
  rfl

/-- It names the machine that was asked for. -/
theorem obliging_echoes : obliging.Echoes := by
  constructor
  · intro id m h
    obtain rfl := Except.ok.inj (eq_oblige_of_gives h)
    rfl
  · intro input nonce m id h hid
    obtain rfl := Except.ok.inj (eq_oblige_of_gives h)
    show input.id.getD "" = id
    rw [hid]
    rfl

/-- It cancels no deployment. -/
theorem obliging_sparesRelease : obliging.SparesRelease := fun _ _ _ _ => rfl

end Environment

namespace Bounds

variable {b : Bounds} {s : Session σ} {arrival : Option Nat} {time : Nat} {i : Interruption}

/-- What is in force to interrupt depends on the time and the cancellation only. -/
theorem interruption?_congr (b : Bounds) {s s' : Session σ} (hnow : s'.now = s.now)
    (hcancel : s'.cancelAt = s.cancelAt) : b.interruption? s' = b.interruption? s := by
  unfold interruption? cancelTime
  rw [hnow, hcancel]

/-! ### How a wait ends -/

/-- A wait ends with what comes before it is cut short, is cut short, or has no end. -/
theorem waking_cases (b : Bounds) (s : Session σ) (arrival : Option Nat) :
    (∃ t, b.waking s arrival = .arrived t ∧ arrival = some t ∧
        ∀ cut, b.cutoff s = some cut → b.beats t cut = true) ∨
      (∃ i t, b.waking s arrival = .interrupted i t ∧ b.cutoff s = some (i, t) ∧
        ∀ a, arrival = some a → b.beats a (i, t) = false) ∨
      (b.waking s arrival = .never ∧ arrival = none ∧ b.cutoff s = none) := by
  unfold waking
  cases arrival with
  | none =>
    cases b.cutoff s with
    | none => exact .inr (.inr ⟨rfl, rfl, rfl⟩)
    | some cut => exact .inr (.inl ⟨cut.1, cut.2, rfl, rfl, nofun⟩)
  | some a =>
    cases b.cutoff s with
    | none => exact .inl ⟨a, rfl, rfl, nofun⟩
    | some cut =>
      -- Which of the two comes first is what `beats` tells.
      by_cases hbeats : b.beats a cut = true
      · refine .inl ⟨a, if_pos hbeats, rfl, fun cut' hcut => ?_⟩
        exact Option.some.inj hcut ▸ hbeats
      · refine .inr (.inl ⟨cut.1, cut.2, if_neg hbeats, rfl, fun a' ha => ?_⟩)
        exact Option.some.inj ha ▸ Bool.eq_false_iff.mpr hbeats

/-- What is waited for comes at its time, before anything cuts the wait short. -/
theorem arrival_of_waking (h : b.waking s arrival = .arrived time) :
    arrival = some time ∧ ∀ cut, b.cutoff s = some cut → b.beats time cut = true := by
  rcases b.waking_cases s arrival with ⟨t, ht, hcomes⟩ | ⟨i, t, ht, -⟩ | ⟨ht, -⟩
  · obtain rfl := Waking.arrived.inj (h.symm.trans ht)
    exact hcomes
  · cases h.symm.trans ht
  · cases h.symm.trans ht

/-- A wait is cut short by what cuts it off, before what is waited for comes. -/
theorem cutoff_of_waking (h : b.waking s arrival = .interrupted i time) :
    b.cutoff s = some (i, time) ∧ ∀ a, arrival = some a → b.beats a (i, time) = false := by
  rcases b.waking_cases s arrival with ⟨t, ht, -⟩ | ⟨j, t, ht, hcut⟩ | ⟨ht, -⟩
  · cases h.symm.trans ht
  · obtain ⟨rfl, rfl⟩ := Waking.interrupted.inj (h.symm.trans ht)
    exact hcut
  · cases h.symm.trans ht

/-- A wait has no end only if nothing comes and nothing cuts it short. -/
theorem eq_none_of_waking (h : b.waking s arrival = .never) :
    arrival = none ∧ b.cutoff s = none := by
  rcases b.waking_cases s arrival with ⟨t, ht, -⟩ | ⟨i, t, ht, -⟩ | ⟨-, hnever⟩
  · cases h.symm.trans ht
  · cases h.symm.trans ht
  · exact hnever

end Bounds

namespace Run

/-! ## Making a call and taking its answer -/

/-- What a call leaves that was just made. -/
structure Sent (env : Environment σ) (c : Call) (s : Session σ) (p : Pending σ c)
    (s' : Session σ) : Prop where
  past : s'.past = .asked c s.now :: s.past
  now : s'.now = s.now
  gives : ∀ later, env.Gives c (p.answer later).2
  arrives : env.Answers → p.arrival.isSome
  spares : (env.receive c s.now s.remote).cancels = false → s'.cancelAt = s.cancelAt

namespace Pending

variable {c : Call} {b : Bounds} {p : Pending σ c} {s s' : Session σ}

/-- The session in which the answer to a call was taken. -/
def taken (p : Pending σ c) (s : Session σ) : Session σ :=
  { s.log (.answered c (p.answer s.remote).2) with remote := (p.answer s.remote).1 }

/-- When the answer to a call is taken: as the call is made, or when the wait for it is over. -/
inductive Comes (b : Bounds) (p : Pending σ c) (s : Session σ) : Session σ → Prop where
  | immediate (h : p.isImmediate = true) : Comes b p s s
  | awaited {time : Nat} (h : p.isImmediate = false)
      (hwaking : b.waking s p.arrival = .arrived time) : Comes b p s (s.passTo time)

/-- Nothing happens while an answer is waited for. -/
theorem Comes.past (h : p.Comes b s s') : s'.past = s.past := by
  cases h <;> rfl

end Pending

namespace Triple

variable {b : Bounds} {c : Call}

/-- A call that is made leaves what `Sent` says, and nothing is known of the answer yet. -/
theorem send_sent (s : Session σ) :
    Run.Triple env (· = s) (Run.send c) ⟨Sent env c s, fun _ _ => False⟩ := by
  intro s' hs'
  subst hs'
  constructor
  · -- Whether the call cancels the deployment shows in the cancellation only.
    split <;> rfl
  · split <;> rfl
  · exact fun later => ⟨s'.now, s'.remote, later, rfl⟩
  · intro hanswers
    rw [Option.isSome_map]
    exact hanswers c s'.now s'.remote
  · intro hspares
    simp only [hspares]
    rfl

/-- A wait up to an instant, and then a result. -/
theorem waitUntil_pure {s : Session σ} {time : Nat} {a : α} {Q : Run.Post σ α}
    (h : Q.done a (s.passTo time)) :
    Run.Triple env (· = s) (do Run.waitUntil time; return a) Q := by
  rintro _ rfl
  exact h

/-- A wait up to an instant, and then the result that comes of an answer. -/
theorem waitUntil_collect {s : Session σ} {time : Nat} {p : Pending σ c} {resume : c.Outcome → α}
    {Q : Run.Post σ α} (h : Q.done (resume (p.answer s.remote).2) (p.taken (s.passTo time))) :
    Run.Triple env (· = s) (do Run.waitUntil time; return resume (← Run.collect p)) Q := by
  rintro _ rfl
  exact h

/-- A request step by step. What is in force keeps the call from being made. Once it was made, its
answer is taken, or the wait for the answer is cut short or has no end. -/
theorem request_steps {s : Session σ} {S : Pending σ c → Session σ → Prop}
    {Q : Run.Post σ (Except Interruption c.Outcome)}
    (hskip : ∀ i, b.interruption? s = some i → Q.done (.error i) s)
    (hsend : b.interruption? s = none →
      Run.Triple env (· = s) (Run.send c) ⟨S, fun _ _ => False⟩)
    (htake : ∀ p s₁ s₂, S p s₁ → p.Comes b s₁ s₂ →
      Q.done (.ok (p.answer s₂.remote).2) (p.taken s₂))
    (hcut : ∀ p s₁ i time, S p s₁ → p.isImmediate = false →
      b.waking s₁ p.arrival = .interrupted i time → Q.done (.error i) (s₁.passTo time))
    (hnever : ∀ p s₁, S p s₁ → b.waking s₁ p.arrival = .never → Q.halts .stuck s₁) :
    Run.Triple env (· = s) (Run.request b c) Q := by
  refine session_bind fun s' hs' => ?_
  subst hs'
  split
  · rename_i i hi
    exact pure fun s₁ hs₁ => hs₁ ▸ hskip i hi
  · rename_i hfree
    refine bind (hsend hfree) (fun p => at_session fun s₁ hs₁ => ?_) (fun _ _ h => h.elim)
    split
    · -- The answer came with the call.
      rename_i himmediate
      rintro _ rfl
      exact htake p _ _ hs₁ (.immediate himmediate)
    · rename_i hlate
      have hlate : p.isImmediate = false := Bool.eq_false_iff.mpr hlate
      refine session_bind fun s₂ hs₂ => ?_
      subst hs₂
      split
      · rename_i time hwaking
        exact waitUntil_collect (htake p s₂ _ hs₁ (.awaited hlate hwaking))
      · rename_i i time hwaking
        exact waitUntil_pure (hcut p s₂ i time hs₁ hlate hwaking)
      · rename_i hwaking
        exact hang fun s' hs' => hs' ▸ hnever p s₂ hs₁ hwaking

/-- To start an errand, step by step: as with a request, up to the wait for the answer. -/
theorem start_steps {resume : Except Interruption c.Outcome → α} {s : Session σ}
    {S : Pending σ c → Session σ → Prop} {Q : Run.Post σ (Run.Started σ α)}
    (hskip : ∀ i, b.interruption? s = some i → Q.done (.finished (resume (.error i))) s)
    (hsend : b.interruption? s = none →
      Run.Triple env (· = s) (Run.send c) ⟨S, fun _ _ => False⟩)
    (htake : ∀ p s₁, S p s₁ →
      Q.done (.finished (resume (.ok (p.answer s₁.remote).2))) (p.taken s₁))
    (hwait : ∀ p s₁, S p s₁ → Q.done (.waiting c p resume) s₁) :
    Run.Triple env (· = s) (Run.start b (.ask c resume)) Q := by
  refine session_bind fun s' hs' => ?_
  subst hs'
  split
  · rename_i i hi
    exact pure fun s₁ hs₁ => hs₁ ▸ hskip i hi
  · rename_i hfree
    refine bind (hsend hfree) (fun p => at_session fun s₁ hs₁ => ?_) (fun _ _ h => h.elim)
    split
    · rintro _ rfl
      exact htake p _ hs₁
    · exact pure fun s₂ hs₂ => hs₂ ▸ hwait p s₁ hs₁

/-- The wait for an errand, step by step: its answer is taken, or the wait is cut short or has no
end. How it ends was settled in an earlier session. -/
theorem finish_steps {resume : Except Interruption c.Outcome → α} {p : Pending σ c}
    {s s₀ : Session σ} {Q : Run.Post σ α}
    (htake : ∀ time, b.waking s₀ p.arrival = .arrived time →
      Q.done (resume (.ok (p.answer s.remote).2)) (p.taken (s.passTo time)))
    (hcut : ∀ i time, b.waking s₀ p.arrival = .interrupted i time →
      Q.done (resume (.error i)) (s.passTo time))
    (hnever : b.waking s₀ p.arrival = .never → Q.halts .stuck s) :
    Run.Triple env (· = s) (Run.finish b s₀ (.waiting c p resume)) Q := by
  simp only [Run.finish]
  split
  · rename_i time hwaking
    exact waitUntil_collect (htake time hwaking)
  · rename_i i time hwaking
    exact waitUntil_pure (hcut i time hwaking)
  · rename_i hwaking
    exact hang fun s' hs' => hs' ▸ hnever hwaking

variable {K : List Step → Prop}

/-- A request is not made, or is interrupted, answered or never answered. -/
theorem request {Q : Except Interruption c.Outcome → List Step → Prop} {H : List Step → Prop}
    (hskip : ∀ i p, K p → Q (.error i) p)
    (hcut : ∀ i time p, K p → Q (.error i) (.asked c time :: p))
    (hanswer : ∀ o time p, K p → env.Gives c o →
      Q (.ok o) (.answered c o :: .asked c time :: p))
    (hnever : ∀ time p, K p → H (.asked c time :: p)) :
    Run.Triple env (K ·.past) (Run.request b c)
      ⟨fun r s => Q r s.past, fun _ s => H s.past⟩ := by
  refine at_session fun s hs => request_steps (fun i _ => hskip i s.past hs)
    (fun _ => send_sent s) (fun p s₁ s₂ hsent hcomes => ?_) (fun p s₁ i time hsent _ _ => ?_)
    (fun p s₁ hsent _ => ?_)
  · -- Nothing has happened between the call and its answer.
    show Q _ (.answered c _ :: s₂.past)
    rw [hcomes.past, hsent.past]
    exact hanswer _ s.now s.past hs (hsent.gives _)
  · -- A call whose wait is cut short stays without an answer.
    show Q _ s₁.past
    rw [hsent.past]
    exact hcut i s.now s.past hs
  · show H s₁.past
    rw [hsent.past]
    exact hnever s.now s.past hs

/-- A request that gives a reply has seen it, and it is one that the outside gives. -/
theorem request_seen {p : List Step} :
    Run.Triple env (p <:+ ·.past) (Run.request b c)
      ⟨fun r s => p <:+ s.past ∧ ∀ a, r = .ok (.ok a) →
        env.Gives c (.ok a) ∧ Seen p [.answered c (.ok a)] s.past, fun _ _ => True⟩ := by
  refine request (H := fun _ => True) (Q := fun r p' => p <:+ p' ∧ ∀ a, r = .ok (.ok a) →
    env.Gives c (.ok a) ∧ Seen p [.answered c (.ok a)] p') ?_ ?_ ?_ (fun _ _ _ => trivial)
  · exact fun i p' hp => ⟨hp, fun a heq => by cases heq⟩
  · exact fun i time p' hp => ⟨hp.trans (List.suffix_cons _ _), fun a heq => by cases heq⟩
  · -- Only an answer that is a reply has anything to show.
    intro o time p' hp hgives
    refine ⟨(hp.trans (List.suffix_cons _ _)).trans (List.suffix_cons _ _), fun a heq => ?_⟩
    obtain rfl := Except.ok.inj heq
    exact ⟨hgives, ((Seen.of_suffix hp).cons _).take _⟩

/-- A pause step by step. What is in force once its delay is drawn ends it. Else the delay passes,
or the wait for its end is cut short. -/
theorem pause_steps {schedule : Backoff} {s : Session σ} {S : Nat × Backoff → Session σ → Prop}
    {Q : Run.Post σ (Except Interruption Backoff)}
    (hdraw : Run.Triple env (· = s) (Run.drawDelay schedule) ⟨S, fun _ _ => False⟩)
    (hskip : ∀ drawn s₁ i, S drawn s₁ → b.interruption? s₁ = some i → Q.done (.error i) s₁)
    (hpass : ∀ drawn s₁, S drawn s₁ → b.interruption? s₁ = none →
      b.waking s₁ (some (s₁.now + drawn.1)) = .arrived (s₁.now + drawn.1) →
      Q.done (.ok drawn.2) (s₁.passTo (s₁.now + drawn.1)))
    (hcut : ∀ drawn s₁ i time, S drawn s₁ → b.interruption? s₁ = none →
      b.waking s₁ (some (s₁.now + drawn.1)) = .interrupted i time →
      Q.done (.error i) (s₁.passTo time)) :
    Run.Triple env (· = s) (Run.pause b schedule) Q := by
  refine bind hdraw (fun drawn => session_bind fun s₁ hs₁ => ?_) (fun _ _ h => h.elim)
  split
  · rename_i i hi
    exact pure fun s' hs' => hs' ▸ hskip drawn s₁ i hs₁ hi
  · rename_i hfree
    split
    · rename_i time hwaking
      obtain rfl := Option.some.inj (Bounds.arrival_of_waking hwaking).1
      exact waitUntil_pure (hpass drawn s₁ hs₁ hfree hwaking)
    · rename_i i time hwaking
      exact waitUntil_pure (hcut drawn s₁ i time hs₁ hfree hwaking)
    · -- A delay has an end.
      rename_i hnever
      cases (Bounds.eq_none_of_waking hnever).1

/-- A pause leaves no trace. -/
theorem pause {schedule : Backoff} :
    Run.Triple env (K ·.past) (Run.pause b schedule)
      ⟨fun _ s => K s.past, fun _ s => K s.past⟩ := by
  refine at_session fun s hs => ?_
  have hdraw : Run.Triple env (· = s) (Run.drawDelay schedule)
      ⟨fun _ s' => K s'.past, fun _ _ => False⟩ := by
    rintro _ rfl
    exact hs
  -- At most time passes after that.
  exact pause_steps hdraw (fun _ _ _ hpast _ => hpast) (fun _ _ hpast _ _ => hpast)
    (fun _ _ _ _ hpast _ _ => hpast)

end Triple

namespace Calls

variable {φ : Call → Prop} {b : Bounds}

/-- A request makes no call but its own. -/
theorem request {c : Call} (h : φ c) : (Run.request b c : Run σ _).Calls φ := by
  refine of_triple fun env p => ?_
  refine (Triple.request (K := (· = p)) (Q := fun _ => Adds φ p) (H := Adds φ p) ?_ ?_ ?_ ?_)
  · rintro i _ rfl
    exact Adds.refl
  · rintro i time _ rfl
    exact Adds.refl.asked h
  · rintro o time _ rfl -
    exact (Adds.refl.asked h).answered h
  · rintro time _ rfl
    exact Adds.refl.asked h

end Calls

end Run

namespace Work

/-- What holds when a call was made: one condition for the reply, one for a failure. -/
def Called {c : Call} (what machine : String) (R : c.Reply → List Step → Prop)
    (E : DeployError → List Step → Prop) : Except Interruption c.Outcome → List Step → Prop
  | .error i, p => E (i.error what machine) p
  | .ok (.error e), p => E (.api e) p
  | .ok (.ok a), p => R a p

/-- The call of a piece of work leaves the value alone. It gives the reply, or fails, whether the
call was made and answered or not. -/
theorem Triple.call {K : τ → List Step → Prop} {c : Call} {what machine : String}
    {R : τ → c.Reply → List Step → Prop} {E : τ → DeployError → List Step → Prop}
    {H : List Step → Prop}
    (hskip : ∀ e t p, K t p → E t e p)
    (hcut : ∀ e t time p, K t p → E t e (.asked c time :: p))
    (hrefused : ∀ e t time p, K t p → env.Gives c (.error e) →
      E t (.api e) (.answered c (.error e) :: .asked c time :: p))
    (hreply : ∀ a t time p, K t p → env.Gives c (.ok a) →
      R t a (.answered c (.ok a) :: .asked c time :: p))
    (hnever : ∀ t time p, K t p → H (.asked c time :: p)) :
    Work.Triple env (fun t s => K t s.past) (Work.call c what machine)
      ⟨fun t a s => R t a s.past, fun t e s => E t e s.past, fun _ s => H s.past⟩ := by
  intro t
  refine Run.Triple.bind (Run.Triple.request (K := K t) (Q := Called what machine (R t) (E t))
    (H := H) ?_ ?_ ?_ ?_) (fun r => ?_) (fun _ _ h => h)
  · exact fun i p hp => hskip _ t p hp
  · exact fun i time p hp => hcut _ t time p hp
  · -- An answer may be a refusal, which is a failure of the work.
    rintro (e | a) time p hp hgives
    · exact hrefused e t time p hp hgives
    · exact hreply a t time p hp hgives
  · exact fun time p hp => hnever t time p hp
  · split <;> exact Run.Triple.pure fun _ h => h

/-- The call of a piece of work that gives a reply has seen it. What is known of the value, it
leaves alone. -/
theorem Triple.call_seen {K : τ → Prop} {c : Call} {what machine : String} {p : List Step} :
    Work.Triple env (fun t s => K t ∧ p <:+ s.past) (Work.call c what machine)
      ⟨fun t a s => K t ∧ env.Gives c (.ok a) ∧ Seen p [.answered c (.ok a)] s.past,
        fun t _ _ => K t, fun _ _ => True⟩ := by
  refine Triple.call (K := fun t p' => K t ∧ p <:+ p')
    (R := fun t a p' => K t ∧ env.Gives c (.ok a) ∧ Seen p [.answered c (.ok a)] p')
    (E := fun t _ _ => K t) (H := fun _ => True) (fun _ _ _ h => h.1) (fun _ _ _ _ h => h.1)
    (fun _ _ _ _ h _ => h.1) (fun a t time p' h hgives => ?_) (fun _ _ _ _ => trivial)
  exact ⟨h.1, hgives, ((Seen.of_suffix h.2).cons _).take _⟩

/-- The call of a piece of work is the only one that it makes. -/
theorem Calls.call {φ : Call → Prop} {c : Call} {what machine : String} (h : φ c) :
    (Work.call c what machine : Work σ τ _).Calls φ := by
  refine fun t => (Run.Calls.request h).bind fun r => ?_
  split <;> exact Run.Calls.pure _

end Work

end Rollout
