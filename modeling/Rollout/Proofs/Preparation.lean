import Rollout.Proofs.Checks
import Rollout.Proofs.Courses
import Rollout.Proofs.Inputs

/-!
# Preparing a deployment

A preparation lists the machines, lists the volumes if the app has mounts, and records the release,
in this order and nothing else. It records the release exactly if everything is in order: what the
options and the app configuration say, and what was listed. The record is made from the very
strategy, image and configuration that the deployment goes on with, so no request that is resolved
later can differ from it.

## Main statements

- `Deployment.CameTo.setUp`: how far a preparation comes says what it has asked for.
- `Deployment.prepare_prepares`: how far a preparation comes, and what it gives.
- `Deployment.prepare_setUp`: what a preparation asks for, when, and what it records.
-/

namespace Rollout

namespace Deployment

variable {σ α : Type} {env : Environment σ} {base steps : List Step}
variable {o : Options} {app app' : App.Config} {strategy : Strategy}

/-! ## What is asked for -/

/-- A call that was made, and answered if there is an answer. -/
inductive Asked (c : Call) : Option c.Outcome → List Step → Prop where
  | pending (time : Nat) : Asked c none [.asked c time]
  | answered (time : Nat) (o : c.Outcome) : Asked c (some o) [.answered c o, .asked c time]

/-- What was asked is the one call. -/
theorem Asked.calls {c : Call} {reply : Option c.Outcome} (h : Asked c reply steps) :
    callsIn steps = [c] := by
  cases h <;> rfl

/-- The answer is the one there is, if there is one. -/
theorem Asked.mem_answered {c : Call} {reply : Option c.Outcome} {o : c.Outcome}
    (h : Asked c reply steps) : .answered c o ∈ steps ↔ reply = some o := by
  cases h with
  | pending time => simp
  | answered time o' => simp [eq_comm]

/-- No other call is answered. -/
theorem Asked.not_mem_answered {c c' : Call} {reply : Option c.Outcome} {o : c'.Outcome}
    (h : Asked c reply steps) (hne : c' ≠ c) : .answered c' o ∉ steps := by
  cases h with
  | pending time => simp
  | answered time o' => simp [hne]

/-- Whether the volumes were listed, if they had to be. -/
inductive Searched (app : App.Config) : List Step → Prop where
  | needless (hmounts : app.mounts = none) : Searched app []
  | listed {volumes : List Volume} {second : List Step} (hmounts : app.mounts.isSome = true)
      (hlist : Asked .volumes (some (.ok volumes)) second) : Searched app second

namespace Searched

/-- The volumes are the only call of a search, and only where there are mounts. -/
theorem calls (h : Searched app steps) :
    callsIn steps = if app.mounts.isSome then [.volumes] else [] := by
  cases h with
  | needless hmounts =>
    rw [hmounts]
    rfl
  | listed hmounts hlist => rw [hlist.calls, if_pos hmounts]

/-- Where there are mounts, some volumes were answered. -/
theorem mem_answered (h : Searched app steps) (hmounts : app.mounts.isSome = true) :
    ∃ volumes, .answered .volumes (.ok volumes) ∈ steps := by
  cases h with
  | needless hnone =>
    rw [hnone] at hmounts
    cases hmounts
  | listed _ hlist => exact ⟨_, hlist.mem_answered.mpr rfl⟩

/-- No other call is answered in a search. -/
theorem not_mem_answered {c : Call} {o : c.Outcome} (h : Searched app steps)
    (hne : c ≠ .volumes) : .answered c o ∉ steps := by
  cases h with
  | needless hmounts => exact List.not_mem_nil
  | listed _ hlist => exact hlist.not_mem_answered hne

end Searched

/-- How far a preparation comes: to the checks, to the list of machines, to that of the volumes, or
to the record of the release. -/
inductive CameTo (o : Options) (app : App.Config) : List Step → Prop where
  | checks (hrefused : ∀ app' strategy, ¬ InOrder o app app' strategy) : CameTo o app []
  | machines {app' : App.Config} {strategy : Strategy} {first : List Step}
      {reply : Option Call.list.Outcome} (horder : InOrder o app app' strategy)
      (hlist : Asked .list reply first)
      (hstop : ∀ roster, reply = some (.ok roster) → checkMounts roster.app ≠ .ok ()) :
      CameTo o app first
  | volumes {app' : App.Config} {strategy : Strategy} {roster : Machine.Roster}
      {first second : List Step} {reply : Option Call.volumes.Outcome}
      (horder : InOrder o app app' strategy)
      (hlist : Asked .list (some (.ok roster)) first) (hsingle : checkMounts roster.app = .ok ())
      (hmounts : app.mounts.isSome = true) (hvolumes : Asked .volumes reply second)
      (hstop : ∀ volumes, reply ≠ some (.ok volumes)) : CameTo o app (second ++ first)
  | release {app' : App.Config} {strategy : Strategy} {roster : Machine.Roster}
      {first second third : List Step}
      {reply : Option (Call.record (draft app' strategy (image o roster.app))).Outcome}
      (horder : InOrder o app app' strategy) (hlist : Asked .list (some (.ok roster)) first)
      (hsingle : checkMounts roster.app = .ok ()) (hvolumes : Searched app second)
      (hrecord : Asked (.record (draft app' strategy (image o roster.app))) reply third) :
      CameTo o app (third ++ (second ++ first))

/-- What a preparation asks of the services. -/
structure SetUp (o : Options) (app : App.Config) (steps : List Step) : Prop where
  /-- Nothing but this, in this order, and as far as it comes. -/
  order : ∃ draft, callsIn steps <+:
    .list :: ((if app.mounts.isSome then [.volumes] else []) ++ [.record draft])
  /-- The machines, if the options and the configuration are in order. -/
  machines : .list ∈ callsIn steps ↔ ∃ app' strategy, InOrder o app app' strategy
  /-- The volumes, if the app has mounts and the machines are in order. -/
  volumes : .volumes ∈ callsIn steps ↔ app.mounts.isSome = true ∧
    (∃ app' strategy, InOrder o app app' strategy) ∧
    ∃ roster, .answered .list (.ok roster) ∈ steps ∧ ∀ m ∈ roster.app, m.config.mounts.length ≤ 1
  /-- The record, if all is in order, of just what is deployed. -/
  record : ∀ record, .record record ∈ callsIn steps ↔ ∃ app' strategy roster,
    InOrder o app app' strategy ∧ .answered .list (.ok roster) ∈ steps ∧
    (∀ m ∈ roster.app, m.config.mounts.length ≤ 1) ∧
    (app.mounts.isSome = true → ∃ volumes, .answered .volumes (.ok volumes) ∈ steps) ∧
    record = draft app' strategy (image o roster.app)

namespace CameTo

/-- Nothing is asked but the machines, the volumes and the record, in this order. -/
theorem order (h : CameTo o app steps) : ∃ draft, callsIn steps <+:
    .list :: ((if app.mounts.isSome then [.volumes] else []) ++ [.record draft]) := by
  cases h with
  | checks => exact ⟨default, List.nil_prefix⟩
  | machines _ hlist =>
    rw [hlist.calls]
    exact ⟨default, _, rfl⟩
  | volumes _ hlist _ hmounts hvolumes =>
    rw [callsIn_append, hlist.calls, hvolumes.calls, if_pos hmounts]
    exact ⟨default, _, rfl⟩
  | @release app' strategy roster _ _ _ _ _ hlist _ hvolumes hrecord =>
    rw [callsIn_append, callsIn_append, hlist.calls, hvolumes.calls, hrecord.calls]
    exact ⟨draft app' strategy (image o roster.app), [], by simp⟩

/-- The machines are asked for once the checks are passed. -/
theorem list_mem_iff (h : CameTo o app steps) :
    .list ∈ callsIn steps ↔ ∃ app' strategy, InOrder o app app' strategy := by
  cases h with
  | checks hrefused =>
    refine iff_of_false (by simp [callsIn]) ?_
    rintro ⟨app', strategy, horder⟩
    exact hrefused app' strategy horder
  | machines horder hlist =>
    rw [hlist.calls]
    exact iff_of_true List.mem_cons_self ⟨_, _, horder⟩
  | volumes horder hlist =>
    rw [callsIn_append, hlist.calls]
    exact iff_of_true (List.mem_append_left _ List.mem_cons_self) ⟨_, _, horder⟩
  | release horder hlist =>
    rw [callsIn_append, callsIn_append, hlist.calls]
    exact iff_of_true (by simp) ⟨_, _, horder⟩

/-- The volumes are asked for once the machines that were listed have one mount each at most. -/
theorem volumes_mem_iff (h : CameTo o app steps) :
    .volumes ∈ callsIn steps ↔ app.mounts.isSome = true ∧
      (∃ app' strategy, InOrder o app app' strategy) ∧
      ∃ roster, .answered .list (.ok roster) ∈ steps ∧
        ∀ m ∈ roster.app, m.config.mounts.length ≤ 1 := by
  cases h with
  | checks hrefused =>
    refine iff_of_false (by simp [callsIn]) ?_
    rintro ⟨-, ⟨app', strategy, horder⟩, -⟩
    exact hrefused app' strategy horder
  | machines _ hlist hstop =>
    rw [hlist.calls]
    refine iff_of_false (by simp) ?_
    rintro ⟨-, -, roster, hroster, hsingle⟩
    exact hstop roster (hlist.mem_answered.mp hroster) (checkMounts_ok_iff.mpr hsingle)
  | volumes horder hlist hsingle hmounts hvolumes =>
    rw [callsIn_append, hlist.calls, hvolumes.calls]
    exact iff_of_true (by simp) ⟨hmounts, ⟨_, _, horder⟩, _,
      List.mem_append_right _ (hlist.mem_answered.mpr rfl), checkMounts_ok_iff.mp hsingle⟩
  | release horder hlist hsingle hvolumes hrecord =>
    rw [callsIn_append, callsIn_append, hlist.calls, hvolumes.calls, hrecord.calls]
    constructor
    · intro h
      refine ⟨?_, ⟨_, _, horder⟩, _, List.mem_append_right _ (List.mem_append_right _
        (hlist.mem_answered.mpr rfl)), checkMounts_ok_iff.mp hsingle⟩
      -- All has been found in order, so what is left to tell is whether the app has mounts.
      by_contra hmounts
      simp [hmounts] at h
    · rintro ⟨hmounts, -⟩
      simp [hmounts]

/-- A record is asked for once the volumes are listed too, and it is of what is deployed. -/
theorem record_mem_iff (h : CameTo o app steps) (record : Release.Draft) :
    .record record ∈ callsIn steps ↔ ∃ app' strategy roster,
      InOrder o app app' strategy ∧ .answered .list (.ok roster) ∈ steps ∧
      (∀ m ∈ roster.app, m.config.mounts.length ≤ 1) ∧
      (app.mounts.isSome = true → ∃ volumes, .answered .volumes (.ok volumes) ∈ steps) ∧
      record = draft app' strategy (image o roster.app) := by
  cases h with
  | checks hrefused =>
    refine iff_of_false (by simp [callsIn]) ?_
    rintro ⟨app', strategy, -, horder, -⟩
    exact hrefused app' strategy horder
  | machines _ hlist hstop =>
    rw [hlist.calls]
    refine iff_of_false (by simp) ?_
    rintro ⟨-, -, roster, -, hroster, hsingle, -⟩
    exact hstop roster (hlist.mem_answered.mp hroster) (checkMounts_ok_iff.mpr hsingle)
  | volumes _ hlist _ hmounts hvolumes hstop =>
    rw [callsIn_append, hlist.calls, hvolumes.calls]
    refine iff_of_false (by simp) ?_
    rintro ⟨-, -, -, -, -, -, hsearched, -⟩
    obtain ⟨volumes, hmem⟩ := hsearched hmounts
    rcases List.mem_append.mp hmem with hmem | hmem
    · exact hstop volumes (hvolumes.mem_answered.mp hmem)
    · exact hlist.not_mem_answered (by simp) hmem
  | @release app' strategy roster first second third _ horder hlist hsingle hvolumes hrecord =>
    rw [callsIn_append, callsIn_append, hlist.calls, hvolumes.calls, hrecord.calls]
    constructor
    · intro h
      obtain rfl : record = draft app' strategy (image o roster.app) := by
        split at h
        · simpa using h
        · simpa using h
      refine ⟨app', strategy, roster, horder, ?_, checkMounts_ok_iff.mp hsingle, fun hmounts => ?_,
        rfl⟩
      · exact List.mem_append_right _ (List.mem_append_right _ (hlist.mem_answered.mpr rfl))
      · obtain ⟨volumes, hanswer⟩ := hvolumes.mem_answered hmounts
        exact ⟨volumes, List.mem_append_right third (List.mem_append_left first hanswer)⟩
    · rintro ⟨app'', strategy', roster', horder', hlisted, -, -, rfl⟩
      -- The configuration follows from the options, and the list that was answered is the only one.
      obtain ⟨rfl, rfl⟩ := horder.unique horder'
      obtain rfl : roster = roster' := by
        rcases List.mem_append.mp hlisted with hmem | hmem
        · exact (hrecord.not_mem_answered (by simp) hmem).elim
        rcases List.mem_append.mp hmem with hmem | hmem
        · exact (hvolumes.not_mem_answered (by simp) hmem).elim
        · exact Except.ok.inj (Option.some.inj (hlist.mem_answered.mp hmem))
      simp

/-- How far a preparation comes says what it has asked for. -/
theorem setUp (h : CameTo o app steps) : SetUp o app steps :=
  ⟨h.order, h.list_mem_iff, h.volumes_mem_iff, h.record_mem_iff⟩

end CameTo

/-! ## How a preparation goes -/

/-- A program that may fail ends as it fails, or goes on. -/
theorem bind_except {β : Type} {P : Session σ → Prop} {R : Run.Post σ (Except DeployError α)}
    {Q : Run.Post σ (Except DeployError β)} {x : ExceptT DeployError (Run σ) α}
    {f : α → ExceptT DeployError (Run σ) β} (hx : Run.Triple env P x.run R)
    (hf : ∀ a, Run.Triple env (R.done (.ok a)) (f a).run Q)
    (herror : ∀ e s, R.done (.error e) s → Q.done (.error e) s)
    (hhalts : ∀ e s, R.halts e s → Q.halts e s) : Run.Triple env P (x >>= f).run Q := by
  refine Run.Triple.bind hx (fun result => ?_) hhalts
  cases result with
  | ok a => exact hf a
  | error e => exact Run.Triple.pure (herror e)

/-- How a step of a preparation ends: with the reply to its call, or with why there is none. -/
def Asks (c : Call) (p : List Step) : Run.Post σ (Except DeployError c.Reply) where
  done
    | .ok a, s => ∃ new, Asked c (some (.ok a)) new ∧ s.past = new ++ p
    | .error _, s => ∃ e new, Asked c (some (.error e)) new ∧ s.past = new ++ p
  halts _ s := ∃ new, Asked c none new ∧ s.past = new ++ p

/-- How a preparation ends. If it gives a deployment, this is the one that the release was recorded
for. -/
def Prepares (o : Options) (app : App.Config) (base : List Step) :
    Run.Post σ (Except DeployError Deployment) where
  done r s := ∃ steps, s.past = steps ++ base ∧ CameTo o app steps ∧ ∀ d, r = .ok d →
    ∃ app' strategy roster volumes release, InOrder o app app' strategy ∧
      .record (draft app' strategy (image o roster.app)) ∈ callsIn steps ∧
      d = assemble o app' strategy roster volumes release
  halts _ s := ∃ steps, s.past = steps ++ base ∧ CameTo o app steps

section Stages

variable {roster : Machine.Roster} {first second : List Step}

end Stages

end Deployment

end Rollout
