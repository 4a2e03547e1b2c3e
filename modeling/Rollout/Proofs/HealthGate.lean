import Mathlib.Data.List.Perm.Subperm
import Rollout.Proofs.Handle

/-!
# The health gate

A machine passes the health gate when as many of its checks pass as there are checks reported or
configured. The gate counts and does not look at names. So it is certain that no report is bad and
that there are enough of them; but a report of a check that is configured no more, or a second
report of one check, may stand in for a check that has not reported. Where every report is the only
one of a configured check, none is left out.

## Main statements

- `Machine.allPassing_iff`: what the counts say about the reports.
- `Handle.waitForHealth_vouches`: what is certain of the machine that was fetched last when the
  gate was passed.
-/

namespace Rollout

variable {σ α : Type} {env : Environment σ}

namespace Machine

/-- The counts of a machine are those of a healthy one if and only if all its reports pass and
there are as many as there are checks. -/
theorem allPassing_iff (m : Machine) : m.health.allPassing = true ↔
    (∀ report ∈ m.checks, report.status = .passing) ∧ m.config.checks.size ≤ m.checks.length := by
  have hle : m.checks.countP (·.status == .passing) ≤ m.checks.length := List.countP_le_length
  have hall : m.checks.countP (·.status == .passing) = m.checks.length ↔
      ∀ report ∈ m.checks, report.status = .passing := by
    rw [List.countP_eq_length]
    simp only [beq_iff_eq]
  rw [← hall]
  -- The total is that of the reports or of the checks, whichever is larger.
  show (m.checks.countP _ == max m.checks.length m.config.checks.size) = true ↔ _
  rw [beq_iff_eq]
  omega

/-- Whether every report is the only one of a check that is configured. -/
structure ReportsOwn (m : Machine) : Prop where
  once : (m.checks.map (·.name)).Nodup
  configured : ∀ report ∈ m.checks, report.name ∈ m.config.checks.keys

/-- Where enough reports are of their own checks each, every check has reported. -/
theorem ReportsOwn.mem_names {m : Machine} (hown : m.ReportsOwn)
    (henough : m.config.checks.size ≤ m.checks.length) {name : String}
    (hname : name ∈ m.config.checks.keys) : name ∈ m.checks.map (·.name) := by
  have hsubset : m.checks.map (·.name) ⊆ m.config.checks.keys := by
    intro name' hname'
    obtain ⟨report, hreport, hreportName⟩ := List.mem_map.mp hname'
    rw [← hreportName]
    exact hown.configured report hreport
  have hlength : m.config.checks.keys.length ≤ (m.checks.map (·.name)).length := by
    rw [Dict.keys, List.length_map, List.length_map]
    exact henough
  -- No name is reported twice, so the names that are reported are all there are.
  have hperm : (m.checks.map (·.name)).Perm m.config.checks.keys :=
    (hown.once.subperm hsubset).perm_of_length_le hlength
  exact hperm.mem_iff.mpr hname

/-- What is certain of a machine that passed the health gate. -/
structure Vouched (m : Machine) : Prop where
  /-- No check reported anything but that it passes. -/
  passing : ∀ report ∈ m.checks, report.status = .passing
  /-- There are as many reports as checks are configured. -/
  enough : m.config.checks.size ≤ m.checks.length
  /-- If nothing else is reported, every configured check reported that it passes. -/
  covered : m.ReportsOwn → ∀ name ∈ m.config.checks.keys,
    ∃ report ∈ m.checks, report.name = name ∧ report.status = .passing

/-- A machine whose counts are those of a healthy one is vouched for. -/
theorem vouched_of_allPassing {m : Machine} (h : m.health.allPassing = true) : m.Vouched := by
  obtain ⟨hpassing, henough⟩ := m.allPassing_iff.mp h
  refine ⟨hpassing, henough, fun hown name hname => ?_⟩
  obtain ⟨report, hreport, hreportName⟩ := List.mem_map.mp (hown.mem_names henough hname)
  exact ⟨report, hreport, hreportName, hpassing report hreport⟩

end Machine

namespace Handle

variable {h h' : Handle} {s s' : Session σ}

/-- A request that gets its reply does nothing after it. -/
theorem get_last (b : Bounds) (last : Option Machine) :
    Run.Triple env (fun _ => True) (Run.request b (.get h.id))
      ⟨Run.Triple.Answered (fun _ _ => True)
        (fun m p => p.head? = some (.answered (.get h.id) (.ok m))) last, fun _ _ => True⟩ := by
  refine (Run.Triple.request (K := fun _ => True) (Q := fun r p => ∀ m : Machine,
    r = .ok (.ok m) → p.head? = some (.answered (.get h.id) (.ok m))) (H := fun _ => True)
    ?_ ?_ ?_ ?_).mono (fun _ hs => hs) ?_ (fun _ _ hs => hs)
  · -- The request is barred, cut short, answered, or never answered.
    exact fun i p _ m heq => by cases heq
  · exact fun i time p _ m heq => by cases heq
  · intro o time p _ _ m heq
    rw [Except.ok.inj heq]
    rfl
  · exact fun _ _ _ => trivial
  · rintro (i | e | m) s hs
    · trivial
    · trivial
    · exact ⟨trivial, hs m rfl⟩

/-- When a machine that was fetched meets the condition, it is the one that was fetched last, and
nothing has happened since. -/
theorem last_of_fetchUntil {what : String} {schedule : Backoff} {accept : Machine → Option α}
    {timeout : Nat} {a : α}
    (hrun : fetchUntil what schedule accept timeout h env s = (.done (h', .ok a), s')) :
    accept h'.machine = some a ∧
      s'.past.head? = some (.answered (.get h.id) (.ok h'.machine)) := by
  have hlast : Run.Triple env (fun _ => True) (fetchUntil what schedule accept timeout h)
      (Work.Post.toRun ⟨fun h' a s => accept h'.machine = some a ∧
        s.past.head? = some (.answered (.get h.id) (.ok h'.machine)), fun _ _ _ => True,
        fun _ _ => True⟩) := by
    refine Run.Triple.bind (Run.Triple.poll (K := fun _ _ => True)
      (A := fun m p => p.head? = some (.answered (.get h.id) (.ok m))) (H := fun _ => True)
      (fun b last _ => get_last b last) fun _ _ _ => trivial) (fun result => ?_)
      (fun _ _ _ => trivial)
    refine Run.Triple.pure fun s hs => ?_
    obtain ⟨last, verdict⟩ := result
    cases verdict with
    -- A poll that fails promises nothing.
    | error e => trivial
    | ok a =>
      obtain ⟨m, hlast, haccept, hhead⟩ := hs.2 a rfl
      have hlast : last = some m := hlast
      rw [hlast]
      exact ⟨haccept, hhead⟩
  have hends := hlast s trivial
  rw [hrun] at hends
  exact hends

/-- When the health gate is passed and a machine was fetched for it, the one that was fetched last
is vouched for by its reports. -/
theorem waitForHealth_vouches (timeout : Nat) (h : Handle) (env : Environment σ) (s : Session σ)
    (hrun : waitForHealth timeout h env s = (.done (h', .ok ()), s'))
    (hfetched : ∃ time, Seen s.past [.asked (.get h.id) time] s'.past) :
    s'.past.head? = some (.answered (.get h.id) (.ok h'.machine)) ∧ h'.machine.Vouched := by
  change (if h.machine.config.checks.isEmpty then pure () else
    fetchUntil _ _ _ timeout : Work σ Handle Unit) h env s = _ at hrun
  split at hrun
  · -- Without checks nothing is fetched.
    have hsession : s = s' := (Prod.mk.inj hrun).2
    obtain ⟨time, new, hpast, hsub⟩ := hfetched
    rw [hsession] at hpast
    have hnew : new = [] := List.self_eq_append_left.mp hpast
    rw [hnew] at hsub
    cases hsub
  · obtain ⟨haccept, hhead⟩ := last_of_fetchUntil hrun
    refine ⟨hhead, Machine.vouched_of_allPassing ?_⟩
    -- The poll accepts only a machine whose counts are in order.
    by_contra hfails
    rw [if_neg hfails] at haccept
    cases haccept

/-- A machine with a check, as its reports are shown. -/
def checked (name : String) (checks : List Machine.CheckReport) : Machine :=
  { id := "web", config := { checks := Dict.empty.insert name {} }, checks := checks }

/-- An outside that shows a machine whenever one is fetched. -/
def showing (m : Machine) : Environment Unit :=
  { Environment.obliging with
    receive := fun c _ st =>
      { remote := st, delay := some 0, answer := (·, match c with
        | .get _ => .ok m
        | c => Environment.oblige c) } }

set_option maxRecDepth 2000 in
/-- A machine with one check that reports once passes the gate. -/
theorem waitForHealth_vouches_checked :
    let m := checked "alive" [{ name := "alive" }]
    let run := waitForHealth 1000 { machine := m } (showing m) { remote := () }
    ∃ h' s', run = (.done (h', .ok ()), s') ∧
      (∃ time, Seen [] [.asked (.get "web") time] s'.past) ∧ h'.machine = m ∧
      h'.machine.Vouched := by
  intro m run
  have hseen : ∃ time, Seen [] [.asked (.get "web") time] run.2.past :=
    ⟨0, [.answered (.get "web") (.ok m), .asked (.get "web") 0], rfl, by simp⟩
  exact ⟨_, _, rfl, hseen, rfl, (waitForHealth_vouches 1000 { machine := m } (showing m)
    { remote := () } rfl hseen).2⟩

set_option maxRecDepth 2000 in
/-- The report of a check that is configured no more passes the gate for a check that has not
reported. -/
theorem leftover_passes :
    let m := checked "ready" [{ name := "alive" }]
    let run := waitForHealth 1000 { machine := m } (showing m) { remote := () }
    ∃ h' s', run = (.done (h', .ok ()), s') ∧
      s'.past = [.answered (.get "web") (.ok h'.machine), .asked (.get "web") 0] ∧
      "ready" ∈ h'.machine.config.checks.keys ∧
      ¬ ∃ report ∈ h'.machine.checks, report.name = "ready" := by
  intro m run
  exact ⟨_, _, rfl, rfl, by decide, by decide⟩

end Handle

end Rollout
