import Rollout.Proofs.CommandGate

/-!
# How fresh a verdict is

The verdict on a release command is read off the history of its machine as it was fetched last: it
is that of the latest exit, which has to be later than every start. Nothing else ties the exit to
the run that the deployment began: which instance of the machine is shown is not looked at, though
the waits before are for the one that was updated. Once the history that is fetched shows the start
of that run, only an exit of the run passes, and none that was known when the machine was found.
Before, the exit of an earlier run may pass: a control plane may answer from a state that is no
longer the latest, also after it has answered that the machine started and stopped.

## Main statements

- `Deployment.runCommand_fresh`: the exit that passed is later than every start that was shown.
- `Deployment.runCommand_stale`: an exit of an earlier run passes where the start of the run is not
  shown.
-/

namespace Rollout

variable {σ : Type} {env : Environment σ}

namespace Machine.Event

variable {kind after : String} {events known : List Event} {e start : Event}

/-- What is later than a start was not known before the start. -/
theorem LatestAfter.notMem (h : LatestAfter kind after events e) (hstart : start ∈ events)
    (hkind : start.kind = after)
    (hknown : ∀ x ∈ known, x.kind = kind → x.timestamp.millis ≤ start.timestamp.millis) :
    e ∉ known := by
  intro hmem
  -- A known one would be no later than the start, which it is later than.
  have hlater := h.isAfter start hstart hkind
  have hearlier := hknown e hmem h.kind_eq
  omega

end Machine.Event

namespace Deployment

open ReleaseCommand

variable {s s' : Session σ}

/-- When a deployment gets past its release command, the command has run to its end. -/
theorem run_of_runCommand {d d' : Deployment}
    (hrun : runCommand d env s = (.done (d', .ok ()), s')) :
    ReleaseCommand.run d.resolver d.command env s = (.done (d'.command, .ok ()), s') := by
  change Run.andThen (Run.andThen (Run.andThen (ReleaseCommand.run d.resolver d.command) _) _) _
    env s = _ at hrun
  unfold Run.andThen at hrun
  -- A command that fails, or does not end, is not gone on from.
  rcases hcommand : ReleaseCommand.run d.resolver d.command env s with
    ⟨⟨c, e | _⟩ | _ | _, s₁⟩
  · rw [hcommand] at hrun
    cases hrun
  · rw [hcommand] at hrun
    cases hrun
    rfl
  · rw [hcommand] at hrun
    cases hrun
  · rw [hcommand] at hrun
    cases hrun

/-- Whether an exit passed for the end of the run that was begun on a machine with a history: it is
later than every start that was shown with it, and where a start was shown that no exit of the
history is later than, it is none of the history. -/
structure Passed (known : List Machine.Event) (g : Machine) (exit : Machine.Event) : Prop where
  latest : Machine.Event.LatestAfter "exit" "start" g.events exit
  code : exit.exitCode = some 0
  fresh : ∀ start ∈ g.events, start.kind = "start" →
    (∀ x ∈ known, x.kind = "exit" → x.timestamp.millis ≤ start.timestamp.millis) → exit ∉ known

/-- A command line that is not blank is run without the blanks at its ends. -/
theorem assemble_effective (o : Options) (app : App.Config) (strategy : Strategy)
    (roster : Machine.Roster) (volumes : Volume.Pool) (release : Release) {commandLine : String}
    (hcommand : app.deploy.bind (·.releaseCommand) = some commandLine)
    (hblank : Text.isBlankText commandLine = false) :
    (assemble o app strategy roster volumes release).command.effective? =
      some (Text.trim commandLine) := by
  show ((app.releaseCommand.map Text.trim).filter (· != "")) = some (Text.trim commandLine)
  rw [App.Config.releaseCommand, hcommand]
  simp [hblank, Text.trim_ne_empty hblank]

/-- When a deployment gets past a release command that is run, an exit was accepted. -/
theorem runCommand_accepts {d d' : Deployment} {line : String} {found : Option String}
    (hline : d.command.effective? = some line) (hruns : d.command.restartOnly = false)
    (hstarts : Starts found d.command)
    (hrun : runCommand d env s = (.done (d', .ok ()), s')) :
    ∃ g exit, Accepts line s.past g exit d'.command s'.past := by
  have haccepts : Run.Post.Holds _ (ReleaseCommand.run d.resolver d.command env s) :=
    run_accepts hline hruns hstarts _ s ⟨rfl, rfl⟩
  rw [run_of_runCommand hrun] at haccepts
  exact haccepts.2

/-- When a deployment gets past its release command, the machine of the command was fetched after
it had been updated and had started and stopped. The exit that passed is the latest of that
machine. If the machine is shown with the start of the run, the exit is none that was known when
the deployment was prepared. -/
theorem runCommand_fresh (o : Options) (app : App.Config) (strategy : Strategy)
    (roster : Machine.Roster) (volumes : Volume.Pool) (release : Release) (s : Session σ)
    {commandLine : String} (hcommand : app.deploy.bind (·.releaseCommand) = some commandLine)
    (hblank : Text.isBlankText commandLine = false) (hrestart : o.restartOnly = false)
    {d' : Deployment}
    (hrun : runCommand (assemble o app strategy roster volumes release) env s =
      (.done (d', .ok ()), s')) :
    ∃ g exit, Accepts (Text.trim commandLine) s.past g exit d'.command s'.past ∧
      Passed (roster.releaseCommand.elim [] (·.events)) g exit := by
  have hline := assemble_effective o app strategy roster volumes release hcommand hblank
  have hstarts := assemble_starts o app strategy roster volumes release
  obtain ⟨g, exit, haccepts⟩ := runCommand_accepts hline hrestart hstarts hrun
  have hlatest := Machine.Event.latestAfter_of_latestAfter? haccepts.found
  -- That the exit is not known rests on the start that is shown with it.
  refine ⟨g, exit, haccepts, hlatest, haccepts.code, fun start hstart hkind hknown => ?_⟩
  exact hlatest.notMem hstart hkind hknown

/-- The history of a machine whose command ran to its end before. -/
def ranBefore : List Machine.Event := [
  { kind := "start", timestamp := { millis := 10 } },
  { kind := "exit", timestamp := { millis := 20 }, detail := some { exit := some {} } }]

/-- An app without machines but the one of its release command. -/
def jobOnly : Machine.Roster := { releaseCommand := some { id := "job", events := ranBefore } }

/-- A deployment of the app. -/
def reusing : Deployment := assemble {} migrating .rolling jobOnly {} {}

/-- Where the machine is shown with a new start and a new exit, the new one passes. -/
theorem runCommand_fresh_obliging :
    ∃ d' s' g exit, runCommand reusing .obliging { remote := () } = (.done (d', .ok ()), s') ∧
      Accepts (Text.trim "migrate") [] g exit d'.command s'.past ∧ Passed ranBefore g exit := by
  have hpasses : Run.endsWith (fun result _ => result.2.isOk)
      (runCommand reusing .obliging { remote := () }) = true := by decide +kernel
  obtain ⟨⟨d', e | ⟨⟩⟩, s', hrun, hok⟩ := Run.exists_of_endsWith hpasses
  · cases hok
  obtain ⟨g, exit, haccepts, hfresh⟩ := runCommand_fresh {} migrating .rolling jobOnly {} {}
    { remote := () } rfl (by decide) rfl hrun
  exact ⟨d', s', g, exit, hrun, haccepts, hfresh⟩

/-! ## Control planes that lag -/

/-- Whether the outside has a history of a machine that only grows, and shows the machine with the
history as it is or as it was before. -/
structure Lags (env : Environment σ) (history : σ → List Machine.Event) : Prop where
  receives : ∀ c now st, history st <+: history (env.receive c now st).remote
  answers : ∀ c now st later, history later <+: history ((env.receive c now st).answer later).1
  shows : ∀ id now st later m, ((env.receive (.get id) now st).answer later).2 = .ok m →
    m.events <+: history later

/-- What a call adds to the history of a machine whose next run fails. -/
def failing : Call → List Machine.Event
  | .update .. => [{ kind := "start", timestamp := { millis := 30 } }]
  | .wait _ .started _ => [
    { kind := "exit", timestamp := { millis := 40 },
      detail := some { exit := some { code := 1 } } }]
  | _ => []

/-- What is answered when no more of a history is shown than its first two events. -/
def answerLate (history : List Machine.Event) : (c : Call) → c.Outcome
  | .get id => .ok { id := id, events := history.take 2 }
  | c => Environment.oblige c

/-- An outside that has a whole history and shows its first two events. -/
def lagging : Environment (List Machine.Event) where
  receive c _ history :=
    { remote := history ++ failing c, delay := some 0,
      answer := fun later => (later, answerLate later c) }
  clock _ _ := 0
  jitter _ := 0
  uptime := 0

/-- The outside that shows two events lags, but it makes nothing up. -/
theorem lagging_lags : Lags lagging id := by
  constructor
  · exact fun c now history => List.prefix_append _ _
  · exact fun c now history later => List.prefix_rfl
  · intro id now history later m hanswer
    obtain rfl := Except.ok.inj hanswer
    exact List.take_prefix 2 later

/-- The exit of an earlier run passes for a run that fails, where the machine is shown as it was
found. -/
theorem runCommand_stale : Lags lagging id ∧
    ∃ d' s' g exit, runCommand reusing lagging { remote := ranBefore } = (.done (d', .ok ()), s') ∧
      Accepts (Text.trim "migrate") [] g exit d'.command s'.past ∧ exit ∈ ranBefore ∧
      (Machine.Event.latestAfter? "exit" "start" s'.remote).bind (·.exitCode) = some 1 := by
  refine ⟨lagging_lags, ?_⟩
  have hpasses : Run.endsWith (fun result s => result.2.isOk &&
      (result.1.command.fleet.machines.all (·.events == ranBefore) &&
      (Machine.Event.latestAfter? "exit" "start" s.remote).bind (·.exitCode) == some 1))
      (runCommand reusing lagging { remote := ranBefore }) = true := by decide +kernel
  obtain ⟨⟨d', e | ⟨⟩⟩, s', hrun, hends⟩ := Run.exists_of_endsWith hpasses
  · cases hends
  rw [Bool.and_eq_true, Bool.and_eq_true, List.all_eq_true, beq_iff_eq] at hends
  obtain ⟨-, hshown, hfails⟩ := hends
  -- What passed was accepted as an exit of the machine that was fetched.
  have hline : reusing.command.effective? = some (Text.trim "migrate") :=
    assemble_effective {} migrating .rolling jobOnly {} {} rfl (by decide)
  obtain ⟨g, exit, haccepts⟩ := runCommand_accepts hline rfl
    (assemble_starts {} migrating .rolling jobOnly {} {}) hrun
  -- The machine was shown as it was found, so the exit is one of the history.
  have hmem : g ∈ d'.command.fleet.machines := by
    rw [haccepts.machines]
    exact List.mem_singleton_self g
  have hevents : g.events = ranBefore := beq_iff_eq.mp (hshown g hmem)
  have hlatest := Machine.Event.latestAfter_of_latestAfter? haccepts.found
  have hexit := (Machine.Event.mem_ofKind.mp hlatest.isLatest.mem).1
  rw [hevents] at hexit
  exact ⟨d', s', g, exit, hrun, haccepts, hexit, hfails⟩

end Deployment

end Rollout
