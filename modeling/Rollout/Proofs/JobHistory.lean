import Rollout.Proofs.JobAgreement

/-!
# The histories of release jobs

A release job may be told of events in any order. It accepts the course of one run, of which the
machine is made ready, starts, stops and exits, and at any time before the exit a failure that
breaks the run off. Everything else is refused and leaves no mark, so where a job stands can be
read off the events that it has accepted.

The histories are described twice. `IsHistory` says which sequences of events they are, without any
job. `Stage` says which job each of them leaves, and a job is at a stage exactly if it comes out of
a new one that accepts the events one and all.

## Main statements

- `ReleaseJob.tell_eq`: a job that is written field by field is never left half changed.
- `ReleaseJob.stage_iff`: the stages are what a new job goes through.
- `ReleaseJob.chronicled`: what is certain of a job after any sequence of events.
-/

namespace Rollout.ReleaseJob

variable {existing : Bool} {history before : List Event} {j j' : ReleaseJob} {e : Event}

/-! ## Events one after the other -/

/-- The job after an event, which it may refuse. -/
def next (j : ReleaseJob) (e : Event) : ReleaseJob :=
  match j.process e with
  | .ok j' => j'
  | .error _ => j

/-- The events of a sequence that a job accepts, in order. -/
def accepted (j : ReleaseJob) : List Event → List Event
  | [] => []
  | e :: rest =>
    match j.process e with
    | .ok j' => e :: accepted j' rest
    | .error _ => accepted j rest

/-- A job that is told of events becomes what it becomes by those that it accepts. -/
theorem foldlM_accepted (j : ReleaseJob) (events : List Event) :
    (j.accepted events).foldlM process j = .ok (events.foldl next j) := by
  -- By induction on the events: an accepted one changes the job, a refused one is passed over.
  induction events generalizing j with
  | nil => rfl
  | cons e rest ih =>
    cases hprocess : j.process e with
    | ok j' =>
      have haccepted : j.accepted (e :: rest) = e :: j'.accepted rest := by
        simp [accepted, hprocess]
      have hnext : j.next e = j' := by simp [next, hprocess]
      rw [haccepted, List.foldlM_cons, hprocess, List.foldl_cons, hnext]
      exact ih j'
    | error message =>
      have haccepted : j.accepted (e :: rest) = j.accepted rest := by simp [accepted, hprocess]
      have hnext : j.next e = j := by simp [next, hprocess]
      rw [haccepted, List.foldl_cons, hnext]
      exact ih j

/-- The last event is told to what the others have left. -/
theorem foldlM_concat (j : ReleaseJob) (events : List Event) (e : Event) :
    (events ++ [e]).foldlM process j = events.foldlM process j >>= (·.process e) := by
  simp

/-! ### Changes in place -/

/-- Writes the exit code and, of a command that failed, the error. Tells the state that follows. -/
def writeExit (code : Int32) : ExceptT String (StateM ReleaseJob) State := do
  modify ({ · with exitCode := some code })
  if code = 0 then return .succeeded
  modify ({ · with error := some (exitMessage code) })
  return .failed

/-- Writes the error of a failure. Tells the state that follows. -/
def writeFailure (message : String) : ExceptT String (StateM ReleaseJob) State := do
  modify ({ · with error := some message })
  return .failed

/-- Writes what an event brings with it. Tells the state that follows. -/
def write (j : ReleaseJob) (e : Event) : ExceptT String (StateM ReleaseJob) State :=
  match j.state, e with
  | .absent, .launch => pure .launched
  | .existing, .update => pure .launched
  | .launched, .start => pure .started
  | .started, .stop => pure .stopped
  | .stopped, .exit code => writeExit code
  | _, .fail message =>
    if j.isTerminal then liftExcept ((process.refused j e).map (·.state)) else writeFailure message
  | _, _ => liftExcept ((process.refused j e).map (·.state))

/-- Puts a job into a state. -/
def enter (state : State) : ExceptT String (StateM ReleaseJob) Unit :=
  modify ({ · with state := state })

/-- Tells a job of an event: its fields are written one by one, the state last. What was written
before a refusal would stay. -/
def tell (e : Event) : ExceptT String (StateM ReleaseJob) Unit := do
  (← get).write e >>= enter

/-- An exit writes its code and the error of a command that failed. -/
theorem writeExit_run (code : Int32) (j : ReleaseJob) :
    (writeExit code).run j = (.ok (exited code).state, { j with
      exitCode := some code, error := if code = 0 then j.error else some (exitMessage code) }) := by
  by_cases hzero : code = 0
  · subst hzero
    rfl
  · simp [writeExit, exited, hzero]
    rfl

/-- Once the fields are written, the state is. -/
theorem bind_enter_run {x : ExceptT String (StateM ReleaseJob) State} {state : State}
    (hx : x.run j = (.ok state, j')) :
    (x >>= enter).run j = (.ok (), { j' with state := state }) := by
  have hbind : (x >>= enter).run j = (x.run >>= ExceptT.bindCont enter) j := rfl
  rw [hbind]
  simp [bind, StateT.bind, hx]
  rfl

/-- Field by field a job becomes what it becomes at once: nothing is written before a refusal. -/
theorem tell_eq (j : ReleaseJob) (e : Event) :
    (tell e).run j = ((j.process e).map fun _ => (), j.next e) := by
  obtain ⟨state, error, exitCode⟩ := j
  cases e with
  | exit code =>
    cases state with
    | stopped =>
      -- The only event that writes two fields before the state.
      have htell : (tell (.exit code)).run ⟨.stopped, error, exitCode⟩ =
          (writeExit code >>= enter).run ⟨.stopped, error, exitCode⟩ := rfl
      rw [htell, bind_enter_run (writeExit_run code _)]
      by_cases hzero : code = 0
      · simp [next, process, exited, hzero, Except.map]
      · simp [next, process, exited, hzero, Except.map]
    | _ => rfl
  | _ => cases state <;> rfl

/-! ## Histories -/

/-- The event that makes the machine of a job ready. -/
def ready (existing : Bool) : Event := if existing then .update else .launch

/-- The events of a run that nothing breaks off. -/
def course (existing : Bool) (code : Int32) : List Event :=
  [ready existing, .start, .stop, .exit code]

/-- Whether events are what can be accepted of a job: the beginning of a course, or one that a
failure breaks off before the exit. -/
inductive IsHistory (existing : Bool) : List Event → Prop where
  | ran {history : List Event} {code : Int32} (hcourse : history <+: course existing code) :
      IsHistory existing history
  | brokenOff {before : List Event} {code : Int32} (message : String)
      (hcourse : before <+: course existing code) (hrunning : ∀ c, .exit c ∉ before) :
      IsHistory existing (before ++ [.fail message])

/-- The jobs that histories leave. -/
inductive Stage (existing : Bool) : List Event → ReleaseJob → Prop where
  | new : Stage existing [] (.new existing)
  | launched : Stage existing [ready existing] { state := .launched }
  | started : Stage existing [ready existing, .start] { state := .started }
  | stopped : Stage existing [ready existing, .start, .stop] { state := .stopped }
  | exited (code : Int32) : Stage existing (course existing code) (exited code)
  | failed {before : List Event} {j : ReleaseJob} (message : String)
      (hstage : Stage existing before j) (hopen : j.IsOpen) :
      Stage existing (before ++ [.fail message]) { state := .failed, error := some message }

/-! ### What a job accepts -/

/-- A command that exited has ended. -/
theorem isTerminal_exited (code : Int32) : (exited code).isTerminal = true := by
  unfold exited
  split <;> rfl

/-- Nothing happens any more to a job that has ended. -/
theorem process_of_isTerminal (hterminal : j.isTerminal = true) (e : Event) :
    j.process e = process.refused j e := by
  obtain ⟨state, error, exitCode⟩ := j
  cases state with
  | succeeded => cases e <;> rfl
  | failed => cases e <;> rfl
  | _ => cases hterminal

/-- An accepted event leads from stage to stage. -/
theorem Stage.step (hstage : Stage existing history j) (hprocess : j.process e = .ok j') :
    Stage existing (history ++ [e]) j' := by
  -- A job that has ended accepts nothing.
  have hterminal : j.isTerminal = false := by
    by_contra hterminal
    rw [process_of_isTerminal (by simpa using hterminal)] at hprocess
    cases hprocess
  -- At every stage one event leads on, and a failure breaks off.
  cases hstage with
  | new =>
    cases existing with
    | false =>
      cases e with
      | launch => cases hprocess; exact .launched
      | fail message => cases hprocess; exact .failed message .new ⟨rfl, rfl⟩
      | _ => cases hprocess
    | true =>
      cases e with
      | update => cases hprocess; exact .launched
      | fail message => cases hprocess; exact .failed message .new ⟨rfl, rfl⟩
      | _ => cases hprocess
  | launched =>
    cases e with
    | start => cases hprocess; exact .started
    | fail message => cases hprocess; exact .failed message .launched ⟨rfl, rfl⟩
    | _ => cases hprocess
  | started =>
    cases e with
    | stop => cases hprocess; exact .stopped
    | fail message => cases hprocess; exact .failed message .started ⟨rfl, rfl⟩
    | _ => cases hprocess
  | stopped =>
    cases e with
    | exit code =>
      rw [process_exit] at hprocess
      cases hprocess
      exact .exited code
    | fail message => cases hprocess; exact .failed message .stopped ⟨rfl, rfl⟩
    | _ => cases hprocess
  | exited code =>
    rw [isTerminal_exited] at hterminal
    cases hterminal
  | failed message hstage hopen => cases hterminal

/-- A job is at the stage that the events it was told have led it to, if it accepts them all. -/
theorem stage_iff : Stage existing history j ↔ history.foldlM process (new existing) = .ok j := by
  constructor
  · intro hstage
    induction hstage with
    | new => rfl
    | launched => cases existing <;> rfl
    | started => cases existing <;> rfl
    | stopped => cases existing <;> rfl
    | exited code =>
      have hcourse : course existing code = [ready existing, .start, .stop] ++ [.exit code] := rfl
      have hstopped : [ready existing, .start, .stop].foldlM process (new existing) =
          .ok { state := .stopped } := by cases existing <;> rfl
      rw [hcourse, foldlM_concat, hstopped]
      exact process_exit code
    | failed message hstage hopen ih =>
      rw [foldlM_concat, ih]
      exact process_fail hopen message
  · -- By induction from the end: the last event leads from the stage of those before it.
    intro hfold
    induction history using List.reverseRecOn generalizing j with
    | nil =>
      cases hfold
      exact .new
    | append_singleton before e ih =>
      rw [foldlM_concat] at hfold
      cases hbefore : before.foldlM process (new existing) with
      | error message =>
        rw [hbefore] at hfold
        cases hfold
      | ok j₀ =>
        rw [hbefore] at hfold
        exact (ih hbefore).step hfold

/-- What leads to a stage at which a job is open is the beginning of a course, without an exit. -/
theorem Stage.isPrefix (hstage : Stage existing before j) (hopen : j.IsOpen) :
    before <+: course existing 0 ∧ ∀ c, .exit c ∉ before := by
  -- The first event is no exit.
  have hready : ∀ c, Event.exit c ≠ ready existing := by
    intro c
    cases existing <;> simp [ready]
  cases hstage with
  | new => exact ⟨List.nil_prefix, by simp⟩
  | launched => exact ⟨⟨_, rfl⟩, by simpa using hready⟩
  | started => exact ⟨⟨_, rfl⟩, by simpa using hready⟩
  | stopped => exact ⟨⟨_, rfl⟩, by simpa using hready⟩
  | exited code => exact absurd hopen.isTerminal (by simp [isTerminal_exited])
  | failed message hstage hopen' => exact absurd hopen.isTerminal (by simp [isTerminal])

/-- The beginnings of a course lead to a stage, at which the job is open until the exit. -/
theorem exists_stage_of_prefix {code : Int32} (hcourse : before <+: course existing code) :
    ∃ j, Stage existing before j ∧ ((∀ c, .exit c ∉ before) → j.IsOpen) := by
  -- A course has four events, so its beginnings are told apart one event at a time.
  rcases List.prefix_cons_iff.mp hcourse with rfl | ⟨_, rfl, hlaunched⟩
  · exact ⟨_, .new, fun _ => ⟨by cases existing <;> rfl, rfl⟩⟩
  rcases List.prefix_cons_iff.mp hlaunched with rfl | ⟨_, rfl, hstarted⟩
  · exact ⟨_, .launched, fun _ => ⟨rfl, rfl⟩⟩
  rcases List.prefix_cons_iff.mp hstarted with rfl | ⟨_, rfl, hstopped⟩
  · exact ⟨_, .started, fun _ => ⟨rfl, rfl⟩⟩
  rcases List.prefix_cons_iff.mp hstopped with rfl | ⟨_, rfl, hexited⟩
  · exact ⟨_, .stopped, fun _ => ⟨rfl, rfl⟩⟩
  obtain rfl := List.prefix_nil.mp hexited
  exact ⟨_, .exited code, fun hrunning => absurd (by simp) (hrunning code)⟩

/-- The histories are what a new job accepts. -/
theorem isHistory_iff : IsHistory existing history ↔
    ∃ j, history.foldlM process (new existing) = .ok j := by
  simp only [← stage_iff]
  constructor
  · intro hhistory
    cases hhistory with
    | ran hcourse =>
      obtain ⟨j, hstage, -⟩ := exists_stage_of_prefix hcourse
      exact ⟨j, hstage⟩
    | brokenOff message hcourse hrunning =>
      obtain ⟨j, hstage, hopen⟩ := exists_stage_of_prefix hcourse
      exact ⟨_, hstage.failed message (hopen hrunning)⟩
  · rintro ⟨j, hstage⟩
    cases hstage with
    | new => exact .ran (Stage.new.isPrefix ⟨by cases existing <;> rfl, rfl⟩).1
    | launched => exact .ran (Stage.launched.isPrefix ⟨rfl, rfl⟩).1
    | started => exact .ran (Stage.started.isPrefix ⟨rfl, rfl⟩).1
    | stopped => exact .ran (Stage.stopped.isPrefix ⟨rfl, rfl⟩).1
    | exited code => exact .ran List.prefix_rfl
    | failed message hstage hopen =>
      obtain ⟨hcourse, hrunning⟩ := hstage.isPrefix hopen
      exact .brokenOff message hcourse hrunning

/-- An event is accepted exactly if the history may go on with it. -/
theorem Stage.accepts_iff (hstage : Stage existing history j) (e : Event) :
    (∃ j', j.process e = .ok j') ↔ IsHistory existing (history ++ [e]) := by
  rw [isHistory_iff, foldlM_concat, stage_iff.mp hstage]
  rfl

/-! ### What a job shows -/

namespace Stage

/-- An exit code is known just if there was an exit with it. -/
theorem exitCode_iff (hstage : Stage existing history j) (code : Int32) :
    j.exitCode = some code ↔ .exit code ∈ history := by
  -- The event that makes the machine ready is no exit.
  have hready : Event.exit code ≠ ready existing := by cases existing <;> simp [ready]
  cases hstage with
  | new => simp [ReleaseJob.new]
  | launched => simpa using hready
  | started => simpa using hready
  | stopped => simpa using hready
  | exited code' =>
    have hcode : (ReleaseJob.exited code').exitCode = some code' := by
      unfold ReleaseJob.exited
      split <;> rfl
    simp [hcode, course, hready, eq_comm]
  | failed message hstage hopen => simpa using (hstage.isPrefix hopen).2 code

/-- A job has succeeded just if the exit code is 0. -/
theorem succeeded_iff (hstage : Stage existing history j) :
    j.state = .succeeded ↔ j.exitCode = some 0 := by
  cases hstage with
  | new => cases existing <;> simp [ReleaseJob.new]
  | exited code => by_cases hzero : code = 0 <;> simp [ReleaseJob.exited, hzero]
  | _ => simp

/-- A job has failed just if it has an error. -/
theorem failed_iff (hstage : Stage existing history j) :
    j.state = .failed ↔ j.error.isSome = true := by
  cases hstage with
  | new => cases existing <;> simp [ReleaseJob.new]
  | exited code => by_cases hzero : code = 0 <;> simp [ReleaseJob.exited, hzero]
  | _ => simp

end Stage

/-- What is certain of a job, given the events that it has accepted. -/
structure Chronicled (existing : Bool) (history : List Event) (j : ReleaseJob) : Prop where
  /-- The events are a history, and the next one is accepted exactly if they are one with it. -/
  isHistory : IsHistory existing history
  accepts_iff : ∀ e, (∃ j', j.process e = .ok j') ↔ IsHistory existing (history ++ [e])
  /-- An event that is refused changes no field. -/
  refused : ∀ e message, j.process e = .error message → (tell e).run j = (.error message, j)
  /-- The exit code is that of the exit, if there was one. -/
  exitCode_iff : ∀ code, j.exitCode = some code ↔ .exit code ∈ history
  succeeded_iff : j.state = .succeeded ↔ j.exitCode = some 0
  failed_iff : j.state = .failed ↔ j.error.isSome = true
  /-- Nothing follows an end. -/
  ended : j.state = .succeeded ∨ j.state = .failed → ∀ e, ∃ message, j.process e = .error message

/-- Whatever events a job is told of, from the first one on: those that it accepts are a history,
any other leaves it as it was, and the job shows how far the history has come. -/
theorem chronicled (existing : Bool) (events : List Event) :
    Chronicled existing ((new existing).accepted events) (events.foldl next (new existing)) := by
  have hstage := stage_iff.mpr (foldlM_accepted (new existing) events)
  exact {
    isHistory := isHistory_iff.mpr ⟨_, foldlM_accepted (new existing) events⟩
    accepts_iff := hstage.accepts_iff
    refused := by
      intro e message hrefused
      rw [tell_eq, next, hrefused]
      rfl
    exitCode_iff := hstage.exitCode_iff
    succeeded_iff := hstage.succeeded_iff
    failed_iff := hstage.failed_iff
    ended := by
      intro hended e
      rw [process_of_isTerminal (by simpa [isTerminal] using hended)]
      exact ⟨_, rfl⟩ }

/-- What comes too early or after the end is passed over. -/
example : (new true).accepted [.start, .update, .start, .fail "gone", .stop] =
    [.update, .start, .fail "gone"] := by rfl

end Rollout.ReleaseJob
