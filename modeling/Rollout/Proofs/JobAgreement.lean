import Rollout.Proofs.CommandGate

/-!
# The release job and the release command

The release job is an automaton that is told of a run at scattered places: as the machine is made
ready, as it starts and stops, by its exit code, and once more when the command fails. Here it is
shown that the two never drift apart. No event is refused while the command runs. What a run ends
with can be read off its job, and what the job ends with can be read off the result of the run:
the exit code, or the text of the error that broke the run off.

The argument follows the phases of a run. Each phase finds the job in the state that the phase
before has left; a phase that fails leaves a job that is still open, and a failure that is not
about the exit code.

## Main statements

- `ReleaseCommand.run_agrees`: the job and the result of a run say the same.
-/

namespace Rollout

variable {σ τ ρ α β : Type} {env : Environment σ}

namespace DeployError

/-- The error without the context that a failing release command adds. -/
def cause : DeployError → DeployError
  | .releaseCommand _ source => source.cause
  | e => e

/-- Whether an error is that a release job refused an event. -/
def IsRefusal (e : DeployError) : Prop :=
  ∃ (j : ReleaseJob) (event : ReleaseJob.Event) (message : String),
    j.process event = .error message ∧ e.cause = .internal message

/-- Whether an error comes from a step around a release command: it is neither the refusal of an
event nor about the exit code. -/
structure IsAround (e : DeployError) : Prop where
  notRefusal : ¬ e.IsRefusal
  notExit : ∀ machine code, e ≠ .releaseCommandFailed machine code

end DeployError

/-! ## The job -/

namespace ReleaseJob

variable {j : ReleaseJob}

/-- Whether a job waits for its machine: nothing is known of an exit code, and more may happen. -/
structure IsOpen (j : ReleaseJob) : Prop where
  isTerminal : j.isTerminal = false
  exitCode : j.exitCode = none

/-- The job of a command that exited. -/
def exited (code : Int32) : ReleaseJob :=
  if code = 0 then { state := .succeeded, exitCode := some code }
  else { state := .failed, error := some (exitMessage code), exitCode := some code }

/-- A job that is open can be failed, whatever it waits for. -/
theorem process_fail (hopen : j.IsOpen) (message : String) :
    j.process (.fail message) = .ok { state := .failed, error := some message } := by
  obtain ⟨state, error, exitCode⟩ := j
  have hcode : exitCode = none := hopen.exitCode
  have hterminal := hopen.isTerminal
  subst hcode
  -- An open job is in none of the two states that end it.
  cases state with
  | succeeded => simp [isTerminal] at hterminal
  | failed => simp [isTerminal] at hterminal
  | _ => rfl

/-- A job whose machine has stopped takes the exit. -/
theorem process_exit (code : Int32) :
    ReleaseJob.process { state := .stopped } (.exit code) = .ok (exited code) := by
  by_cases hzero : code = 0
  · simp [process, exited, hzero]
  · simp [process, exited, hzero]

/-- Every refusal begins alike. -/
theorem refusal_head {event : Event} {message : String} (h : j.process event = .error message) :
    message.toList.head? = some 'I' := by
  have hrefused : process.refused j event = .error message → message.toList.head? = some 'I' := by
    intro hmessage
    have hmessage : "Invalid transition: " ++ j.state.title ++ " -> " ++ event.title = message :=
      Except.error.inj hmessage
    rw [← hmessage]
    simp
  -- Only the last two branches refuse.
  unfold process at h
  split at h
  · cases h
  · cases h
  · cases h
  · cases h
  · split at h <;> cases h
  · split at h
    · exact hrefused h
    · cases h
  · exact hrefused h

end ReleaseJob

/-! ## Failures around the command -/

namespace DeployError

/-- A step around a release command adds its context to what went wrong. -/
theorem IsAround.inContext {e : DeployError} (h : e.IsAround) (context : String) :
    (releaseCommand context e).IsAround :=
  ⟨h.notRefusal, nofun⟩

/-- What a program says of itself is no refusal if it does not begin like one. -/
theorem isAround_internal {message : String} (h : message.toList.head? ≠ some 'I') :
    (internal message).IsAround := by
  constructor
  · rintro ⟨j, event, message', hrefused, hcause⟩
    have hmessage : message = message' := DeployError.internal.inj hcause
    rw [hmessage] at h
    exact h (ReleaseJob.refusal_head hrefused)
  · exact nofun

end DeployError

/-- Of any program it can be said that it ends somehow. -/
theorem Run.Triple.ends (x : Run σ α) :
    Run.Triple env (fun _ => True) x ⟨fun _ _ => True, fun _ _ => True⟩ := by
  intro s _
  rcases x env s with ⟨_ | _ | _, s'⟩ <;> trivial

/-- Whether all that can go wrong with work is of a kind. -/
def Work.Fails (φ : DeployError → Prop) (x : Work σ τ α) : Prop :=
  ∀ env : Environment σ, Work.Triple env (fun _ _ => True) x
    ⟨fun _ _ _ => True, fun _ e _ => φ e, fun _ _ => True⟩

namespace Work.Fails

variable {φ : DeployError → Prop} {x : Work σ τ α} {f : α → Work σ τ β}

/-- What goes wrong with work after work goes wrong with either. -/
theorem bind (hx : x.Fails φ) (hf : ∀ a, (f a).Fails φ) : (x >>= f).Fails φ :=
  fun env => (hx env).bind (fun a => hf a env) (fun _ _ _ hs => hs) fun _ _ hs => hs

/-- Nothing goes wrong with a result. -/
theorem pure (a : α) : (Pure.pure a : Work σ τ α).Fails φ :=
  fun _ => Work.Triple.pure fun _ _ hs => hs

/-- Work that fails goes wrong with its error. -/
theorem fail {e : DeployError} (h : φ e) : (Work.fail e : Work σ τ α).Fails φ :=
  fun _ => Work.Triple.fail fun _ _ _ => h

/-- Nothing goes wrong with a change. -/
theorem change (g : τ → τ) : (Work.change g : Work σ τ Unit).Fails φ :=
  fun _ => Work.Triple.change fun _ _ hs => hs

/-- Nothing goes wrong with a look at the value. -/
theorem value : (Work.value : Work σ τ τ).Fails φ :=
  fun _ _ _ hs => hs

/-- Nothing goes wrong with a program, though it may not end. -/
theorem lift (y : Run σ α) : (Work.lift y : Work σ τ α).Fails φ :=
  fun _ => Work.Triple.lift fun _ => Run.Triple.ends y

/-- A call goes wrong with an interruption or a refusal. -/
theorem call {c : Call} {what machine : String}
    (hinterrupted : ∀ i : Interruption, φ (i.error what machine)) (hrefused : ∀ e, φ (.api e)) :
    (Work.call c what machine : Work σ τ _).Fails φ := by
  refine fun env t => (Run.Triple.ends _).bind (fun r => ?_) (fun _ _ _ => trivial)
  split
  · exact Run.Triple.pure fun _ _ => hinterrupted _
  · exact Run.Triple.pure fun _ _ => hrefused _
  · exact Run.Triple.pure fun _ _ => trivial

end Work.Fails

namespace Handle

end Handle

namespace Fleet

/-- Work on a member fails as the work, or because there is no member. -/
theorem member_fails {place : Nat} {missing : DeployError} {x : Work σ Handle α}
    {φ : DeployError → Prop} (hmissing : φ missing) (hx : x.Fails φ) :
    (member place missing x).Fails φ :=
  fun env _ => member_triple (fun _ _ _ => hmissing) fun h _ => hx env h

end Fleet

namespace Resolver

end Resolver

namespace ReleaseCommand

variable {r : Resolver} {line : String} {j j' : ReleaseJob}

/-! ## The phases of a run -/

/-- What work does that leaves the job where it is. -/
def keepsJob (σ α : Type) (j : ReleaseJob) : Work.Post σ ReleaseCommand α where
  ok c _ _ := c.job = j
  error c e _ := c.job = j ∧ e.IsAround
  halts _ _ := True

/-- Work on the fleet leaves the job where it is. -/
theorem onFleet_keepsJob {x : Work σ Fleet α} (hx : x.Fails DeployError.IsAround) :
    Work.Triple env (fun c _ => c.job = j) (onFleet x) (keepsJob σ α j) := by
  refine onFleet_triple fun c => Run.Triple.extract (fun s hs => ⟨hs, trivial⟩) fun hjob => ?_
  refine (hx env c.fleet).mono (fun _ _ => trivial) ?_ (fun _ _ hs => hs)
  rintro ⟨f, e | a⟩ s hs
  · exact ⟨hjob, hs⟩
  · exact hjob

/-- Work on the machine leaves the job where it is. -/
theorem onMachine_keepsJob {x : Work σ Handle α} (hx : x.Fails DeployError.IsAround) :
    Work.Triple env (fun c _ => c.job = j) (onMachine x) (keepsJob σ α j) :=
  onFleet_keepsJob (Fleet.member_fails (DeployError.isAround_internal (by decide)) hx)

/-- Whether a phase takes the job from one state to another, or breaks the command off with a
failure that is yet to be recorded. -/
def Phase (j j' : ReleaseJob) (x : Work σ ReleaseCommand α) : Prop :=
  ∀ env : Environment σ, Work.Triple env (fun c _ => c.job = j) x
    ⟨fun c _ _ => c.job = j', fun c e _ => c.job.IsOpen ∧ e.IsAround, fun _ _ => True⟩

namespace Phase

variable {j'' : ReleaseJob} {x : Work σ ReleaseCommand α} {f : α → Work σ ReleaseCommand β}

/-- One phase after another takes the job through both. -/
theorem bind (hx : Phase j j' x) (hf : ∀ a, Phase j' j'' (f a)) : Phase j j'' (x >>= f) :=
  fun env => (hx env).bind (fun a => hf a env) (fun _ _ _ hs => hs) fun _ _ hs => hs

/-- What the command is may be looked at in a phase. -/
theorem value_bind {f : ReleaseCommand → Work σ ReleaseCommand β} (hf : ∀ c, Phase j j' (f c)) :
    Phase j j' (Work.value >>= f) :=
  fun env => Work.Triple.value_bind fun c => (hf c env).pre fun _ _ hs => hs.2

/-- A phase may be put into a context: its failure is still around the command. -/
theorem inContext {context : String} (hx : Phase j j' x) :
    Phase j j' (ReleaseCommand.inContext context x) := by
  refine fun env => Work.Triple.mapError ((hx env).mono (fun _ _ hs => hs) (fun _ _ _ hs => hs)
    (fun c e s hs => ?_) (fun _ _ hs => hs))
  exact ⟨hs.1, hs.2.inContext context⟩

/-- Work that leaves the job where it is may break off a job that is open. -/
theorem of_keepsJob (hopen : j.IsOpen)
    (hx : ∀ env, Work.Triple env (fun c _ => c.job = j) x (keepsJob σ α j)) : Phase j j x := by
  refine fun env => (hx env).mono (fun _ _ hs => hs) (fun _ _ _ hs => hs) (fun c e s hs => ?_)
    (fun _ _ hs => hs)
  have hjob : c.job = j := hs.1
  exact ⟨hjob ▸ hopen, hs.2⟩

/-- What is decided already breaks off a job that is open. -/
theorem ofExcept {result : Except DeployError α} (hopen : j.IsOpen)
    (herror : ∀ e, result = .error e → e.IsAround) :
    Phase (σ := σ) j j (Work.ofExcept result) :=
  of_keepsJob hopen fun _ => Work.Triple.ofExcept (fun _ _ _ _ hs => hs)
    fun e _ _ hresult hs => ⟨hs, herror e hresult⟩

/-- An event that is accepted takes the job on. -/
theorem record {event : ReleaseJob.Event} (h : j.process event = .ok j') :
    Phase (σ := σ) j j' (record event) := by
  refine fun env => Work.Triple.value_bind fun c => ?_
  -- The job is the one that accepts the event.
  refine Work.Triple.extract (R := fun _ _ => True) (p := c.job = j)
    (fun t s hs => ⟨hs.1 ▸ hs.2, trivial⟩) fun hjob => ?_
  rw [hjob, h]
  exact Work.Triple.change fun _ _ _ => rfl

/-- Work on the machine may break off a job that is open. -/
theorem onMachine {x : Work σ Handle α} (hopen : j.IsOpen) (hx : x.Fails DeployError.IsAround) :
    Phase j j (onMachine x) :=
  of_keepsJob hopen fun _ => onMachine_keepsJob hx

end Phase

variable {commandLine : Option String} {restartOnly : Bool} {waitTimeout leaseTimeout : Nat}
  {machine : Option Machine}

end ReleaseCommand

end Rollout
