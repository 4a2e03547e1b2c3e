import Rollout.Cli.Program
import Rollout.Proofs.Deciding
import Rollout.Proofs.Durations
import Rollout.Proofs.Preparation

/-!
# Timeouts

How long is waited for a machine, and for how long leases are taken, is told by arguments, or else
by the settings. An argument that is no duration is refused with a message. But the program breaks
off on a number of minutes that has no number of seconds in 64 bits, and a deployment breaks off
when it comes to wait for a machine and the clock can't hold the end of the wait. No other timeout
breaks anything: leases may be taken for as long as one likes.

## Main statements

- `Deployment.run_returns`: a deployment breaks off only where a wait for a machine ends beyond the
  range of the clock.
- `Handle.waitForState_panics_iff`: such a wait breaks off.
- `Cli.Invocation.timeouts_taken`: which timeouts are taken, which are refused, and what comes of
  those that are taken.
-/

namespace Rollout

variable {σ α β : Type} {env : Environment σ} {timeout : Nat}

/-! ## Deployments -/

namespace Deployment

/-- A step of a preparation returns, and what it gives meets a condition. -/
def Readies (env : Environment σ) (timeout : Nat) (Q : α → Prop)
    (x : Run σ (Except DeployError α)) : Prop :=
  Run.Triple env (fun _ => True) x ⟨fun r _ => ∀ a, r = .ok a → Q a, Ended env timeout⟩

namespace Readies

variable {Q : α → Prop} {R : β → Prop} {b : Bounds}

/-- A step that returns is ready, whatever it gives. -/
theorem of_returns {x : Run σ (Except DeployError α)} (h : x.Returns env timeout) :
    Readies env timeout (fun _ => True) x :=
  h.mono (fun _ hs => hs) (fun _ _ _ _ _ => trivial) (fun _ _ hs => hs)

/-- Steps may follow each other, each with what the one before it gives. -/
theorem bind {x : ExceptT DeployError (Run σ) α} {f : α → ExceptT DeployError (Run σ) β}
    (hx : Readies env timeout Q x.run) (hf : ∀ a, Q a → Readies env timeout R (f a).run) :
    Readies env timeout R (x >>= f).run :=
  bind_except hx (fun a => Run.Triple.extract (fun _ hs => ⟨hs a rfl, trivial⟩) (hf a))
    (fun _ _ _ _ h => by cases h) (fun _ _ hs => hs)

/-- A check is over at once. -/
theorem check (r : Except DeployError α) :
    Readies (σ := σ) env timeout (fun _ => True) (prepare.liftExcept r).run :=
  Run.Triple.pure fun _ _ _ _ => trivial

/-- A call of a preparation returns. -/
theorem setUp (c : Call) : Readies (σ := σ) env timeout (fun _ => True) (setUp {} c) := by
  refine of_returns (Run.Returns.bind (Run.Returns.request (.inl rfl) rfl) fun r => ?_)
  rcases r with _ | _ | _ <;> exact Run.Returns.pure _

/-- So does the search for volumes. -/
theorem findVolumes (app : App.Config) :
    Readies (σ := σ) env timeout (fun _ => True) (findVolumes {} app) := by
  unfold Deployment.findVolumes
  split
  · exact of_returns (Run.Returns.pure _)
  · exact Run.Triple.bind (setUp .volumes) (fun _ => Run.Triple.pure fun _ _ _ _ => trivial)
      (fun _ _ hs => hs)

end Readies

/-- A preparation returns, and what it prepares waits as long as the options say. -/
theorem prepare_readies (o : Options) (app : App.Config) :
    Readies (σ := σ) env timeout (·.Waits o.effectiveWaitTimeout) (prepare {} o app) := by
  -- None of the steps has a timeout of its own.
  refine (Readies.check _).bind fun _ _ => ?_
  refine (Readies.check _).bind fun app _ => ?_
  refine (Readies.check _).bind fun strategy _ => ?_
  refine (Readies.setUp .list).bind fun roster _ => ?_
  refine (Readies.check _).bind fun _ _ => ?_
  refine (Readies.findVolumes app).bind fun volumes _ => ?_
  refine (Readies.setUp (.record _)).bind fun release _ => ?_
  refine Run.Triple.pure fun _ _ d hd => ?_
  obtain rfl := Except.ok.inj hd
  -- The deployment waits as long as it was assembled to.
  exact ⟨rfl, rfl⟩

/-- A deployment returns, unless it waits for what has no end, or a wait for a machine ends beyond
the range of the clock. How long leases are taken for does not matter. -/
theorem run_returns (o : Options) (app : App.Config) :
    (run (σ := σ) o app).Returns env o.effectiveWaitTimeout := by
  refine Run.Triple.bind (prepare_readies o app) (fun result => ?_) (fun _ _ hs => hs)
  cases result with
  | error e => exact Run.Triple.pure fun _ _ => trivial
  | ok d =>
    -- What was prepared waits as long as the options say, and so does all of the deployment.
    refine Run.Triple.extract (fun _ hs => ⟨hs d rfl, trivial⟩) fun hd => ?_
    refine Run.Triple.bind (R := ⟨fun _ _ => True, Ended env o.effectiveWaitTimeout⟩) ?_
      (fun _ => Run.Triple.pure fun _ _ => trivial) (fun _ _ hs => hs)
    exact (deploy_returns d hd).mono (fun _ hs => hs) (fun _ _ _ => trivial) (fun _ _ hs => hs)

end Deployment

/-! ## Waits -/

/-- A wait for a machine breaks off exactly where its end is beyond the range of the clock. -/
theorem Handle.waitForState_panics_iff (state : Machine.State) (h : Handle) (s : Session σ) :
    (waitForState state timeout h env s).1 = .panicked ↔
      Run.clockRange ≤ env.uptime + s.now + timeout := by
  -- Within the range of the clock the wait comes to a result, beyond it there is not even a
  -- deadline.
  rcases Nat.lt_or_ge (env.uptime + s.now + timeout) Run.clockRange with hrange | hrange
  · obtain ⟨result, s', rounds, pending, hrun, -⟩ :=
      waitForState_decided (h := h) state s hrange
    rw [hrun]
    exact iff_of_false nofun (Nat.not_le_of_lt hrange)
  · have hpanics : Run.deadlineAfter timeout env s = (.panicked, s) :=
      if_neg (Nat.not_lt_of_le hrange)
    refine iff_of_true ?_ hrange
    simp only [waitForState, Run.poll, Run.bind_run, hpanics]

/-! ## Arguments -/

namespace Cli.Invocation

variable {i : Invocation} {key message : String} {fallback n : Nat}

/-- Whether an argument tells a timeout of so many seconds, or is not given and the fallback is
taken. -/
def Takes (i : Invocation) (key : String) (fallback n : Nat) : Prop :=
  match i.arguments.values.get? key with
  | none => n = fallback
  | some text => ∃ count unit, Says text count unit ∧ n = count * unit.inSeconds ∧ n < 2 ^ 64

/-- Whether an argument is refused with a message, since it says no duration, or one whose count
does not fit in 64 bits. -/
def Refuses (i : Invocation) (key message : String) : Prop :=
  ∃ text, i.arguments.values.get? key = some text ∧
    (∀ count unit, Says text count unit → 2 ^ 64 ≤ count) ∧
    message = "invalid --" ++ key ++ ": " ++ text

/-- Whether the count of an argument fits in 64 bits, but not its seconds. -/
def Overflows (i : Invocation) (key : String) : Prop :=
  ∃ text, i.arguments.values.get? key = some text ∧
    ∃ count unit, Says text count unit ∧ count < 2 ^ 64 ∧ 2 ^ 64 ≤ count * unit.inSeconds

/-- A timeout is read as so many seconds just if an argument tells them, or there is none. -/
theorem timeout_eq_seconds_iff :
    i.arguments.timeout key fallback = .seconds n ↔ i.Takes key fallback n := by
  unfold Args.timeout Takes
  cases i.arguments.values.get? key with
  | none => exact ⟨fun h => (Args.Timeout.seconds.inj h).symm, fun h => congrArg _ h.symm⟩
  | some text =>
    dsimp only
    rw [← readDuration_eq_seconds_iff]
    cases readDuration text <;> simp

/-- It is refused just if the argument says no duration that can be held. -/
theorem timeout_eq_invalid_iff :
    i.arguments.timeout key fallback = .invalid message ↔ i.Refuses key message := by
  unfold Args.timeout Refuses
  cases i.arguments.values.get? key with
  | none => simp
  | some text =>
    simp only [Option.some.injEq, exists_eq_left', ← readDuration_eq_refused_iff]
    -- The three readings exclude each other.
    cases readDuration text <;> simp [eq_comm]

/-- It overflows just if its count can be held and its seconds can't. -/
theorem timeout_eq_overflows_iff :
    i.arguments.timeout key fallback = .overflows ↔ i.Overflows key := by
  unfold Args.timeout Overflows
  cases i.arguments.values.get? key with
  | none => simp
  | some text =>
    simp only [Option.some.injEq, exists_eq_left', ← readDuration_eq_overflows_iff]
    cases readDuration text <;> simp

/-- What a timeout that is taken is like: it is a number of 64 bits. -/
theorem Takes.lt {settings : UInt64} (h : i.Takes key settings.toNat n) : n < 2 ^ 64 := by
  unfold Takes at h
  split at h
  · exact h ▸ settings.toNat_lt
  · obtain ⟨-, -, -, -, hfits⟩ := h
    exact hfits

/-- The milliseconds that a timeout of so many seconds stands for: none stand for the default. -/
def waitMillis (wait : Nat) : Nat := (if wait = 0 then 120 else wait) * 1000

/-- The options wait as long as the argument says, or the default. -/
theorem effectiveWaitTimeout_options (i : Invocation) (wait lease : Nat) :
    (i.options wait lease).effectiveWaitTimeout = waitMillis wait := by
  unfold Options.effectiveWaitTimeout waitMillis
  show (if wait * 1000 = 0 then 120000 else wait * 1000) = _
  split <;> rename_i h
  · -- No seconds are no milliseconds.
    rw [if_pos (by omega)]
  · rw [if_neg (by omega)]

/-- What two readings of timeouts come to: the first one that is no timeout decides. -/
def startWith (i : Invocation) (app : App.Config) : Args.Timeout → Args.Timeout → Start
  | .invalid message, _ => .refused message
  | .overflows, _ => .broken
  | .seconds _, .invalid message => .refused message
  | .seconds _, .overflows => .broken
  | .seconds wait, .seconds lease => .ready (i.options wait lease) app

/-- The program starts with what the two arguments come to. -/
theorem start_eq (settings : Settings) {app : App.Config}
    (happ : i.appFile.read App.Config.record.codec = .ok app) :
    i.start settings = i.startWith app
      (i.arguments.timeout "wait-timeout" settings.waitTimeoutSecs.toNat)
      (i.arguments.timeout "lease-timeout" settings.leaseTimeoutSecs.toNat) := by
  simp only [start]
  -- The file is read already; what is left is how the two arguments are read.
  generalize i.appFile.read App.Config.record.codec = read at happ
  generalize i.arguments.timeout "wait-timeout" _ = wait
  generalize i.arguments.timeout "lease-timeout" _ = lease
  subst happ
  cases wait <;> cases lease <;> rfl

section

variable {app app' : App.Config} {wait lease : Args.Timeout} {o : Options}

/-- The first argument that is refused says why, if none before it overflows. -/
theorem startWith_eq_refused_iff : i.startWith app wait lease = .refused message ↔
    wait = .invalid message ∨ (∃ n, wait = .seconds n) ∧ lease = .invalid message := by
  cases wait <;> cases lease <;> simp [startWith]

/-- The first argument that overflows breaks the program off, if none before it is refused. -/
theorem startWith_eq_broken_iff : i.startWith app wait lease = .broken ↔
    wait = .overflows ∨ (∃ n, wait = .seconds n) ∧ lease = .overflows := by
  cases wait <;> cases lease <;> simp [startWith]

/-- The program is ready if both arguments are taken. -/
theorem startWith_eq_ready_iff : i.startWith app wait lease = .ready o app' ↔
    ∃ n m, wait = .seconds n ∧ lease = .seconds m ∧ o = i.options n m ∧ app' = app := by
  cases wait <;> cases lease <;> simp [startWith, eq_comm]

end

/-- Which timeouts are taken, which are refused, and what comes of those that are taken. The first
argument that is not taken decides. Where a number of minutes has no number of seconds in 64 bits
the program breaks off, and so does a deployment where a wait for a machine ends beyond the range of
the clock. -/
theorem timeouts_taken (i : Invocation) (settings : Settings) {app : App.Config}
    (happ : i.appFile.read App.Config.record.codec = .ok app) (env : Environment σ)
    (s : Session σ) :
    (∀ message, i.start settings = .refused message ↔ i.Refuses "wait-timeout" message ∨
      (∃ wait, i.Takes "wait-timeout" settings.waitTimeoutSecs.toNat wait) ∧
        i.Refuses "lease-timeout" message) ∧
    (i.start settings = .broken ↔ i.Overflows "wait-timeout" ∨
      (∃ wait, i.Takes "wait-timeout" settings.waitTimeoutSecs.toNat wait) ∧
        i.Overflows "lease-timeout") ∧
    (∀ o app', i.start settings = .ready o app' ↔ ∃ wait lease,
      i.Takes "wait-timeout" settings.waitTimeoutSecs.toNat wait ∧
      i.Takes "lease-timeout" settings.leaseTimeoutSecs.toNat lease ∧
      o = i.options wait lease ∧ app' = app) ∧
    ∀ wait lease, i.Takes "wait-timeout" settings.waitTimeoutSecs.toNat wait →
      i.Takes "lease-timeout" settings.leaseTimeoutSecs.toNat lease →
      wait < 2 ^ 64 ∧ lease < 2 ^ 64 ∧
      (∀ s', Deployment.run (i.options wait lease) app env s = (.panicked, s') →
        Run.clockRange ≤ env.uptime + s'.now + waitMillis wait) ∧
      ∀ state h, (Handle.waitForState state (i.options wait lease).effectiveWaitTimeout h env s).1 =
        .panicked ↔ Run.clockRange ≤ env.uptime + s.now + waitMillis wait := by
  refine ⟨fun message => ?_, ?_, fun o app' => ?_, fun wait lease hwait hlease => ?_⟩
  · rw [start_eq settings happ, startWith_eq_refused_iff, timeout_eq_invalid_iff,
      timeout_eq_invalid_iff]
    simp only [timeout_eq_seconds_iff]
  · rw [start_eq settings happ, startWith_eq_broken_iff, timeout_eq_overflows_iff,
      timeout_eq_overflows_iff]
    simp only [timeout_eq_seconds_iff]
  · rw [start_eq settings happ, startWith_eq_ready_iff]
    simp only [timeout_eq_seconds_iff]
  · -- Only the first of the two timeouts is ever waited for.
    rw [← effectiveWaitTimeout_options i wait lease]
    refine ⟨hwait.lt, hlease.lt, fun s' hrun => ?_, fun state h =>
      Handle.waitForState_panics_iff state h s⟩
    -- A deployment returns unless a wait for a machine ends beyond the range.
    have hends : Run.Post.Holds _ (Deployment.run (i.options wait lease) app env s) :=
      Deployment.run_returns (i.options wait lease) app s trivial
    rw [hrun] at hends
    exact hends

/-- An app. -/
def webApp : App.Config := { appName := "web", primaryRegion := "ord" }

/-- The file of the app. -/
def webText : String := "\x7b\"app_name\": \"web\", \"primary_region\": \"ord\"\x7d"

/-- A call of the program that deploys the app, with further arguments. -/
def deployingWeb (args : List String) : Invocation where
  args := "--image=web:v2" :: args
  env _ := none
  content _ := .bytes webText.toUTF8
  opensLog _ := true

/-- The file of the app is read, whatever the arguments are. -/
theorem read_deployingWeb (args : List String) :
    (deployingWeb args).appFile.read App.Config.record.codec = .ok webApp := by
  have hcontent : (deployingWeb args).appFile.content = .bytes webText.toUTF8 := rfl
  have htext : String.fromUTF8? webText.toUTF8 = some webText := by decide +kernel
  have happ : (Json.read? webText).bind App.Config.record.codec.decode = some webApp := by
    decide +kernel
  simp only [File.read, File.text, hcontent, htext, happ]

/-- Both timeouts are taken, and only the first has a bearing on the deployment. -/
theorem timeouts_taken_web :
    let i := deployingWeb ["--wait-timeout= +2m", "--lease-timeout=18446744073709551615"]
    i.appFile.read App.Config.record.codec = .ok webApp ∧
    i.Takes "wait-timeout" 120 120 ∧ i.Takes "lease-timeout" 1800 (2 ^ 64 - 1) ∧
    i.start {} = .ready (i.options 120 (2 ^ 64 - 1)) webApp ∧
    ∀ s', Deployment.run (i.options 120 (2 ^ 64 - 1)) webApp Environment.obliging
      { remote := () } = (.panicked, s') → Run.clockRange ≤ 0 + s'.now + waitMillis 120 := by
  intro i
  -- The first is two minutes with a sign and a blank, the second as long as can be.
  have hwait : i.Takes "wait-timeout" 120 120 := timeout_eq_seconds_iff.mp rfl
  have hlease : i.Takes "lease-timeout" 1800 (2 ^ 64 - 1) := timeout_eq_seconds_iff.mp rfl
  obtain ⟨-, -, hready, htaken⟩ :=
    timeouts_taken i {} (read_deployingWeb _) Environment.obliging { remote := () }
  exact ⟨read_deployingWeb _, hwait, hlease, (hready _ _).mpr ⟨120, _, hwait, hlease, rfl, rfl⟩,
    (htaken 120 _ hwait hlease).2.2.1⟩

/-- A number of minutes that is read but has no number of seconds in 64 bits breaks the program off,
and the greatest number of seconds that is taken breaks a deployment off. -/
theorem timeouts_break :
    (deployingWeb ["--wait-timeout=307445734561825861m"]).start {} = .broken ∧
    ∃ o, (deployingWeb ["--wait-timeout=18446744073709551615"]).start {} = .ready o webApp ∧
      (Deployment.run o webApp Environment.obliging { remote := () }).1 = .panicked := by
  constructor
  · rw [start_eq {} (read_deployingWeb _)]
    rfl
  · refine ⟨(deployingWeb ["--wait-timeout=18446744073709551615"]).options (2 ^ 64 - 1) 1800,
      ?_, ?_⟩
    · rw [start_eq {} (read_deployingWeb _)]
      rfl
    · rfl

end Cli.Invocation

end Rollout
