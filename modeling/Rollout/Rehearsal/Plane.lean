import Rollout.Rehearsal.Script
import Rollout.Session.Basic

/-!
# A rehearsed control plane

A control plane for rehearsals keeps machines, volumes and leases in memory, behaves as a plain
one would, and departs from that where its script says so. It logs the calls it gets; of steady
polling, whose rounds depend on chance, only the first call.
-/

namespace Rollout.Rehearsal

/-- A call in the log of a plane. -/
structure Entry where
  call : Call
  /-- Whether a wait repeats the call before it, so that the time it has left is chance. -/
  repeats : Bool := false
deriving Inhabited

/-- The state of a rehearsed control plane. -/
structure Plane where
  machines : List Machine := []
  volumes : List Volume := []
  /-- The nonces of the leases that are held, by machine. -/
  leases : Dict String := {}
  /-- The exit code of release commands. -/
  exitCode : Int32 := 0
  script : Script := {}
  /-- How many calls of each key there were. -/
  calls : Dict Nat := {}
  launches : Nat := 0
  releases : Nat := 0
  events : Nat := 0
  /-- The log, the latest entry first. -/
  log : List Entry := []
  /-- The key of the last call, and whether it was steady. -/
  last : Option (String × Bool) := none
deriving Inhabited

namespace Plane

/-! ## Machines -/

/-- The first machine of an id. -/
def find? (p : Plane) (id : String) : Option Machine := p.machines.find? (·.id == id)

/-- Replaces the first machine of an id. -/
def put (p : Plane) (id : String) (m : Machine) : Plane :=
  match p.machines.findIdx? (·.id == id) with
  | some i => { p with machines := p.machines.set i m }
  | none => p

/-- A machine with some of its fields replaced, if that is a machine. -/
def patched? (patch : List (String × Json)) (m : Machine) : Option Machine :=
  match Machine.record.encode m with
  | .object members =>
    Machine.record.decode
      (.object ((members.filter (fun e => !patch.any (·.1 == e.1))) ++ patch))
  | _ => none

/-- A machine with some of its fields replaced. A patch that leaves no machine is ignored. -/
def patched (patch : List (String × Json)) (m : Machine) : Machine :=
  if patch.isEmpty then m else (patched? patch m).getD m

/-- The reports of a configuration's checks when all of them pass. -/
def passing (c : Machine.Config) : List Machine.CheckReport :=
  c.checks.keys.map ({ name := ·, status := .passing })

/-- An event of the plane's own, the k-th. -/
def event (k : Nat) (kind : String) (detail : Option Machine.EventDetail) : Machine.Event where
  kind := kind
  source := "plane"
  timestamp := (Timestamp.ofMillis? ((1700000000 + k) * 1000)).getD default
  detail := detail

/-- Runs the release command on a machine that is for it. -/
def runCommand (p : Plane) (m : Machine) : Plane × Machine :=
  if m.runsReleaseCommand then
    ({ p with events := p.events + 2 },
      { m with
        state := .stopped
        events := m.events ++ [event (p.events + 1) "start" none,
          event (p.events + 2) "exit" (some { exit := some { code := p.exitCode } })] })
  else (p, m)

/-! ## Effects -/

/-- The refusal of a call for a machine that is not there. -/
def notFound (id : String) : ApiError := .status 404 ("machine " ++ id ++ " not found")

/-- Changes the first machine of an id, or refuses for want of one. -/
def withMachine {α : Type} (p : Plane) (id : String) (f : Machine → Plane × Except ApiError α) :
    Plane × Except ApiError α :=
  match p.find? id with
  | none => (p, .error (notFound id))
  | some m => f m

/-- Goes on under the lease of a nonce, or refuses for want of it. -/
def underLease {α : Type} (p : Plane) (id nonce : String) (f : Unit → Plane × Except ApiError α) :
    Plane × Except ApiError α :=
  if p.leases.get? id == some nonce then f ()
  else (p, .error (.status 412 "lease nonce mismatch"))

/-- Creates a machine. -/
def launch (p : Plane) (o : Outcome) (input : LaunchInput) : Plane × Except ApiError Machine :=
  let n := p.launches + 1
  let id := "new-" ++ toString n
  let m : Machine := {
    id := id, state := .started, instanceId := id ++ "-1", region := input.region,
    config := input.config, checks := passing input.config }
  let (p, m) := runCommand { p with launches := n } m
  let m := patched o.patch m
  ({ p with machines := p.machines ++ [m] }, .ok m)

/-- Updates a machine. -/
def update (p : Plane) (o : Outcome) (input : LaunchInput) (nonce : String) :
    Plane × Except ApiError Machine :=
  let id := input.id.getD ""
  p.underLease id nonce fun () => p.withMachine id fun m =>
    let m := { m with
      config := input.config, checks := passing input.config, instanceId := id ++ "-2",
      state := if input.skipLaunch then m.state else .started }
    let (p, m) := p.runCommand m
    let m := patched o.patch m
    (p.put id m, .ok m)

/-- Answers a request for a lease. -/
def acquire (p : Plane) (o : Outcome) (id : String) : Plane × Except ApiError Lease.Reply :=
  match o.reply with
  | some reply =>
    (reply.data.elim p (fun g => { p with leases := p.leases.insert id g.nonce }), .ok reply)
  | none =>
    if p.leases.contains id then (p, .error (.status 409 "machine is already leased"))
    else
      let nonce := "nonce-" ++ id
      ({ p with leases := p.leases.insert id nonce },
        .ok { status := "success", data := some { nonce := nonce, expiresAt := 4102444800 } })

/-- Waits for a machine to be in a state. -/
def wait (p : Plane) (o : Outcome) (id : String) (state : Machine.State) :
    Plane × Except ApiError Unit :=
  p.withMachine id fun m =>
    let m := patched o.patch m
    (p.put id m,
      -- A release command may have stopped by now, but it has been started.
      if m.state == state || (m.runsReleaseCommand && state == .started) then .ok ()
      else .error (.status 408 ("machine still " ++ m.state.name)))

/-- The effect of a call that does not fail by script, and the answer. -/
def effect (p : Plane) (o : Outcome) : (c : Call) → Plane × c.Outcome
  | .launch input => p.launch o input
  | .update input nonce => p.update o input nonce
  | .destroy id nonce => p.underLease id nonce fun () =>
    ({ p with leases := p.leases.erase id, machines := p.machines.eraseP (·.id == id) }, .ok ())
  | .get id => p.withMachine id fun m =>
    let m := patched o.patch m
    (p.put id m, .ok m)
  | .list => (p, .ok (.ofList p.machines))
  | .acquire id _ => p.acquire o id
  | .release id nonce =>
    if p.leases.get? id == some nonce then ({ p with leases := p.leases.erase id }, .ok ())
    else (p, .error (.status 404 "lease not found"))
  | .start id => p.withMachine id fun m => (p.put id { m with state := .started }, .ok ())
  | .wait machine state _ => p.wait o machine.id state
  | .volumes => (p, .ok p.volumes)
  | .record _ =>
    match o.release with
    | some release => (p, .ok release)
    | none =>
      let n := p.releases + 1
      ({ p with releases := n }, .ok { id := "rel_" ++ toString n, version := .ofNat n })

/-! ## Calls -/

/-- Whether a call asks only how far something is. -/
def polls : Call → Bool
  | .get _ | .wait .. => true
  | _ => false

/-- Takes a call: counts it, logs it and finds its outcome. -/
def take (p : Plane) (c : Call) : Plane × Outcome :=
  let k := key c
  let n := (p.calls.get? k).getD 0
  let (o, isLast) := p.script.outcome k n
  let steady := polls c && isLast
  let entry : Entry := { call := c, repeats := p.last.any (·.1 == k) }
  -- How often steady polling asks is chance, so only its first round is logged.
  let log := if steady && p.last == some (k, true) then p.log else entry :: p.log
  ({ p with calls := p.calls.insert k (n + 1), log := log, last := some (k, steady) }, o)

/-- The log from the oldest entry on, and the plane with an empty one. -/
def takeLog (p : Plane) : List Entry × Plane :=
  (p.log.reverse, { p with log := [], last := none })

/-- How the plane takes a call. -/
def receive (c : Call) (p : Plane) : Exchange Plane c :=
  let (p, o) := p.take c
  { remote := p
    delay := if o.hangs then none else some o.delay
    cancels := o.cancels
    answer := fun p => match o.error with
      | some e => (p, .error e)
      | none => p.effect o c }

/-- The environment that a plane makes with a clock that stands still and no jitter. -/
def environment (clock : Int) : Environment Plane where
  receive c _ p := p.receive c
  clock _ _ := clock
  jitter _ := 0
  uptime := 1000000

end Plane

end Rollout.Rehearsal
