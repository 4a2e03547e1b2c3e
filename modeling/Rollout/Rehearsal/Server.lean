import Rollout.Http.Network
import Rollout.Json.Printer
import Rollout.Rehearsal.Plane

/-!
# A rehearsed server

A server for rehearsals answers requests for a plane and for the release service beside it. It
keeps the requests it got, and may cancel the deployment on one of them, which it then leaves
unanswered.
-/

namespace Rollout.Rehearsal

/-- The requests on the first of which the deployment is canceled. -/
structure Trigger where
  method : Http.Method
  /-- How the path of the request ends. -/
  ending : String
deriving DecidableEq, Inhabited

/-- Whether a request is one that a trigger waits for. -/
def Trigger.meets (t : Trigger) (r : Http.Request) : Bool :=
  t.method == r.method && r.url.path.endsWith t.ending

/-- The state of a rehearsed server. -/
structure Server where
  plane : Plane := {}
  /-- The trigger, as long as it is set. -/
  trigger : Option Trigger := none
  /-- The requests, the latest first. -/
  requests : List Http.Request := []

namespace Server

/-! ## Routes -/

/-- The value of a field in a query. -/
def field? (query : Option String) (name : String) : Option String :=
  let fields := (query.getD "").splitOn "&" |>.map (·.splitOn "=")
  (fields.findSome? fun
    | [n, value] => if n = name then some value else none
    | _ => none).bind Http.Percent.decodeText?

/-- The call that a request makes, if there is a route for it. -/
def route? (r : Http.Request) : Option Call :=
  let id? := Http.Percent.decodeText?
  let nonce := r.nonce.getD ""
  match r.method, r.url.path.splitOn "/" with
  | .get, ["", "v1", "apps", _, "machines"] => some .list
  | .post, ["", "v1", "apps", _, "machines"] =>
    (r.body.bind LaunchInput.record.decode).map .launch
  | .get, ["", "v1", "apps", _, "machines", id] => (id? id).map .get
  | .post, ["", "v1", "apps", _, "machines", _] =>
    (r.body.bind LaunchInput.record.decode).map (.update · nonce)
  | .delete, ["", "v1", "apps", _, "machines", id] => (id? id).map (.destroy · nonce)
  | .post, ["", "v1", "apps", _, "machines", id, "lease"] =>
    match id? id, r.body.bind Lease.Request.record.decode with
    | some id, some request => some (.acquire id request.ttl.toNat)
    | _, _ => none
  | .delete, ["", "v1", "apps", _, "machines", id, "lease"] => (id? id).map (.release · nonce)
  | .post, ["", "v1", "apps", _, "machines", id, "start"] => (id? id).map .start
  | .get, ["", "v1", "apps", _, "machines", id, "wait"] =>
    match id? id, field? r.url.query "state" with
    | some id, some state =>
      (Machine.State.codec.decode (.string state)).map (.wait { id := id } · 0)
    | _, _ => none
  | .get, ["", "v1", "apps", _, "volumes"] => some .volumes
  | .post, ["", "v1", "apps", _, "releases"] =>
    (r.body.bind Release.Draft.record.decode).map .record
  | _, _ => none

/-! ## Responses -/

/-- A problem report as a response. -/
def refusal (code : Nat) (message : String) : Http.Response :=
  ⟨code, some (Json.object [("error", .string message)]).render⟩

/-- The answer to a call as JSON. -/
def replyJson : (c : Call) → c.Reply → Json
  | .launch _, m | .update .., m | .get _, m => Machine.record.encode m
  | .list, roster => Machine.record.codec.list.encode (roster.app ++ roster.releaseCommand.toList)
  | .acquire .., reply => Lease.Reply.record.encode reply
  | .volumes, volumes => Volume.record.codec.list.encode volumes
  | .record _, release => Release.Receipt.record.encode ⟨release⟩
  | .destroy .., _ | .release .., _ | .start _, _ | .wait .., _ => .object []

/-- The answer to a call as a response, or none for one that does not get through. -/
def response? (c : Call) : c.Outcome → Option Http.Response
  | .ok reply => some ⟨200, some (replyJson c reply).render⟩
  | .error (.status code message) => some (refusal code.toNat message)
  | .error (.decode message) => some ⟨200, some message⟩
  | .error (.transport _) => none

/-- Answers a call from the plane. A list holds all machines there are. -/
def respond (p : Plane) (o : Outcome) (c : Call) : Plane × Option Http.Response :=
  match o.error, c with
  | some e, c => (p, response? c (.error e))
  | none, .list => (p, some ⟨200, some (Machine.record.codec.list.encode p.machines).render⟩)
  | none, c => (p.effect o c).map id (response? c)

/-! ## Requests -/

/-- Takes a request. -/
def receive (s : Server) (r : Http.Request) : Http.Delivery Server :=
  let s := { s with requests := r :: s.requests }
  if s.trigger.any (·.meets r) then
    -- A trigger is used up by the request that sets it off.
    { remote := { s with trigger := none }, delay := none, cancels := true, respond := (·, none) }
  else
    match route? r with
    | none => { remote := s, delay := some 0, respond := (·, some (refusal 404 "no route")) }
    | some c =>
      let (p, o) := s.plane.take c
      { remote := { s with plane := p }
        delay := if o.hangs then none else some o.delay
        cancels := o.cancels
        respond := fun s =>
          let (p, response) := respond s.plane o c
          ({ s with plane := p }, response) }

/-- The network on which a server is to be found at an address and nothing else anywhere. The
clock stands still, there is no jitter, and a moment passes while a request is written. -/
def network (host : String) (port : Nat) (clock : Int) : Http.Network Server where
  receive r _ s :=
    if r.url.scheme == "http"
        && r.url.authority.any (fun a => a.host == host && a.port == some port) then
      s.receive r
    else { remote := s, delay := some 0, respond := (·, none) }
  lag := 1
  clock _ _ := clock
  jitter _ := 0
  uptime := 1000000

end Server

end Rollout.Rehearsal
