import Rollout.Cli.Program
import Rollout.Json.Printer

/-!
# Transcripts

The program has no network of its own: it tells its caller every request, and is told what became
of it. A transcript is all it has been told so far. Run on a transcript, the program ends or comes
to something that the transcript does not tell, and then `next` says what has to be added. Since
the program is a function of the transcript, running it anew on a longer one repeats what it did
before and goes on from there.
-/

namespace Rollout.Cli

/-- What became of a request. -/
inductive Arrival where
  /-- After so many milliseconds there was a response, or it was clear that there would be none. -/
  | response (delay : Nat) (response : Option Http.Response)
  /-- The user interrupted the program. -/
  | interrupt

namespace Arrival

/-- The response that a line tells as JSON, if it tells one. -/
def responseOf (j : Json) : Option Http.Response :=
  match j.member? "status", j.member? "body" with
  | some (.int status), some (.string body) => some ⟨status.toNat, some body⟩
  | some (.int status), _ => some ⟨status.toNat, none⟩
  | _, _ => none

/-- Reads a line. An empty one, which comes after the last, interrupts the program. -/
def ofLine (delay : Nat) (line : String) : Arrival :=
  if line.isEmpty then .interrupt
  else
    match Json.read? line with
    | some (.string "interrupt") => .interrupt
    | some j => .response delay (responseOf j)
    | none => .response delay none

end Arrival

/-- A request as a line. -/
def requestLine (r : Http.Request) : String :=
  let header (name : String) (value : Option String) : List (String × Json) :=
    value.toList.map fun v => (name, .string v)
  let headers := header "authorization" r.authorization
    ++ header "machine-lease-nonce" r.nonce
    ++ header "content-type" (r.body.map fun _ => "application/json")
  (Json.object ([("method", .string r.method.name), ("url", .string r.url.text),
    ("headers", .object headers)] ++ r.body.toList.map (("body", ·)))).render

/-- What the program has been told. -/
structure Transcript where
  arrivals : List Arrival := []
  /-- What the clock said at the beginning, in milliseconds since 1970. -/
  start : Int := 0
  /-- The jitter of delays, over and over again, in nanoseconds. -/
  jitter : List Int := []

/-- How far a run has got in a transcript. -/
structure Correspondence where
  /-- What is still to come. -/
  arrivals : List Arrival
  /-- The first request of which the transcript does not tell, and when it was made. -/
  unanswered : Option (Http.Request × Nat) := none

/-- What a run comes to. -/
inductive Next where
  /-- A request has to be made at a time. -/
  | ask (request : Http.Request) (time : Nat)
  /-- The program has ended. -/
  | ended (report : Report)
  /-- The program waits for nothing that could come. -/
  | stuck

namespace Transcript

/-- How a request is taken. -/
def receive (request : Http.Request) (now : Nat) (c : Correspondence) :
    Http.Delivery Correspondence :=
  match c.arrivals with
  | .response delay response :: rest =>
    { remote := { c with arrivals := rest }, delay := some delay, respond := (·, response) }
  | .interrupt :: rest =>
    { remote := { c with arrivals := rest }, delay := none, cancels := true, respond := (·, none) }
  | [] =>
    { remote := { c with unanswered := c.unanswered.or (some (request, now)) }
      delay := none, respond := (·, none) }

/-- The network on which all happens as a transcript tells. -/
def network (t : Transcript) : Http.Network Correspondence where
  receive := receive
  lag := 1
  clock _ time := t.start + time
  jitter n := t.jitter[n % t.jitter.length]?.getD 0
  uptime := 0

/-- What has to be added to a transcript for the program to go on. -/
def next (i : Invocation) (t : Transcript) : Next :=
  let (report, s) := i.run t.network { remote := { arrivals := t.arrivals } }
  match s.remote.unanswered, report with
  | some (request, time), _ => .ask request time
  | none, some report => .ended report
  | none, none => .stuck

end Transcript

end Rollout.Cli
