import Rollout.Deployment.Rollout
import Rollout.Http.Clients

/-!
# Deployments over a network

A network settles how every request is taken, as an environment does for every call. With the
clients of the services it makes an environment, in which a deployment is carried out.
-/

namespace Rollout.Http

/-- How a network takes a request. -/
structure Delivery (σ : Type) where
  /-- The state of the services when the request has come in. -/
  remote : σ
  /-- How long the response takes, none for a request that is never answered. -/
  delay : Option Nat
  /-- Whether the deployment is canceled as the request is made. -/
  cancels : Bool := false
  /-- The response, from the state of the services at the time, or none. -/
  respond : σ → σ × Option Response

/-- The outside of a program that makes requests. -/
structure Network (σ : Type) where
  /-- How a request made at a time is taken by services in a state. -/
  receive : (request : Request) → (now : Nat) → σ → Delivery σ
  /-- How much time passes while a request is written. -/
  lag : Nat := 0
  clock : (reading time : Nat) → Int
  jitter : Nat → Int
  uptime : Nat

end Rollout.Http

namespace Rollout

/-- A call of which some time has passed before it is made. -/
def Call.after (elapsed : Nat) : Call → Call
  | .wait machine state timeout => .wait machine state (timeout - elapsed)
  | c => c

namespace Http.Network

variable {σ : Type}

/-- How a call is taken when it is made as a request. A call for which there is no request fails
at once. -/
def exchange (n : Network σ) (clients : Clients) (call : Call) (now : Nat) (remote : σ) :
    Exchange σ call :=
  match clients.request (call.after n.lag) with
  | .error e => { remote := remote, delay := some 0, answer := fun remote => (remote, .error e) }
  | .ok request =>
    let d := n.receive request now remote
    { remote := d.remote, delay := d.delay, cancels := d.cancels
      answer := fun remote => (d.respond remote).map id call.outcome }

/-- The environment that a network makes for clients. -/
def environment (n : Network σ) (clients : Clients) : Environment σ where
  receive := n.exchange clients
  clock := n.clock
  jitter := n.jitter
  uptime := n.uptime

/-- Deploys an app with the services that the settings name. -/
def deploy (n : Network σ) (settings : Settings) (o : Options) (app : App.Config) (s : Session σ) :
    Ending (Except DeployError Unit) × Session σ :=
  match Clients.ofSettings settings app.appName with
  | .error e => (.done (.error e), s)
  | .ok clients => Deployment.run o app (n.environment clients) s

end Http.Network

end Rollout
