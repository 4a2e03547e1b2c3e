import Rollout.Http.Client
import Rollout.Remote.Call
import Rollout.Settings

/-!
# Calls over HTTP

How a call to the remote services is made as a request, and how the answer to the request is read
as the answer to the call. The body of an answer is read only where something is to be learned
from it.
-/

namespace Rollout.Http

/-- The clients that a deployment of an app needs. -/
structure Clients where
  appName : String
  /-- The client of the control plane. -/
  machines : Client
  /-- The client of the release service. -/
  releases : Client
deriving DecidableEq, Inhabited

namespace Clients

/-- The clients of the services that the settings name. -/
def ofSettings (s : Settings) (appName : String) : Except DeployError Clients := do
  let token ← s.token
  let machines ← Client.ofAddress s.controlPlane.baseUrl token
  let releases ← Client.ofAddress s.releaseBackend.baseUrl token
  return ⟨appName, machines, releases⟩

/-! ## Requests -/

/-- The path of the app's machines. -/
def machinesPath (c : Clients) : String := "/apps/" ++ c.appName ++ "/machines"

/-- The path of a machine. -/
def machinePath (c : Clients) (id : String) : String := c.machinesPath ++ "/" ++ id

/-- The path of the lease on a machine. -/
def leasePath (c : Clients) (id : String) : String := c.machinePath id ++ "/lease"

/-- The seconds that the control plane is asked to wait, from 1 to 60. -/
def waitSeconds (millis : Nat) : Nat := max 1 (min 60 (millis / 1000))

/-- The fields of the query of a wait. -/
def waitFields (m : Machine) (state : Machine.State) (timeout : Nat) : List (String × String) :=
  [("state", state.name), ("timeout", toString (waitSeconds timeout))]
    ++ if m.instanceId.isEmpty then [] else [("instance_id", m.instanceId)]

/-- The request that makes a call. -/
def request (c : Clients) : Call → Except ApiError Request
  | .launch input => c.machines.request .post c.machinesPath none (LaunchInput.record.encode input)
  | .update input nonce =>
    match input.id with
    | none => .error (.decode "update requires a machine id")
    | some id => c.machines.request .post (c.machinePath id) nonce (LaunchInput.record.encode input)
  | .destroy id nonce =>
    c.machines.request .delete (c.machinePath id) nonce none [("force", "true")]
  | .get id => c.machines.request .get (c.machinePath id)
  | .list => c.machines.request .get c.machinesPath
  | .acquire id ttl =>
    c.machines.request .post (c.leasePath id) none
      (Lease.Request.record.encode { ttl := UInt64.ofNat ttl })
  -- A query without fields, which is dropped even where the address has an empty one.
  | .release id nonce => c.machines.request .delete (c.leasePath id) nonce none (some [])
  | .start id => c.machines.request .post (c.machinePath id ++ "/start")
  | .wait m state timeout =>
    c.machines.request .get (c.machinePath m.id ++ "/wait") none none (waitFields m state timeout)
  | .volumes => c.machines.request .get ("/apps/" ++ c.appName ++ "/volumes")
  | .record draft =>
    c.releases.request .post ("/apps/" ++ draft.appId ++ "/releases") none
      (Release.Draft.record.encode draft)

end Clients

end Rollout.Http

/-! ## Answers -/

namespace Rollout.Call

/-- The answer to a call that the body of a success holds. -/
def reply? : (c : Call) → (body : Option String) → Option c.Reply
  | .launch _, body | .update .., body | .get _, body => read Machine.record.codec body
  | .list, body => (read Machine.record.codec.list body).map Machine.Roster.ofList
  | .acquire .., body => read Lease.Reply.record.codec body
  | .volumes, body => read Volume.record.codec.list body
  | .record _, body => (read Release.Receipt.record.codec body).map (·.release)
  | .destroy .., _ | .release .., _ | .start _, _ | .wait .., _ => some ()
where
  /-- The value that a body holds as JSON. -/
  read {α : Type} (c : Codec α) (body : Option String) : Option α :=
    (body.bind Json.read?).bind c.decode

/-- The answer to a call from the response to its request, or from there being none. -/
def outcome (c : Call) : Option Http.Response → c.Outcome
  | none => .error (.transport "no response")
  | some r =>
    if !Http.Status.isFinal r.status then .error (.transport "no response")
    else if Http.Status.isSuccess r.status then
      match c.reply? r.text? with
      | some reply => .ok reply
      | none => .error (.decode "unexpected body")
    else .error (.status (UInt16.ofNat r.status) r.problem)

end Rollout.Call
