import Rollout.Error
import Rollout.Http.Message
import Rollout.Text.Split

/-!
# Clients

A client makes the requests to one remote service: each is for a path below the service's address,
and each shows the access token.
-/

namespace Rollout.Http

/-- A client of a remote service. -/
structure Client where
  /-- The address of the service. -/
  base : Url
  token : String
deriving DecidableEq, Inhabited

namespace Client

/-- The client of the service at an address. Slashes at the end of it don't count. -/
def ofAddress (address token : String) : Except DeployError Client :=
  match Url.ofText? (Text.dropTrailing '/' address) with
  | some base => .ok ⟨base, token⟩
  | none => .error (.config ("invalid base url " ++ address))

/-- The URL of a path below the service's address. -/
def url? (c : Client) (path : String) : Option Url :=
  Url.ofText? (Text.dropTrailing '/' c.base.text ++ path)

/-- Whether requests can be sent for a URL. -/
def canReach (u : Url) : Bool := u.scheme == "http" || u.scheme == "https"

/-- A request of the client for a path, with fields in the query if there are to be any. -/
def request (c : Client) (method : Method) (path : String) (nonce : Option String := none)
    (body : Option Json := none) (fields : Option (List (String × String)) := none) :
    Except ApiError Request :=
  let authorization := "Bearer " ++ c.token
  match c.url? path with
  | none => .error (.transport "invalid url")
  | some url =>
    if canReach url && isHeaderText authorization && nonce.all isHeaderText then
      .ok {
        method := method, url := fields.elim url url.withFields
        authorization := headerValue authorization, nonce := nonce.map headerValue, body := body }
    else .error (.transport "invalid request")

end Client

end Rollout.Http
