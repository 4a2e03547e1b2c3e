import Rollout.Http.Problem
import Rollout.Http.Status
import Rollout.Http.Url.Basic
import Rollout.Json.Reader

/-!
# Messages

The requests that are sent to remote services and the answers to them, as far as a deployment has
to do with them.
-/

namespace Rollout.Http

/-- What a request is for. -/
inductive Method where
  | get
  | post
  | delete
deriving DecidableEq, Inhabited

namespace Method

/-- The word for a method. -/
def name : Method → String
  | get => "GET"
  | post => "POST"
  | delete => "DELETE"

end Method

/-- The value of a header, which blanks around it are no part of. -/
def headerValue (s : String) : String :=
  let isBlank (c : Char) : Bool := c = ' ' || c = '\t'
  String.ofList ((s.toList.dropWhile isBlank).reverse.dropWhile isBlank).reverse

/-- Whether a text may stand in a header: it has no control characters but tabs. -/
def isHeaderText (s : String) : Bool :=
  s.toList.all fun c => c = '\t' || (0x20 ≤ c.toNat && c.toNat != 0x7F)

/-- A request. A body is always JSON. -/
structure Request where
  method : Method
  url : Url
  authorization : String
  /-- The nonce of the lease that the request is made under. -/
  nonce : Option String := none
  body : Option Json := none

/-- An answer to a request. -/
structure Response where
  status : Nat
  /-- The body, none for one that breaks off. -/
  body : Option String

namespace Response

/-- The body that can be read. -/
def text? (r : Response) : Option String :=
  if Status.isBodiless r.status then some "" else r.body

/-- What a refusal says: the error of its problem report, or the whole body if it is none. -/
def problem (r : Response) : String :=
  let body := r.text?.getD ""
  match (Json.read? body).bind Problem.record.decode with
  | some p => p.error
  | none => body

end Response

end Rollout.Http
