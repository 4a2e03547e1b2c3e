/-!
# Errors

What can go wrong with a call to a remote service, and with a deployment. `isInterrupted` and
`isCanceled` see through the context that a failing release command adds.
-/

namespace Rollout

/-- Why a call to a remote service failed. -/
inductive ApiError where
  /-- The request did not get through. -/
  | transport (message : String)
  /-- The service refused. -/
  | status (code : UInt16) (message : String)
  /-- The answer could not be understood. -/
  | decode (message : String)
deriving DecidableEq, Inhabited

namespace ApiError

/-- The text of the error. -/
def text : ApiError → String
  | .transport message => "request failed: " ++ message
  | .status code message => toString code.toNat ++ ": " ++ message
  | .decode message => "invalid response: " ++ message

/-- Whether the same request may succeed when it is made again. -/
def isTransient : ApiError → Bool
  | .transport _ => true
  | .status code _ => code == 408 || code == 429 || 500 ≤ code
  | .decode _ => false

end ApiError

/-- Why a deployment, or a step of one, failed. -/
inductive DeployError where
  /-- The caller asked for something that makes no sense. -/
  | precondition (message : String)
  | lease (machine message : String)
  /-- Not every machine of a fleet could be leased. -/
  | fleetLease (failed total : Nat) (first : String)
  /-- Not every lease of a fleet could be released. -/
  | fleetRelease (failed : Nat) (first : String)
  | api (source : ApiError)
  /-- A poll met an error that trying again does not mend. -/
  | poll (machine : String) (source : ApiError)
  | timeout (what machine : String)
  | canceled (what machine : String)
  /-- A machine's configuration could not be worked out. -/
  | configResolution (message : String)
  /-- The release command ran and failed. -/
  | releaseCommandFailed (machine : String) (exitCode : Int32)
  /-- A step around the release command failed. -/
  | releaseCommand (context : String) (source : DeployError)
  | file (message : String)
  | config (message : String)
  | internal (message : String)
deriving DecidableEq, Inhabited

namespace DeployError

/-- The text of the error. -/
def text : DeployError → String
  | .precondition message => "precondition failed: " ++ message
  | .lease machine message => "lease error on machine " ++ machine ++ ": " ++ message
  | .fleetLease failed total first =>
    "error acquiring leases on all machines: " ++ toString failed ++ " of " ++ toString total
      ++ " failed, first error: " ++ first
  | .fleetRelease failed first =>
    "error releasing leases on machines: " ++ toString failed ++ " failed, first error: " ++ first
  | .api source => "API error: " ++ source.text
  | .poll machine source => "error getting machine " ++ machine ++ " from api: " ++ source.text
  | .timeout what machine => "timeout reached waiting for " ++ what ++ " on machine " ++ machine
  | .canceled what machine => "canceled while waiting for " ++ what ++ " on machine " ++ machine
  | .configResolution message => message
  | .releaseCommandFailed machine exitCode =>
    "release_command machine " ++ machine ++ " exited with non-zero status of "
      ++ toString exitCode.toInt
  | .releaseCommand context source => context ++ ": " ++ source.text
  | .file message => "IO error: " ++ message
  | .config message => "Configuration error: " ++ message
  | .internal message => "Internal error: " ++ message

/-- Whether a cancellation is behind the error. -/
def isCanceled : DeployError → Bool
  | .canceled .. => true
  | .releaseCommand _ source => source.isCanceled
  | _ => false

/-- Whether a cancellation or a deadline is behind the error. -/
def isInterrupted : DeployError → Bool
  | .timeout .. | .canceled .. => true
  | .releaseCommand _ source => source.isInterrupted
  | _ => false

end DeployError

end Rollout
