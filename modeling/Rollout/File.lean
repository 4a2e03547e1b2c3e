import Rollout.Error
import Rollout.Json.Codec
import Rollout.Json.Reader

/-!
# Files

What reading a file gives: a path that leads nowhere, a directory, or bytes that may be text. The
outer layer looks at the disk; what is found is interpreted here.
-/

namespace Rollout

/-- Why a path leads nowhere. -/
inductive PathFault where
  /-- There is nothing of this name. -/
  | missing
  /-- What the path goes through is no directory. -/
  | notDirectory
  /-- A name on the path, or the path, is too long. -/
  | tooLong
  /-- There is a NUL in the path. -/
  | hasNul
deriving DecidableEq, Inhabited

/-- How a fault is told. -/
def PathFault.message : PathFault → String
  | missing => "No such file or directory (os error 2)"
  | notDirectory => "Not a directory (os error 20)"
  | tooLong => "File name too long (os error 36)"
  | hasNul => "file name contained an unexpected NUL byte"

/-- What is found under a path. -/
inductive FileContent where
  | nothing (fault : PathFault)
  | directory
  | bytes (data : ByteArray)

/-- A path and what is found there. -/
structure File where
  path : String
  content : FileContent

namespace File

/-- Whether there is anything under the path. -/
def isThere (f : File) : Bool :=
  match f.content with
  | .nothing _ => false
  | _ => true

/-- The text of the file. -/
def text (f : File) : Except DeployError String :=
  match f.content with
  | .nothing fault => .error (.file fault.message)
  | .directory => .error (.file "Is a directory (os error 21)")
  | .bytes data =>
    match String.fromUTF8? data with
    | some s => .ok s
    | none => .error (.file "stream did not contain valid UTF-8")

/-- The value that the file holds as JSON. -/
def read {α : Type} (f : File) (c : Codec α) : Except DeployError α :=
  match f.text with
  | .error e => .error e
  | .ok s =>
    match (Json.read? s).bind c.decode with
    | some a => .ok a
    | none => .error (.config ("invalid JSON in " ++ f.path))

end File

end Rollout
