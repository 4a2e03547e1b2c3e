import Rollout.Cli.Transcript
import Std.Time.DateTime.Timestamp

/-!
# The command line

Deploys an app from the command line. The program reads its settings and the app configuration,
writes every request as one line of JSON on the standard output, and reads what became of it from
the standard input: one line of JSON with the `status` and the `body` of the response, or `null` if
there was none, or `"interrupt"` to interrupt the deployment. Errors are told on the standard error.
-/

namespace Rollout.Cli

/-- The fault that a number of the system stands for. -/
def faultOf (code : UInt32) : PathFault :=
  if code = 20 then .notDirectory else if code = 36 then .tooLong else .missing

/-- What is found under a path. -/
def look (path : String) : IO FileContent := do
  if path.contains '\x00' then return .nothing .hasNul
  let place := (← IO.currentDir) / path
  if path.isEmpty then return .nothing .missing
  if ← place.isDir then return .directory
  try
    return .bytes (← IO.FS.readBinFile place)
  catch
    | .inappropriateType _ code _ | .invalidArgument _ code _ => return .nothing (faultOf code)
    | _ => return .nothing .missing

/-- The path of a log file. -/
def logPath (dir : String) (now : Int) : String := dir ++ "/" ++ logFileName now

/-- Opens a log file, and tells whether that was possible. -/
def openLog (dir : String) (now : Int) : IO Bool := do
  try
    IO.FS.createDirAll dir
    IO.FS.withFile (logPath dir now) .append fun _ => return true
  catch _ => return false

/-- The environment variables that the program reads, and the files that its arguments name. -/
def gather (args : List String) (now : Int) : IO Invocation := do
  let given ← Invocation.envNames.mapM fun name => return (name, ← IO.getEnv name)
  let bare : Invocation := {
    args := args, env := fun name => (given.lookup name).join
    content := fun _ => .nothing .missing, opensLog := fun _ => true }
  let files ← bare.paths.mapM fun path => return (path, ← look path)
  let known := { bare with content := fun path => (files.lookup path).getD (.nothing .missing) }
  let logs ← known.logDirs.mapM fun dir => return (dir, ← openLog dir now)
  return { known with opensLog := fun dir => (logs.lookup dir).getD true }

/-- Tells requests and is told what became of them until the program ends. -/
partial def converse (i : Invocation) (began : Nat) (t : Transcript) : IO (Option Report) := do
  match t.next i with
  | .ended report => return some report
  | .stuck => return none
  | .ask request time =>
    let elapsed := (← IO.monoMsNow) - began
    if elapsed < time then IO.sleep (UInt32.ofNat (time - elapsed))
    let output ← IO.getStdout
    output.putStrLn (requestLine request)
    output.flush
    let asked ← IO.monoMsNow
    let line ← (← IO.getStdin).getLine
    let arrival := Arrival.ofLine ((← IO.monoMsNow) - asked) line
    converse i began { t with arrivals := t.arrivals ++ [arrival] }

/-- Writes the errors of a run to a log file. -/
def writeLog (dir : String) (now : Int) (errors : List String) : IO Unit :=
  IO.FS.withFile (logPath dir now) .append fun file =>
    errors.forM file.putStrLn

/-- Tells what a run left behind. -/
def tell (report : Report) (now : Int) : IO Unit := do
  report.version.forM fun version =>
    IO.println (Json.object [("version", .string version)]).render
  report.complaint.forM fun message => IO.eprintln message
  report.errors.forM fun message => IO.eprintln message
  report.logDir.forM fun dir => writeLog dir now report.errors

end Rollout.Cli

open Rollout.Cli in
/-- Runs the program. -/
def main (args : List String) : IO UInt32 := do
  let now := (← Std.Time.Timestamp.now).toMillisecondsSinceUnixEpoch.val
  let invocation ← gather args now
  let jitter ← (List.range 64).mapM fun _ => return Int.ofNat (← IO.rand 0 500000000) - 250000000
  let report ← converse invocation (← IO.monoMsNow) { start := now, jitter := jitter }
  match report with
  | none => return 1
  | some report =>
    tell report now
    return UInt32.ofNat report.exit
