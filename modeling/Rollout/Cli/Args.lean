import Rollout.Cli.Duration
import Rollout.Dict
import Rollout.Text.Split

/-!
# Arguments on the command line

Arguments are `--key=value`, with any number of hyphens, or `--flag`, which is `--flag=true`.
Only `--env` may be repeated; of any other key the last value counts. Anything else is ignored.
-/

namespace Rollout.Cli

/-- Arguments by key, and the values of `env` in order. -/
structure Args where
  values : Dict String := {}
  env : List String := []
deriving DecidableEq, Inhabited

namespace Args

/-- Takes one more argument. -/
def add (a : Args) (arg : String) : Args :=
  match Text.splitAt? '=' arg with
  | some (key, value) =>
    let key := Text.dropLeading '-' key
    if key = "env" then { a with env := a.env ++ [value] }
    else { a with values := a.values.insert key value }
  | none =>
    -- With a value after `=` no hyphens are needed, without one they are.
    if arg.startsWith "--" then
      { a with values := a.values.insert (Text.dropLeading '-' arg) "true" }
    else a

/-- Reads the arguments of a command line. -/
def ofList (args : List String) : Args := args.foldl add {}

/-- Whether a flag is set. -/
def flag (a : Args) (key : String) : Bool := a.values.get? key == some "true"

/-- What an argument says about a timeout. -/
inductive Timeout where
  | seconds (n : Nat)
  | invalid (message : String)
  /-- The number of seconds does not fit in 64 bits. -/
  | overflows
deriving DecidableEq, Inhabited

/-- The timeout of a key in seconds, or the fallback where the key is not given. -/
def timeout (a : Args) (key : String) (fallback : Nat) : Timeout :=
  match a.values.get? key with
  | none => .seconds fallback
  | some text =>
    match readDuration text with
    | .seconds n => .seconds n
    | .refused => .invalid ("invalid --" ++ key ++ ": " ++ text)
    | .overflows => .overflows

end Args

end Rollout.Cli
