import Rollout.Error
import Rollout.Json.Codec
import Rollout.Text.Case

/-!
# Rollout strategies

How a fleet is walked during a rollout. Only the immediate strategy differs: it updates every
machine without waiting for any. The others wait for each machine before the next.
-/

namespace Rollout

/-- The strategies that may be asked for. -/
inductive Strategy where
  /-- One machine after the other, each started and healthy before the next. -/
  | rolling
  /-- Every machine, without waiting and past errors. -/
  | immediate
  /-- Accepted, and run as `rolling`. -/
  | canary
  /-- Accepted, and run as `rolling`. -/
  | bluegreen
deriving DecidableEq

namespace Strategy

instance : Inhabited Strategy := ⟨.rolling⟩

/-- All strategies. -/
def all : List Strategy := [.rolling, .immediate, .canary, .bluegreen]

/-- The name of a strategy. -/
def name : Strategy → String
  | .rolling => "rolling"
  | .immediate => "immediate"
  | .canary => "canary"
  | .bluegreen => "bluegreen"

/-- The name of a strategy in a release record. -/
def releaseName (s : Strategy) : String := s.name.map Char.toUpper

/-- Whether the rollout waits for each machine to start and pass its checks. -/
def waitsForMachines (s : Strategy) : Bool := s != .immediate

/-- The strategy of a name, in any case and with blanks around it. -/
def ofName? (name : String) : Except DeployError Strategy :=
  let wanted := Text.lower (Text.trim name)
  match all.find? (·.name == wanted) with
  | some s => .ok s
  | none => .error (.precondition ("unsupported deployment strategy '" ++ wanted ++ "'"))

/-- The strategy of a flag, else that of the app configuration, else `rolling`. Blank names
count as none. -/
def select (flag configured : Option String) : Except DeployError Strategy :=
  match (flag.filter (!Text.isBlankText ·)).or (configured.filter (!Text.isBlankText ·)) with
  | some name => ofName? name
  | none => .ok .rolling

/-- Strategies as their names. -/
def codec : Codec Strategy := .named (all.map (fun s => (s.name, s))) name

end Strategy

end Rollout
