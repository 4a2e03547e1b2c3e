import Rollout.Json.Record

/-!
# Health of machines

The reports of a machine's checks, and the counts by which the machine is judged: it is healthy
when as many checks pass as there are checks reported or configured.
-/

namespace Rollout.Machine

/-- The outcome of a check. -/
inductive CheckState where
  | passing
  | warning
  | critical
deriving DecidableEq, Inhabited

/-- The word for the outcome of a check. -/
def CheckState.name : CheckState → String
  | .passing => "passing"
  | .warning => "warning"
  | .critical => "critical"

/-- What a check last reported. -/
structure CheckReport where
  name : String := ""
  status : CheckState := .passing
  output : String := ""
  updatedAt : Option String := none
deriving DecidableEq, Inhabited

/-- Counts of check reports. -/
structure Health where
  total : Nat := 0
  passing : Nat := 0
  warning : Nat := 0
  critical : Nat := 0
deriving DecidableEq, Inhabited

namespace Health

/-- The counts of a list of reports. Checks that are configured and have not reported count in
the total and as nothing else. -/
def ofReports (reports : List CheckReport) (configured : Nat) : Health where
  total := max reports.length configured
  passing := reports.countP (·.status == .passing)
  warning := reports.countP (·.status == .warning)
  critical := reports.countP (·.status == .critical)

/-- Whether every check passes. -/
def allPassing (h : Health) : Bool := h.passing == h.total

/-- A count with its word, when it is not zero. -/
def countText (n : Nat) (word : String) : String :=
  if n = 0 then "" else ", " ++ toString n ++ " " ++ word

/-- A short account of the counts, empty without checks. -/
def summary (h : Health) : String :=
  if h.total = 0 then ""
  else
    toString h.total ++ " total" ++ countText h.passing "passing" ++ countText h.warning "warning"
      ++ countText h.critical "critical"

end Health

/-- Outcomes of checks as their words. -/
def CheckState.codec : Codec CheckState :=
  .named ([CheckState.passing, .warning, .critical].map (fun s => (s.name, s))) CheckState.name

/-- The fields of `CheckReport`. -/
def CheckReport.record : Record CheckReport where
  blank := {}
  members := [
    .required "name" Codec.string (·.name) (fun v s => { s with name := v }),
    .required "status" CheckState.codec (·.status) (fun v s => { s with status := v }),
    .defaulted "output" Codec.string "" (·.output) (fun v s => { s with output := v }),
    .optional "updated_at" Codec.string (·.updatedAt) (fun v s => { s with updatedAt := v })]

end Rollout.Machine
