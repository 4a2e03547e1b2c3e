import Rollout.LogFilter.Directive

/-!
# Log filters

A filter says which messages of a run are shown. It is a list of directives, divided by commas.
Of the directives that concern a message the one with the longest target decides.

What a directive says about a span concerns no message here, because nothing is shown from within
spans; and a message has one field, `message`.
-/

namespace Rollout

/-- A filter of log messages. -/
abbrev LogFilter : Type := List LogDirective

namespace LogFilter

/-- The filter that lets messages through down to a level. -/
def ofLevel (level : LogLevel) : LogFilter := [{ level := some level }]

/-- The parts of a text between commas. -/
def parts (text : String) : List (List Char) := Text.partsAt ',' text.toList

/-- Reads a filter. An empty one lets nothing through, and the first directive with a flaw decides
what is wrong. -/
def ofText (text : String) : Except LogDirective.Flaw LogFilter :=
  ((parts text).filter (!·.isEmpty)).mapM LogDirective.ofText

/-- Whether a weight is at least another. -/
def isNarrower (v w : Nat × Nat) : Bool := w.1 < v.1 || (w.1 = v.1 && w.2 ≤ v.2)

/-- The directive that decides about the messages of a part of the program: the narrowest, and
the last of several. -/
def decisive (f : LogFilter) (part : String) : Option LogDirective :=
  f.foldl (fun best d =>
    -- A directive that is as narrow as the best so far replaces it.
    if d.concerns part && best.all (fun b => isNarrower d.weight b.weight) then some d else best)
    none

/-- Whether messages of a level from a part of the program are shown. -/
def shows (f : LogFilter) (level : LogLevel) (part : String) : Bool :=
  ((f.decisive part).bind (·.level)).any (level.rank ≤ ·.rank)

end LogFilter

end Rollout
