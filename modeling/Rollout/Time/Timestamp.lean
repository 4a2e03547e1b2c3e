import Rollout.Json.Codec

/-!
# Timestamps

Milliseconds since the start of 1970, within the years that a calendar date can be written for:
-262143 to 262142.
-/

namespace Rollout

/-- An instant of the calendar, to the millisecond. -/
structure Timestamp where
  millis : Int
  least_le : -8334601228800000 ≤ millis := by decide
  le_greatest : millis ≤ 8210266876799999 := by decide
deriving DecidableEq

namespace Timestamp

instance : Inhabited Timestamp := ⟨{ millis := 0 }⟩

/-- The timestamp of a number of milliseconds, if there is one. -/
def ofMillis? (millis : Int) : Option Timestamp :=
  if hl : -8334601228800000 ≤ millis then
    if hg : millis ≤ 8210266876799999 then some ⟨millis, hl, hg⟩ else none
  else none

/-- A timestamp is the one of its milliseconds. -/
theorem ofMillis?_millis (t : Timestamp) : ofMillis? t.millis = some t := by
  simp [ofMillis?, t.least_le, t.le_greatest]

/-- Timestamps as their milliseconds. -/
def codec : Codec Timestamp where
  encode t := .int t.millis
  decode
    | .int n => ofMillis? n
    | _ => none

theorem codec_lawful : codec.Lawful := fun t => t.ofMillis?_millis

end Timestamp

end Rollout
