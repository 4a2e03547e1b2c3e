/-!
# Numbers in a text

Natural numbers as decimal digits write them, and the values of hexadecimal digits.
-/

namespace Rollout.Text

/-- The number that decimal digits write, at least one and nothing else. -/
def digits? (cs : List Char) : Option Nat :=
  if cs.isEmpty || !cs.all Char.isDigit then none
  else some (cs.foldl (fun n c => n * 10 + (c.toNat - '0'.toNat)) 0)

/-- A number of 64 bits, with an optional plus sign. -/
def word? (cs : List Char) : Option Nat :=
  (digits? (match cs with | '+' :: rest => rest | cs => cs)).filter (· < UInt64.size)

/-- The value of a hexadecimal digit. -/
def hexDigit? (c : Char) : Option Nat :=
  if '0' ≤ c ∧ c ≤ '9' then some (c.toNat - '0'.toNat)
  else if 'a' ≤ c ∧ c ≤ 'f' then some (c.toNat - 'a'.toNat + 10)
  else if 'A' ≤ c ∧ c ≤ 'F' then some (c.toNat - 'A'.toNat + 10)
  else none

end Rollout.Text
