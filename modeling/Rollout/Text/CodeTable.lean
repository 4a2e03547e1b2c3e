import Rollout.Text.Blank
import Rollout.Text.Number
import Rollout.Text.Split

/-!
# Tables of code points

What Unicode says of its characters is kept in texts, which are read into tables once. There are
two kinds of texts. One lists ranges of code points, each by its first and its last in
hexadecimal digits, and may say something of each: `300-314:230 315:232 AD`. The other maps code
points to others: `C0=E0-F6 132=69.6A,135` takes `C0` and the code points after it to `E0` to
`F6`, `132` to the two code points `69` and `6A`, and `133` to `135`.

A table is searched by halves, so its ranges have to be in ascending order and apart.
-/

namespace Rollout.Text

/-- Code points that follow each other, and what is said of them. -/
structure CodeRange (α : Type) where
  first : Nat
  last : Nat
  value : α
deriving Inhabited

/-- A table of code points. -/
structure CodeTable (α : Type) where
  ranges : Array (CodeRange α)
deriving Inhabited

namespace CodeTable

variable {α : Type}

/-- The range that a code point lies in, among those from a place up to another. -/
def search (t : CodeTable α) (code low high : Nat) : Option (CodeRange α) :=
  if low < high then
    let middle := (low + high) / 2
    match t.ranges[middle]? with
    | none => none
    | some r =>
      if code < r.first then search t code low middle
      else if r.last < code then search t code (middle + 1) high
      else some r
  else none
termination_by high - low

/-- The range that a character lies in. -/
def find? (t : CodeTable α) (c : Char) : Option (CodeRange α) := t.search c.toNat 0 t.ranges.size

/-- What is said of a character. -/
def get? (t : CodeTable α) (c : Char) : Option α := (t.find? c).map (·.value)

/-- The table that says something else of the same characters. -/
def map {β : Type} (f : α → β) (t : CodeTable α) : CodeTable β where
  ranges := t.ranges.map fun r => { first := r.first, last := r.last, value := f r.value }

/-- Whether a character lies in one of the ranges. -/
def contains (t : CodeTable α) (c : Char) : Bool := (t.find? c).isSome

end CodeTable

/-! ## Reading -/

/-- The number that hexadecimal digits write. -/
def ofHex (digits : List Char) : Nat :=
  digits.foldl (fun n c => n * 16 + (hexDigit? c).getD 0) 0

/-- The first and the last code point of a range. -/
def bounds (cs : List Char) : Nat × Nat :=
  let (first, last) := cutAt '-' cs
  (ofHex first, if last.isEmpty then ofHex first else ofHex last)

/-- The table of a list of ranges, with what is said of them. -/
def rangeTable (text : String) : CodeTable String where
  ranges := ((words text).map fun word =>
    let (range, value) := cutAt ':' word.toList
    let (first, last) := bounds range
    { first := first, last := last, value := String.ofList value }).toArray

/-- Where code points go: to the code points before the last, and to the last, which moves on
with every code point of the range. -/
structure CodeTarget where
  before : List Nat := []
  last : Nat
deriving Inhabited

/-- The range from a code point on that an item of a map describes. -/
def targetRange (start : Nat) (item : List Char) : CodeRange CodeTarget :=
  match (partsAt '.' item).map ofHex with
  | [_] =>
    let (first, last) := bounds item
    { first := start, last := start + (last - first), value := { last := first } }
  | codes =>
    { first := start, last := start, value := ⟨codes.dropLast, codes.getLastD 0⟩ }

/-- The ranges from a code point on that the items of a map describe. -/
def targetRanges (start : Nat) : List (List Char) → List (CodeRange CodeTarget)
  | [] => []
  | item :: rest =>
    let r := targetRange start item
    r :: targetRanges (r.last + 1) rest

/-- A map of code points. -/
abbrev CodeMap : Type := CodeTable CodeTarget

/-- The map that a text describes. -/
def codeMap (text : String) : CodeMap where
  ranges := ((words text).flatMap fun word =>
    let (start, items) := cutAt '=' word.toList
    targetRanges (ofHex start) (partsAt ',' items)).toArray

/-- Where a map takes a character, if it says so. -/
def CodeTable.image? (m : CodeMap) (c : Char) : Option (List Char) :=
  (m.find? c).map fun r =>
    (r.value.before ++ [r.value.last + (c.toNat - r.first)]).map Char.ofNat

end Rollout.Text
