/-!
# Punycode

A label of a domain name with characters outside ASCII is written in ASCII: first its ASCII
characters, then, in the order of code points, where the others go. Each of those is a number of
steps since the one before, in digits whose range adapts to the numbers seen so far.
-/

namespace Rollout.Http.Punycode

/-- A digit: `a` to `z`, then `0` to `9`. -/
def digit (n : Nat) : Char := "abcdefghijklmnopqrstuvwxyz0123456789".toList[n]?.getD 'a'

/-- The least value of the digit at a position that is not the last digit of its number. -/
def threshold (position bias : Nat) : Nat := max 1 (min 26 (position - bias))

/-- Divides a number by 35 until it is small. Gives the rest and 36 for each division. -/
def scale (n k : Nat) : Nat × Nat :=
  if 455 < n then scale (n / 35) (k + 36) else (n, k)
termination_by n

/-- The bias after a number, of which `count` have been written. -/
def adapt (steps count : Nat) (isFirst : Bool) : Nat :=
  -- The first number leads from ASCII to the script of the label and says little of the others.
  let steps := if isFirst then steps / 700 else steps / 2
  let (n, k) := scale (steps + steps / count) 0
  k + 36 * n / (n + 38)

theorem one_le_threshold (position bias : Nat) : 1 ≤ threshold position bias :=
  Nat.le_max_left _ _

/-- The digits of a number. Every digit but the last makes the number smaller. -/
def digits (bias position n : Nat) : List Char :=
  let t := threshold position bias
  if n < t then [digit n]
  else digit (t + (n - t) % (36 - t)) :: digits bias (position + 36) ((n - t) / (36 - t))
termination_by n
decreasing_by
  -- What is divided is smaller already, because a threshold is never zero.
  have ht := one_le_threshold position bias
  have hd := Nat.div_le_self (n - threshold position bias) (36 - threshold position bias)
  omega

/-! ## Writing -/

/-- What has been written of a label. -/
structure Progress where
  output : List Char
  /-- Steps since the last number. -/
  steps : Nat
  bias : Nat
  /-- Characters that have a place. -/
  placed : Nat

/-- Goes past a character of the label while those of code point `m` are given a place. -/
def pass (basic m : Nat) (p : Progress) (c : Char) : Progress :=
  if c.toNat < m then { p with steps := p.steps + 1 }
  else if c.toNat = m then
    { output := p.output ++ digits p.bias 36 p.steps, steps := 0,
      bias := adapt p.steps (p.placed + 1) (p.placed == basic), placed := p.placed + 1 }
  else p

/-- Gives the characters of each code point a place, least code point first. -/
def placeAll (label : List Char) (basic : Nat) : List Nat → Nat → Progress → Progress
  | [], _, p => p
  | m :: rest, n, p =>
    let p := { p with steps := p.steps + (m - n) * (p.placed + 1) }
    let p := label.foldl (pass basic m) p
    placeAll label basic rest (m + 1) { p with steps := p.steps + 1 }

/-- The written form of a label. -/
def encode (label : List Char) : List Char :=
  let basic := label.filter (·.toNat < 0x80)
  let others := ((label.filter (0x80 ≤ ·.toNat)).map (·.toNat)).mergeSort.eraseDups
  basic ++ (if basic.isEmpty then [] else ['-'])
    ++ (placeAll label basic.length others 0x80 ⟨[], 0, 72, basic.length⟩).output

/-! ## Reading -/

/-- What has been read of a label. -/
structure Reading where
  output : List Char
  /-- The code point of the last character given a place. -/
  code : Nat := 0x80
  /-- The place behind that character, and the steps of the number being read. -/
  place : Nat := 0
  bias : Nat := 72
  /-- The place where the number being read started. -/
  start : Nat := 0
  /-- The position of the next digit of the number, and what its one stands for. -/
  position : Nat := 36
  weight : Nat := 1

/-- The value of a digit. -/
def value? (c : Char) : Option Nat :=
  if 'a' ≤ c ∧ c ≤ 'z' then some (c.toNat - 'a'.toNat)
  else if c.isDigit then some (c.toNat - '0'.toNat + 26)
  else none

/-- One more than the largest number that is read. -/
def limit : Nat := 0x100000000

/-- Gives the character that the number just read stands for its place. -/
def insert? (r : Reading) : Option Reading :=
  let size := r.output.length + 1
  let code := r.code + r.place / size
  let place := r.place % size
  if code.isValidChar then
    some {
      output := r.output.take place ++ Char.ofNat code :: r.output.drop place
      code := code, place := place + 1, start := place + 1
      bias := adapt (r.place - r.start) size (r.start == 0) }
  else none

/-- Reads a digit. -/
def read? (r : Reading) (c : Char) : Option Reading :=
  (value? c).bind fun d =>
    let t := threshold r.position r.bias
    let r := { r with place := r.place + d * r.weight }
    if limit ≤ r.place then none
    else if d < t then insert? r
    else if limit ≤ r.weight * (36 - t) then none
    else some { r with position := r.position + 36, weight := r.weight * (36 - t) }

/-- The label that a text is the written form of. The numbers are behind the last hyphen, which
has to have something before it. -/
def decode? (cs : List Char) : Option (List Char) :=
  let (numbers, basic) := cs.reverse.span (· != '-')
  let start : List Char × List Char := match basic with
    | [] | [_] => ([], cs)
    | _ :: basic => (basic.reverse, numbers.reverse)
  (start.2.foldlM read? { output := start.1 }).bind fun r =>
    -- The last number has to have come to its end.
    if r.position = 36 then some r.output else none

end Rollout.Http.Punycode
