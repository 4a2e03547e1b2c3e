import Rollout.Http.Url.Domain
import Rollout.Http.Url.Percent

/-!
# Hosts in URLs

A host is a domain name or an address. A name that ends in a number has to be an address of the
fourth version of the protocol, which may be written in several ways; one in brackets has to be
of the sixth. Each is read into the one way it is written.
-/

namespace Rollout.Http.Host

open Rollout.Text

/-- The value of digits in a base, all of which have to be digits of it. -/
def number? (base : Nat) (cs : List Char) : Option Nat :=
  cs.foldlM (fun n c =>
    (hexDigit? c).bind fun d => if d < base then some (n * base + d) else none) 0

/-! ## Addresses of the fourth version -/

/-- A part of an address: decimal, octal after `0`, hexadecimal after `0x`. -/
def addressPart? : List Char → Option Nat
  | [] => none
  | '0' :: 'x' :: rest | '0' :: 'X' :: rest => number? 16 rest
  | ['0'] => some 0
  | '0' :: rest => number? 8 rest
  | cs => number? 10 cs

/-- The parts of a name, without the empty one after a last dot. -/
def nameParts (cs : List Char) : List (List Char) :=
  let ps := partsAt '.' cs
  if 1 < ps.length && ps.getLast? == some [] then ps.dropLast else ps

/-- Whether the last part of a name is a number. -/
def endsInNumber (cs : List Char) : Bool :=
  match (nameParts cs).getLast? with
  | some last =>
    (!last.isEmpty && last.all Char.isDigit)
      || ((addressPart? last).isSome && (last.take 2 == ['0', 'x'] || last.take 2 == ['0', 'X']))
  | none => false

/-- The address that a name stands for. All parts but the last are bytes; the last one fills what
is left. -/
def fourth? (cs : List Char) : Option Nat :=
  let ps := nameParts cs
  if 4 < ps.length then none
  else
    (ps.mapM addressPart?).bind fun ns =>
      let bytes := ns.dropLast
      let last := ns.getLastD 0
      if bytes.all (· < 256) && last < Nat.pow 256 (4 - bytes.length) then
        some (bytes.zipIdx.foldl (fun n (b, i) => n + b * Nat.pow 256 (3 - i)) last)
      else none

/-- An address of the fourth version as it is written. -/
def fourthText (n : Nat) : String :=
  ".".intercalate ([3, 2, 1, 0].map fun i => toString (n / Nat.pow 256 i % 256))

/-! ## Addresses of the sixth version -/

/-- A group of an address: up to four hexadecimal digits. -/
def group? (cs : List Char) : Option Nat :=
  if cs.isEmpty || 4 < cs.length then none else number? 16 cs

/-- A byte in decimal, without leading zeros. -/
def byte? (cs : List Char) : Option Nat :=
  if cs.isEmpty || 3 < cs.length || (1 < cs.length && cs.head? == some '0') then none
  else (number? 10 cs).filter (· < 256)

/-- The groups of a part of an address, the last of which may be written as four bytes where the
address ends. -/
def groups? (isEnd : Bool) (cs : List Char) : Option (List Nat) :=
  if cs.isEmpty then some []
  else
    let ps := partsAt ':' cs
    let last := ps.getLastD []
    if isEnd && last.contains '.' then
      match ps.dropLast.mapM group?, (partsAt '.' last).mapM byte? with
      | some gs, some [a, b, c, d] => some (gs ++ [a * 256 + b, c * 256 + d])
      | _, _ => none
    else ps.mapM group?

/-- The parts of a text before and after the first `::`. -/
def splitGap : List Char → Option (List Char × List Char)
  | ':' :: ':' :: rest => some ([], rest)
  | [] => none
  | c :: rest => (splitGap rest).map fun (a, b) => (c :: a, b)

/-- The eight groups of an address. Two colons stand for one group of zero at least. -/
def sixth? (cs : List Char) : Option (List Nat) :=
  match splitGap cs with
  | none => (groups? true cs).filter (·.length = 8)
  | some (before, after) =>
    match groups? false before, groups? true after with
    | some a, some b =>
      -- Eight groups written out leave no room for the colons to stand for one.
      if a.length + b.length < 8 then some (a ++ List.replicate (8 - a.length - b.length) 0 ++ b)
      else none
    | _, _ => none

/-- A number in small hexadecimal digits. -/
def hexText (n : Nat) : String := String.ofList (Nat.toDigits 16 n)

/-- How many zeros a list starts with. -/
def zeros (gs : List Nat) : Nat := (gs.takeWhile (· == 0)).length

/-- Where the first of the longest runs of zeros starts, and its length. -/
def longestGap (gs : List Nat) : Nat × Nat :=
  (List.range gs.length).foldl (fun best i =>
    let n := zeros (gs.drop i)
    if best.2 < n then (i, n) else best) (0, 0)

/-- An address of the sixth version as it is written: the longest run of zeros as two colons. -/
def sixthText (gs : List Nat) : String :=
  let (start, length) := longestGap gs
  let written (gs : List Nat) : String := ":".intercalate (gs.map hexText)
  if length < 2 then "[" ++ written gs ++ "]"
  else "[" ++ written (gs.take start) ++ "::" ++ written (gs.drop (start + length)) ++ "]"

/-! ## Names -/

/-- Whether a character may not stand in a host. -/
def isForbidden (c : Char) : Bool :=
  c.toNat = 0 || "\t\n\r #/:<>?@[\\]^|".toList.contains c

/-- The host of a URL on the web, as it is written. -/
def ofWeb? (cs : List Char) : Option String :=
  match cs with
  | '[' :: rest =>
    if rest.getLast? == some ']' then (sixth? rest.dropLast).map sixthText else none
  | cs =>
    ((Percent.decodeText? (String.ofList cs)).bind (Domain.written? ·.toList)).bind fun name =>
      if name.isEmpty then none
      else if endsInNumber name then (fourth? name).map fourthText
      else some (String.ofList name)

/-- The host of a URL that is not on the web, as it is written. -/
def ofOther? (cs : List Char) : Option String :=
  match cs with
  | '[' :: rest =>
    if rest.getLast? == some ']' then (sixth? rest.dropLast).map sixthText else none
  | cs =>
    if cs.any isForbidden then none else some (String.ofList (Percent.encode [] cs))

end Rollout.Http.Host
