import Rollout.Json.Basic
import Rollout.Text.Number

/-!
# Reading JSON text

`Json.read?` accepts one value with blanks around it and nothing after it. Blanks are space,
tab, line feed and carriage return. Containers may be nested as deep as the text is long: how
deep a value may be is decided where it is decoded.
-/

namespace Rollout.Json

/-- Whether a character may stand between tokens. -/
def isBlank (c : Char) : Bool :=
  c == ' ' || c == '\t' || c == '\n' || c == '\r'

/-- The text after the blanks it starts with. -/
def skipBlanks (text : List Char) : List Char :=
  text.dropWhile isBlank

/-! ## Text literals -/

/-- What a literal spells at one place: a character, or a UTF-16 unit given by its number. -/
inductive Piece where
  | char (c : Char)
  | unit (n : Nat)

/-- The number that four hexadecimal digits write. -/
def hexUnit? (a b c d : Char) : Option Nat := do
  let digit := Text.hexDigit?
  return (((← digit a) * 16 + (← digit b)) * 16 + (← digit c)) * 16 + (← digit d)

/-- The character that a backslash followed by this one stands for. -/
def escaped? : Char → Option Char
  | '"' => some '"'
  | '\\' => some '\\'
  | '/' => some '/'
  | 'b' => some '\x08'
  | 'f' => some '\x0c'
  | 'n' => some '\n'
  | 'r' => some '\r'
  | 't' => some '\t'
  | _ => none

/-- The pieces up to the closing quote, and the text after it. Control characters have to be
escaped. -/
def pieces? (done : List Piece) : List Char → Option (List Piece × List Char)
  | '"' :: rest => some (done.reverse, rest)
  | '\\' :: 'u' :: a :: b :: c :: d :: rest =>
    match hexUnit? a b c d with
    | some n => pieces? (.unit n :: done) rest
    | none => none
  | '\\' :: e :: rest =>
    match escaped? e with
    | some c => pieces? (.char c :: done) rest
    | none => none
  | c :: rest => if c.toNat < 0x20 then none else pieces? (.char c :: done) rest
  | [] => none

/-- Whether a UTF-16 unit is the first of a surrogate pair. -/
def isHighUnit (n : Nat) : Bool := 0xD800 ≤ n && n < 0xDC00

/-- Whether a UTF-16 unit is the second of a surrogate pair. -/
def isLowUnit (n : Nat) : Bool := 0xDC00 ≤ n && n < 0xE000

/-- The characters that pieces spell, unless half a surrogate pair stands alone. -/
def assemble? (done : List Char) : List Piece → Option (List Char)
  | [] => some done.reverse
  | .char c :: rest => assemble? (c :: done) rest
  | .unit h :: .unit l :: rest =>
    if isHighUnit h && isLowUnit l then
      assemble? (Char.ofNat (0x10000 + (h - 0xD800) * 0x400 + (l - 0xDC00)) :: done) rest
    else if isHighUnit h || isLowUnit h then none
    -- The second unit was only looked at: it may begin a pair of its own.
    else assemble? (Char.ofNat h :: done) (.unit l :: rest)
  | .unit n :: rest =>
    if isHighUnit n || isLowUnit n then none else assemble? (Char.ofNat n :: done) rest

/-- The text literal after its opening quote: what it denotes, if anything, and what follows. -/
def textLiteral? (text : List Char) : Option (Option String × List Char) :=
  (pieces? [] text).map fun (ps, rest) => ((assemble? [] ps).map String.ofList, rest)

/-! ## Numbers -/

/-- The number that a list of decimal digits writes. -/
def ofDigits (digits : List Char) : Nat :=
  digits.foldl (fun n c => n * 10 + (c.toNat - '0'.toNat)) 0

/-- The number that digits write after those of another one, as long as it fits in a word, and
the digits that are left. -/
def takeWord (n : Nat) : List Char → Nat × List Char
  | [] => (n, [])
  | c :: rest =>
    let m := n * 10 + ofDigits [c]
    if m < UInt64.size then takeWord m rest else (n, c :: rest)

/-- A word and an exponent of ten that come near a number. Digits that do not fit in the word are
dropped. -/
def approximation (whole fraction : List Char) : Nat × Int :=
  let (n, dropped) := takeWord 0 whole
  let (n, rest) := takeWord n fraction
  (n, dropped.length - (fraction.length - rest.length : Nat))

/-- A whole number to the 53 bits of a double. Half a unit goes to the even neighbour. -/
def roundToDouble (n : Nat) : Nat :=
  let unit := Nat.pow 2 (n.log2 - 52)
  let rest := 2 * (n % unit)
  let isUp := unit < rest || (rest == unit && n / unit % 2 == 1)
  (n / unit + if isUp then 1 else 0) * unit

/-- The least magnitude that rounds beyond the largest double. -/
def overflowBound : Nat := Nat.pow 2 1024 - Nat.pow 2 970

/-- Whether the product of a word and a power of ten, both rounded to doubles, is a finite double.
The powers of ten that are doubles end with 308. -/
def isFinite (n : Nat) (exponent : Int) : Bool :=
  n == 0 || exponent < 0 ||
    (exponent ≤ 308
      && roundToDouble n * roundToDouble (Nat.pow 10 exponent.toNat) < overflowBound)

/-- Whether a whole number fits in 64 bits, unsigned if it is positive and signed if not. -/
def fitsWord (n : Int) : Bool := Int64.minValue.toInt ≤ n && n < UInt64.size

/-- The value of a number literal in its parts. Minus zero is no integer. -/
def number (negative : Bool) (whole fraction : List Char) (exponent : Option Int) : Json :=
  let plain : Int := if negative then -ofDigits whole else ofDigits whole
  if fraction.isEmpty && exponent.isNone && fitsWord plain && !(negative && plain == 0) then
    .int plain
  else
    let (n, scale) := approximation whole fraction
    if isFinite n (scale + exponent.getD 0) then
      .decimal negative (ofDigits (whole ++ fraction)) (exponent.getD 0 - fraction.length)
    else .malformed

/-- At least one digit, and what follows the digits. -/
def digits? (text : List Char) : Option (List Char × List Char) :=
  match text.span Char.isDigit with
  | ([], _) => none
  | found => some found

/-- The whole part of a number: a zero alone, or digits that start with another one. -/
def wholePart? : List Char → Option (List Char × List Char)
  | '0' :: rest => if (rest.head?.map Char.isDigit).getD false then none else some (['0'], rest)
  | text => digits? text

/-- The digits after a point, none if there is no point. -/
def fractionPart? : List Char → Option (List Char × List Char)
  | '.' :: rest => digits? rest
  | text => some ([], text)

/-- The exponent of a number, if it has one. -/
def exponentPart? : List Char → Option (Option Int × List Char)
  | 'e' :: rest | 'E' :: rest =>
    match rest with
    | '-' :: rest => (digits? rest).map fun (ds, r) => (some (-ofDigits ds), r)
    | '+' :: rest => (digits? rest).map fun (ds, r) => (some ↑(ofDigits ds), r)
    | rest => (digits? rest).map fun (ds, r) => (some ↑(ofDigits ds), r)
  | text => some (none, text)

/-- A number literal and what follows it. -/
def number? (text : List Char) : Option (Json × List Char) := do
  let (negative, text) := match text with
    | '-' :: rest => (true, rest)
    | text => (false, text)
  let (whole, text) ← wholePart? text
  let (fraction, text) ← fractionPart? text
  let (exponent, text) ← exponentPart? text
  return (number negative whole fraction exponent, text)

/-! ## Values -/

/-- The object that members make, of which each name has to denote text. -/
def objectOf (members : List (Option String × Json)) : Json :=
  match members.mapM (fun (name, value) => name.map (·, value)) with
  | some named => .object named
  | none => .malformed

mutual

/-- One value and what follows it. Each call uses a unit of `fuel`. -/
def value? : (fuel : Nat) → List Char → Option (Json × List Char)
  | 0, _ => none
  | fuel + 1, text =>
    match skipBlanks text with
    | 'n' :: 'u' :: 'l' :: 'l' :: rest => some (.null, rest)
    | 't' :: 'r' :: 'u' :: 'e' :: rest => some (.bool true, rest)
    | 'f' :: 'a' :: 'l' :: 's' :: 'e' :: rest => some (.bool false, rest)
    | '"' :: rest =>
      (textLiteral? rest).map fun (literal, rest) => (literal.elim .malformed .string, rest)
    | '[' :: rest =>
      match skipBlanks rest with
      | ']' :: rest => some (.array [], rest)
      | rest => items? fuel [] rest
    | '\x7b' :: rest =>
      match skipBlanks rest with
      | '\x7d' :: rest => some (.object [], rest)
      | rest => members? fuel [] rest
    | text => number? text

/-- The items of an array up to its closing bracket. -/
def items? : (fuel : Nat) → List Json → List Char → Option (Json × List Char)
  | 0, _, _ => none
  | fuel + 1, done, text =>
    match value? fuel text with
    | none => none
    | some (item, rest) =>
      match skipBlanks rest with
      | ',' :: rest => items? fuel (item :: done) rest
      | ']' :: rest => some (.array (item :: done).reverse, rest)
      | _ => none

/-- The members of an object up to its closing brace. -/
def members? : (fuel : Nat) → List (Option String × Json) → List Char → Option (Json × List Char)
  | 0, _, _ => none
  | fuel + 1, done, text =>
    match skipBlanks text with
    | '"' :: rest =>
      match textLiteral? rest with
      | none => none
      | some (name, rest) =>
        match skipBlanks rest with
        | ':' :: rest =>
          match value? fuel rest with
          | none => none
          | some (value, rest) =>
            match skipBlanks rest with
            | ',' :: rest => members? fuel ((name, value) :: done) rest
            | '\x7d' :: rest => some (objectOf ((name, value) :: done).reverse, rest)
            | _ => none
        | _ => none
    | _ => none

end

/-- The value a text holds. An item or a nesting level takes at least one character and two
calls, so twice the length is enough fuel. -/
def read? (text : String) : Option Json :=
  match value? (2 * text.length + 2) text.toList with
  | some (value, rest) => if (skipBlanks rest).isEmpty then some value else none
  | none => none

end Rollout.Json
