import Rollout.Text.Blank
import Rollout.Text.Letter
import Rollout.Text.Number

/-!
# Patterns

A directive of a log filter may ask for the value of a field with a pattern, a regular
expression. Nothing is matched with patterns here, but one that cannot be used spoils the filter.
`Pattern.isUsable` reads a pattern and tells whether it can be.

Besides what is not well formed, three kinds of patterns can't be used. Those that need a table
of Unicode: classes such as letters and digits, the bounds of words, and letters whose case does
not matter, all of which are left only where Unicode is switched off. Those that match bytes that
are no text, which are possible only there. And those nested too deeply.

In a directive a pattern ends before the first closing brace, so no count of repetitions in
braces is ever complete.
-/

namespace Rollout.Pattern

/-- What the flags around a part of a pattern say of it. -/
structure Scope where
  /-- Blanks and comments are passed over. -/
  verbose : Bool := false
  /-- The case of letters does not matter. -/
  caseless : Bool := false
  /-- What is matched are characters and not bytes. -/
  unicode : Bool := true

namespace Scope

/-- What follows blanks and comments, which go to the end of the line. -/
def skipBlanks (inComment : Bool) : List Char → List Char
  | [] => []
  | c :: rest =>
    if inComment then skipBlanks (c != '\n') rest
    else if Text.isBlank c then skipBlanks false rest
    else if c = '#' then skipBlanks true rest
    else c :: rest

/-- What follows that which is passed over in a scope. -/
def skip (s : Scope) (cs : List Char) : List Char :=
  if s.verbose then skipBlanks false cs else cs

/-- The first character that is not passed over. Of a comment only the sign is. -/
def peek? (s : Scope) (cs : List Char) : Option Char :=
  if s.verbose then
    match cs.dropWhile Text.isBlank with
    | '#' :: rest => (rest.dropWhile Text.isBlank).head?
    | cs => cs.head?
  else cs.head?

/-- The scope within the flags that are written, some of them switched off behind a hyphen. Each
may be written once. -/
def flagged? (s : Scope) (flags : List Char) : Option Scope :=
  if flags.all ("imsUuRx-".toList.contains ·) && flags.eraseDups.length == flags.length
      && flags.getLast?.all (· != '-') then
    let on := flags.takeWhile (· != '-')
    let set (flag : Char) (before : Bool) : Bool :=
      if flags.contains flag then on.contains flag else before
    some {
      verbose := set 'x' s.verbose, caseless := set 'i' s.caseless, unicode := set 'u' s.unicode }
  else none

end Scope

/-! ## Single characters -/

/-- What a character, or a backslash and what belongs to it, stands for. -/
inductive Atom where
  /-- A character, which two hexadecimal digits may write as a byte. -/
  | literal (c : Char) (isByte : Bool)
  /-- A class of characters. -/
  | named (isNegated : Bool)
  /-- A place, which may be at the bounds of a word. -/
  | place (isWord : Bool)

namespace Atom

/-- The number that so many hexadecimal digits write. -/
def hex? (s : Scope) (n : Nat) : Nat → List Char → Option (Nat × List Char)
  | 0, cs => some (n, cs)
  | count + 1, cs =>
    match s.skip cs with
    | [] => none
    | c :: rest => (Text.hexDigit? c).bind fun d => hex? s (n * 16 + d) count rest

/-- The character that so many hexadecimal digits write. -/
def coded? (s : Scope) (count : Nat) (cs : List Char) : Option (Atom × List Char) :=
  (hex? s 0 count cs).bind fun (n, rest) =>
    if n.isValidChar then some (.literal (Char.ofNat n) (count = 2), rest) else none

/-- The characters that letters behind a backslash stand for. -/
def controls : List (Char × Char) :=
  [('a', '\x07'), ('f', '\x0c'), ('t', '\t'), ('n', '\n'), ('r', '\r'), ('v', '\x0b')]

/-- Reads what follows a backslash. -/
def escaped? (s : Scope) : List Char → Option (Atom × List Char)
  | [] => none
  | c :: rest =>
    match controls.lookup c with
    | some control => some (.literal control false, rest)
    | none =>
      if c = 'x' then coded? s 2 rest
      else if c = 'u' then coded? s 4 rest
      else if c = 'U' then coded? s 8 rest
      else if "dsw".toList.contains c then some (.named false, rest)
      else if "DSW".toList.contains c then some (.named true, rest)
      else if "bB<>".toList.contains c then some (.place true, rest)
      else if "Az".toList.contains c then some (.place false, rest)
      -- Properties of characters are all up to tables, and other letters have no meaning.
      else if c.toNat < 0x80 && !c.isAlphanum then some (.literal c false, rest)
      else none

/-- Whether an atom can be used on its own. -/
def isUsable (s : Scope) : Atom → Bool
  | literal c isByte =>
    if s.unicode then !s.caseless else c.toNat < 0x80 || !(isByte || s.caseless)
  | named isNegated => !s.unicode && !isNegated
  | place isWord => !(s.unicode && isWord)

/-- Whether an atom can be used in brackets. -/
def isMember (s : Scope) : Atom → Bool
  | literal c _ => s.unicode || c.toNat < 0x80
  | named isNegated => !s.unicode && !isNegated
  | place _ => false

end Atom

/-! ## Depth -/

/-- The depth of parts in a row, or of choices. One alone is not nested in anything. -/
def depthOf : List Nat → Nat
  | [] => 0
  | [d] => d
  | ds => ds.foldl max 0 + 1

/-- The greatest depth of a pattern. -/
def maxDepth : Nat := 250

/-! ## Brackets -/

/-- The names of classes within brackets. -/
def classNames : List String := ["alnum", "alpha", "ascii", "blank", "cntrl", "digit", "graph",
  "lower", "print", "punct", "space", "upper", "word", "xdigit"]

/-- Reads a class by name behind its bracket, and tells whether it is negated. -/
def className? : List Char → Option (Bool × List Char)
  | ':' :: rest =>
    let (isNegated, rest) := match rest with
      | '^' :: rest => (true, rest)
      | rest => (false, rest)
    match rest.span (· != ':') with
    | (name, ':' :: ']' :: rest) =>
      if classNames.contains (String.ofList name) then some (isNegated, rest) else none
    | _ => none
  | _ => none

/-- Reads a character between brackets. -/
def member? (s : Scope) : List Char → Option (Atom × List Char)
  | [] => none
  | '\\' :: rest => Atom.escaped? s rest
  | c :: rest => some (.literal c false, rest)

/-- Reads a character between brackets, or a range of them. -/
def range? (s : Scope) (cs : List Char) : Option (List Char) :=
  (member? s cs).bind fun (a, rest) =>
    let alone := if a.isMember s then some rest else none
    match s.skip rest with
    | [] => none
    | '-' :: more =>
      -- A hyphen before the end, or before another one, makes no range.
      if s.peek? more == some ']' || s.peek? more == some '-' then alone
      else
        (member? s (s.skip more)).bind fun (b, rest) =>
          match a, b with
          | .literal first _, .literal last _ =>
            if first ≤ last && a.isMember s && b.isMember s then some rest else none
          | _, _ => none
    | _ => alone

/-- The set read so far between brackets: the depth of what is before the last operator, and
those of what has been united since. -/
structure Members where
  operand : Option Nat := none
  united : List Nat := []

namespace Members

/-- The depth of all that has been read. -/
def depth (m : Members) : Nat :=
  match m.operand with
  | none => depthOf m.united
  | some d => max d (depthOf m.united) + 1

/-- Adds something of a depth. -/
def add (m : Members) (depth : Nat) : Members := { m with united := depth :: m.united }

/-- Goes on behind an operator. -/
def operate (m : Members) : Members := { operand := some m.depth }

end Members

/-- What an opening bracket opens: whether it is negated, and what follows. -/
def opened (s : Scope) (cs : List Char) : Bool × List Char :=
  match s.skip cs with
  | '^' :: rest => (true, rest)
  | cs => (false, cs)

/-- Whether a class between brackets can be used. -/
def isClassUsable (s : Scope) (isNegated : Bool) : Bool :=
  if s.unicode then !s.caseless else !isNegated

/-- Reads up to the closing bracket. Gives the depth of what is between, and what follows. At the
start hyphens stand for themselves, and so does a closing bracket. Each call uses a unit of
`fuel`. -/
def members? : (fuel : Nat) → Scope → (atStart : Bool) → Members → List Char →
    Option (Nat × List Char)
  | 0, _, _, _, _ => none
  | fuel + 1, s, atStart, m, cs =>
    match s.skip cs with
    | [] => none
    | ']' :: rest =>
      if atStart && m.united.isEmpty then members? fuel s false (m.add 0) rest
      else some (m.depth, rest)
    | '[' :: rest =>
      match className? rest with
      | some (isNegated, rest) =>
        if isClassUsable s isNegated then members? fuel s false (m.add 0) rest else none
      | none =>
        let (isNegated, rest) := opened s rest
        if isClassUsable s isNegated then
          (members? fuel s true {} rest).bind fun (d, rest) =>
            members? fuel s false (m.add (d + 1)) rest
        else none
    | c :: d :: rest =>
      if atStart && c = '-' then members? fuel s true (m.add 0) (d :: rest)
      else if c = d && "&-~".toList.contains c then members? fuel s false m.operate rest
      else (range? s (c :: d :: rest)).bind (members? fuel s false (m.add 0))
    | _ => none

/-! ## Groups -/

/-- What an opening parenthesis begins. -/
inductive Opening where
  /-- Flags for what follows. -/
  | flags (s : Scope)
  /-- A group within which flags hold, and its name. -/
  | group (s : Scope) (name : Option (List Char))

/-- Whether a text may be the name of a group. -/
def isName : List Char → Bool
  | [] => false
  | c :: rest =>
    (c = '_' || Text.isLetter c)
      && rest.all (fun c => "_.[]".toList.contains c || Text.isLetterOrNumber c)

/-- Reads the name of a group up to its closing bracket. -/
def named? (s : Scope) (names : List (List Char)) (cs : List Char) :
    Option (Opening × List Char) :=
  match cs.span (· != '>') with
  | (name, '>' :: rest) =>
    if isName name && !names.contains name then some (.group s (some name), rest) else none
  | _ => none

/-- Reads what an opening parenthesis begins, given the names of the groups before. Groups that
only look around are unknown. -/
def opening? (s : Scope) (names : List (List Char)) (cs : List Char) :
    Option (Opening × List Char) :=
  match s.skip cs with
  | '?' :: '<' :: '!' :: _ | '?' :: '<' :: '=' :: _ => none
  | '?' :: '<' :: rest | '?' :: 'P' :: '<' :: rest => named? s names rest
  | '?' :: rest =>
    let (flags, rest) := rest.span (fun c => c != ':' && c != ')')
    (s.flagged? flags).bind fun s =>
      match rest with
      | ':' :: rest => some (.group s none, rest)
      | ')' :: rest => if flags.isEmpty then none else some (.flags s, rest)
      | _ => none
  | cs => some (.group s none, cs)

/-! ## Patterns -/

/-- What has been read of a pattern or a group. -/
structure Progress where
  scope : Scope := {}
  /-- The names of the groups of the whole pattern. -/
  names : List (List Char) := []
  /-- The depths of the choices before the last one. -/
  choices : List Nat := []
  /-- The depths of the parts of the last choice, the last one first, and whether they may be
  repeated. -/
  parts : List (Bool × Nat) := []

namespace Progress

/-- The depth of the choice being read. -/
def depthOfChoice (p : Progress) : Nat := depthOf (p.parts.map (·.2))

/-- The depth of all that has been read. -/
def depth (p : Progress) : Nat := depthOf (p.depthOfChoice :: p.choices)

/-- Adds a part of a depth that may be repeated. -/
def add (p : Progress) (depth : Nat) : Progress := { p with parts := (true, depth) :: p.parts }

/-- Adds an atom. -/
def addAtom? (p : Progress) (a : Atom) : Option Progress :=
  if a.isUsable p.scope then some (p.add 0) else none

/-- Goes on to the next choice. -/
def choose (p : Progress) : Progress :=
  { p with choices := p.depthOfChoice :: p.choices, parts := [] }

/-- Repeats the last part. -/
def repeat? (p : Progress) : Option Progress :=
  match p.parts with
  | (true, depth) :: rest => some { p with parts := (true, depth + 1) :: rest }
  | _ => none

end Progress

/-- Reads on to the end of the pattern or the parenthesis that closes the group. Each call uses a
unit of `fuel`. -/
def read? : (fuel : Nat) → Progress → List Char → Option (Progress × List Char)
  | 0, _, _ => none
  | fuel + 1, p, cs =>
    match p.scope.skip cs with
    | [] => some (p, [])
    | ')' :: rest => some (p, ')' :: rest)
    | '(' :: rest =>
      (opening? p.scope p.names rest).bind fun (opening, rest) =>
        match opening with
        | .flags s => read? fuel { p with scope := s, parts := (false, 0) :: p.parts } rest
        | .group s name =>
          (read? fuel { scope := s, names := name.toList ++ p.names } rest).bind fun (q, rest) =>
            match rest with
            | ')' :: rest => read? fuel { p.add (q.depth + 1) with names := q.names } rest
            | _ => none
    | '|' :: rest => read? fuel p.choose rest
    | '[' :: rest =>
      let (isNegated, rest) := opened p.scope rest
      if isClassUsable p.scope isNegated then
        (members? fuel p.scope true {} rest).bind fun (d, rest) => read? fuel (p.add (d + 1)) rest
      else none
    | '\x7b' :: _ => none
    | '.' :: rest => if p.scope.unicode then read? fuel (p.add 0) rest else none
    | '\\' :: rest =>
      (Atom.escaped? p.scope rest).bind fun (a, rest) =>
        (p.addAtom? a).bind fun p => read? fuel p rest
    | c :: rest =>
      if "*+?".toList.contains c then
        -- A question mark behind the sign asks for as few as possible.
        p.repeat?.bind fun p => read? fuel p (if rest.head? == some '?' then rest.tail else rest)
      else if "^$".toList.contains c then read? fuel (p.add 0) rest
      else (p.addAtom? (.literal c false)).bind fun p => read? fuel p rest

/-- Whether a text is a pattern that can be used. -/
def isUsable (cs : List Char) : Bool :=
  match read? (cs.length + 1) {} cs with
  | some (p, []) => p.depth ≤ maxDepth
  | _ => false

end Rollout.Pattern
