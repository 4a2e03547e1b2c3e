import Rollout.LogFilter.Pattern
import Rollout.LogLevel
import Rollout.Text.Bytes
import Rollout.Text.Split

/-!
# Directives of log filters

A directive such as `warn`, `machdeploy=debug` or `machdeploy[span{field=value}]=off` says
which messages are shown: those of the parts of the program whose names begin as its target does,
within its span and with its fields, down to its level.

What is read between the signs of a directive is taken from the text with the blanks around it,
but by the byte positions of the signs in the text without them. Such a position may be inside a
character, and then the directive cannot be read on.
-/

namespace Rollout

/-- One directive of a filter. -/
structure LogDirective where
  target : Option (List Char) := none
  span : Option (List Char) := none
  field : Option (List Char) := none
  /-- The most talkative level that is let through, none for nothing at all. -/
  level : Option LogLevel := some .trace
deriving DecidableEq, Inhabited

namespace LogLevel

/-- How much a level tells. -/
def rank : LogLevel → Nat
  | error => 1
  | warn => 2
  | info => 3
  | debug => 4
  | trace => 5

/-- The levels that directives name, and `off`. -/
def directiveWords : List (String × Option LogLevel) :=
  [("off", none), ("error", some .error), ("warn", some .warn), ("info", some .info),
    ("debug", some .debug), ("trace", some .trace)]

/-- The level of a word or number in a directive. -/
def ofDirective? (cs : List Char) : Option (Option LogLevel) :=
  match Text.word? cs with
  | some n => directiveWords[n]?.map (·.2)
  | none => directiveWords.lookup (String.ofList (cs.map Char.toLower))

end LogLevel

namespace LogDirective

/-- What is wrong with a text that is no directive. -/
inductive Flaw where
  /-- It is not written as directives are. -/
  | unreadable
  /-- It would have to be cut inside a character. -/
  | torn
deriving DecidableEq, Inhabited

/-! ## Fields -/

/-- Whether a text is a number: digits with a point and an exponent, or one of three words. -/
def isNumber (cs : List Char) : Bool :=
  let (whole, rest) := cs.span Char.isDigit
  let (fraction, rest) := match rest with
    | '.' :: rest => rest.span Char.isDigit
    | rest => ([], rest)
  let exponent := match rest with
    | c :: '+' :: ds | c :: '-' :: ds | c :: ds => if c = 'e' || c = 'E' then ds else ['e']
    | [] => ['0']
  ["inf", "infinity", "nan"].contains (String.ofList (cs.map Char.toLower))
    || (!(whole.isEmpty && fraction.isEmpty) && !exponent.isEmpty && exponent.all Char.isDigit)

/-- Whether a text may be the value of a field: a number or a pattern. Numbers without a plus
sign are patterns too. -/
def isValue (cs : List Char) : Bool :=
  Pattern.isUsable cs || (cs.head? == some '+' && isNumber cs.tail)

/-- Whether a text names a field, with or without a value. What follows a second `=` does not
matter. -/
def isField (cs : List Char) : Bool :=
  !cs.isEmpty && ((Text.partsAt '=' cs)[1]?).all isValue

/-! ## Reading -/

/-- Whether a directive may start with a character. -/
def isStart (c : Char) : Bool := "-:_".toList.contains c || Text.isLetterOrNumber c

/-- What is between two positions of a text, the second of which may be the end. -/
def cut (text : List Char) (start : Nat) (stop : Option Nat) : Except Flaw (List Char) :=
  match Text.between? start (stop.getD (Text.byteSize text)) text with
  | some cs => .ok cs
  | none => .error .torn

/-- A directive with the level that is written from a position on. Where nothing is written it
lets everything through. -/
def withLevel (d : LogDirective) (text : List Char) (start : Nat) : Except Flaw LogDirective := do
  let written ← cut text start none
  if written.isEmpty then return d
  match LogLevel.ofDirective? written with
  | some level => return { d with level := level }
  | none => .error .unreadable

/-- A directive whose target and span are known, from what follows at a position. -/
def afterSpan (d : LogDirective) (text : List Char) (place : Nat) :
    List Char → Except Flaw LogDirective
  | [] => .ok d
  | '=' :: _ => d.withLevel text (place + 1)
  | _ => .error .unreadable

/-- A directive whose target and span are known, from what follows the brace at a position. -/
def afterBrace (d : LogDirective) (text : List Char) (place : Nat) (rest : List Char) :
    Except Flaw LogDirective :=
  match rest.span (· != '\x7d') with
  | (_, []) => .error .unreadable
  | (field, _ :: rest) => do
    let stop := place + Text.byteSize field
    let field ← cut text place (some stop)
    match isField field, rest with
    | true, ']' :: rest => afterSpan { d with field := some field } text (stop + 2) rest
    | _, _ => .error .unreadable

/-- A directive whose target is known, from what follows the bracket at a position. -/
def afterBracket (d : LogDirective) (text : List Char) (place : Nat) (rest : List Char) :
    Except Flaw LogDirective :=
  match rest.span (fun c => c != ']' && c != '\x7b') with
  | (_, []) => .error .unreadable
  | (span, sign :: rest) => do
    let stop := place + Text.byteSize span
    let span ← cut text place (some stop)
    if sign = ']' then afterSpan { d with span := some span } text (stop + 1) rest
    else
      -- Fields may be asked for in every span.
      afterBrace { d with span := if span.isEmpty then none else some span } text (stop + 1) rest

/-- Reads a directive. -/
def ofText (text : List Char) : Except Flaw LogDirective :=
  match Text.trimList text with
  | [] => .error .unreadable
  | '[' :: rest => afterBracket {} text 1 rest
  | c :: rest =>
    if !isStart c then .error .unreadable
    else
      match (c :: rest).span (fun c => c != '=' && c != '[') with
      | (target, sign :: rest) => do
        let stop := Text.byteSize target
        let d : LogDirective := { target := some (← cut text 0 (some stop)) }
        if sign = '=' then d.withLevel text (stop + 1) else afterBracket d text (stop + 1) rest
      | (_, []) =>
        -- Without signs it is a level or else a target, and blanks belong to it either way.
        match LogLevel.ofDirective? text with
        | some level => .ok { level := level }
        | none => .ok { target := some text }

/-! ## Matching -/

/-- Whether a directive concerns the messages of a part of the program. -/
def concerns (d : LogDirective) (part : String) : Bool :=
  d.span.isNone && d.field.all (· == "message".toList)
    && d.target.all (·.isPrefixOf part.toList)

/-- How narrow a directive is. -/
def weight (d : LogDirective) : Nat × Nat :=
  (d.target.elim 0 (·.length + 1), if d.field.isSome then 1 else 0)

end LogDirective

end Rollout
