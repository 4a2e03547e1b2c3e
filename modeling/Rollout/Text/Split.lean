/-!
# Cutting text at a character

`splitAt? c s` cuts a text at the first place where a character stands, and `partsAt c cs` a list
of characters at each.
-/

namespace Rollout.Text

/-- The parts of a list before and after the first `c`. All is before where there is none. -/
def cutAt (c : Char) (cs : List Char) : List Char × List Char :=
  let (before, after) := cs.span (· != c)
  (before, after.tail)

/-- The parts of a list around each `c`. -/
def partsAt (c : Char) (cs : List Char) : List (List Char) :=
  cs.foldr (fun d parts =>
    if d = c then [] :: parts
    else match parts with
      | [] => [[d]]
      | part :: rest => (d :: part) :: rest) [[]]

/-- The parts of a text before and after the first `c`, if there is one. -/
def splitAt? (c : Char) (s : String) : Option (String × String) :=
  match s.toList.span (· != c) with
  | (_, []) => none
  | (before, _ :: after) => some (String.ofList before, String.ofList after)

/-- A text without the given characters at its start. -/
def dropLeading (c : Char) (s : String) : String := String.ofList (s.toList.dropWhile (· == c))

/-- A text without the given characters at its end. -/
def dropTrailing (c : Char) (s : String) : String :=
  String.ofList (s.toList.reverse.dropWhile (· == c)).reverse

end Rollout.Text
