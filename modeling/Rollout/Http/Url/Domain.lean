import Rollout.Http.Url.Domain.Direction
import Rollout.Http.Url.Domain.Joiner
import Rollout.Http.Url.Domain.Mapping
import Rollout.Http.Url.Punycode

/-!
# Domain names

A domain name is a row of labels with dots between them. Names that mean the same have one
written form, which is in ASCII: characters are taken to their simpler and composed forms, and a
label with characters beyond ASCII is written in Punycode behind `xn--`. A name may come with
labels written in that way already. Those have to stand for labels that are in their simplest
form.
-/

namespace Rollout.Http.Domain

open Rollout.Text

/-- What the written form of a label beyond ASCII starts with. -/
def mark : List Char := "xn--".toList

/-- A label of a domain name. -/
structure Label where
  text : List Char
  /-- The label in ASCII. -/
  written : List Char

/-- Whether a text is in its simplest form. -/
def isSimple (cs : List Char) : Bool := (mapAll? cs).map normal == some cs

/-- The label that a text in its simplest form stands for. Labels beyond ASCII have to be of a
limited length. -/
def read? (cs : List Char) : Option Label :=
  if cs.take 4 == mark then
    let rest := cs.drop 4
    if rest.length ≤ 2000 && rest.all (·.toNat < 0x80) && rest.getLast?.any (· != '-') then
      ((Punycode.decode? rest).filter isSimple).map fun text => { text := text, written := cs }
    else none
  else if cs.all (·.toNat < 0x80) then some { text := cs, written := cs }
  else if cs.length ≤ 1000 then
    some { text := cs, written := mark ++ Punycode.encode cs }
  else none

/-- Whether the characters of a label stand where they may. -/
def isInOrder (label : Label) : Bool :=
  !label.text.head?.any isMark && areJoinersInPlace [] label.text

/-- Whether the labels of a name are each of one direction, if there is one from the right. -/
def areInDirection (labels : List Label) : Bool :=
  !(labels.any (·.text.any isFromRight)) || labels.all (isOfOneDirection ·.text)

/-- A domain name in its written form. -/
def written? (name : List Char) : Option (List Char) :=
  (mapAll? name).bind fun simple =>
    let simple := normal simple
    if simple.any isRefusedSign then none
    else
      ((partsAt '.' simple).mapM read?).bind fun labels =>
        if labels.all isInOrder && areInDirection labels then
          some (['.'].intercalate (labels.map (·.written)))
        else none

end Rollout.Http.Domain
