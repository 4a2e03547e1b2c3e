import Rollout.Json.Basic

/-!
# Writing JSON text

`Json.render` writes a value without blanks. Quotes, backslashes and control characters are
escaped and every other character is written as it is.
-/

namespace Rollout.Json

/-- A hexadecimal digit. -/
def hexChar (n : Nat) : Char := Nat.digitChar n

/-- How a character is written inside quotes. -/
def escape (c : Char) : List Char :=
  if c = '"' then ['\\', '"']
  else if c = '\\' then ['\\', '\\']
  else if c = '\n' then ['\\', 'n']
  else if c = '\r' then ['\\', 'r']
  else if c = '\t' then ['\\', 't']
  else if c = '\x08' then ['\\', 'b']
  else if c = '\x0c' then ['\\', 'f']
  else if c.toNat < 0x20 then ['\\', 'u', '0', '0', hexChar (c.toNat / 16), hexChar (c.toNat % 16)]
  else [c]

/-- Text in quotes. -/
def quote (text : String) : String :=
  text.toList.foldl (fun acc c => (escape c).foldl String.push acc) "\"" ++ "\""

/-- A number with a sign and an exponent. -/
def renderDecimal (negative : Bool) (digits : Nat) (exponent : Int) : String :=
  (if negative then "-" else "") ++ toString digits ++ "e" ++ toString exponent

mutual

/-- Adds the text of a value to a text. -/
def renderTo (acc : String) : Json → String
  | .null | .malformed => acc ++ "null"
  | .bool true => acc ++ "true"
  | .bool false => acc ++ "false"
  | .int n => acc ++ toString n
  | .decimal negative digits exponent => acc ++ renderDecimal negative digits exponent
  | .string s => acc ++ quote s
  | .array items => renderItemsTo (acc ++ "[") true items ++ "]"
  | .object members => renderMembersTo (acc ++ "\x7b") true members ++ "\x7d"

/-- Adds the items of an array, a comma before each but the first. -/
def renderItemsTo (acc : String) (isFirst : Bool) : List Json → String
  | [] => acc
  | item :: rest =>
    renderItemsTo (renderTo (if isFirst then acc else acc ++ ",") item) false rest

/-- Adds the members of an object, a comma before each but the first. -/
def renderMembersTo (acc : String) (isFirst : Bool) : List (String × Json) → String
  | [] => acc
  | (name, value) :: rest =>
    let acc := (if isFirst then acc else acc ++ ",") ++ quote name ++ ":"
    renderMembersTo (renderTo acc value) false rest

end

/-- The text of a value. -/
def render (value : Json) : String := renderTo "" value

end Rollout.Json
