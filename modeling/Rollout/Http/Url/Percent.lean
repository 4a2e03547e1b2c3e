import Rollout.Text.Number

/-!
# Percent encoding

Characters that have no place of their own in a part of a URL are written as the bytes of their
UTF-8 form, each as `%` and two hexadecimal digits. Which characters those are differs from part
to part; characters outside ASCII and control characters have no place anywhere.
-/

namespace Rollout.Http.Percent

/-- A hexadecimal digit in capitals. -/
def digit (n : Nat) : Char := "0123456789ABCDEF".toList[n]?.getD '0'

/-- A byte as `%` and two digits. -/
def encodeByte (b : UInt8) : List Char := ['%', digit (b.toNat / 16), digit (b.toNat % 16)]

/-- A character by the bytes of its UTF-8 form. -/
def encodeChar (c : Char) : List Char := c.toString.toUTF8.toList.flatMap encodeByte

/-- Whether a character has no place in any part of a URL. -/
def isForeign (c : Char) : Bool := c.toNat < 0x20 || 0x7E < c.toNat

/-- Encodes the characters of a set and those that are foreign everywhere. -/
def encode (set : List Char) (cs : List Char) : List Char :=
  cs.flatMap fun c => if isForeign c || set.contains c then encodeChar c else [c]

/-- The set of a fragment. -/
def fragmentSet : List Char := " \"<>`".toList

/-- The set of a query. -/
def querySet : List Char := " \"#<>".toList

/-- The set of a query where the scheme is one of the web's. -/
def webQuerySet : List Char := "'".toList ++ querySet

/-- The set of a path. -/
def pathSet : List Char := "#?\x7b\x7d".toList ++ fragmentSet

/-- The set of user names and passwords. -/
def userSet : List Char := "/:;=@[\\]^|".toList ++ pathSet

/-- A character in a form: letters, digits and `*-._` as they are, a blank as `+`. -/
def encodeFormChar (c : Char) : List Char :=
  if c = ' ' then ['+']
  else if c.isAlphanum || "*-._".toList.contains c then [c]
  else encodeChar c

/-- The fields of a form, one after the other. -/
def encodeForm (fields : List (String × String)) : String :=
  "&".intercalate (fields.map fun (name, value) =>
    String.ofList (name.toList.flatMap encodeFormChar) ++ "="
      ++ String.ofList (value.toList.flatMap encodeFormChar))

/-- The bytes that a text stands for. A `%` without two digits stands for itself. -/
def decode : List Char → List UInt8
  | [] => []
  | [c] => c.toString.toUTF8.toList
  | [c, d] => c.toString.toUTF8.toList ++ d.toString.toUTF8.toList
  | c :: d :: e :: rest =>
    match c, Text.hexDigit? d, Text.hexDigit? e with
    | '%', some high, some low => UInt8.ofNat (high * 16 + low) :: decode rest
    | _, _, _ => c.toString.toUTF8.toList ++ decode (d :: e :: rest)

/-- The text that a text stands for, if its bytes are one. -/
def decodeText? (s : String) : Option String :=
  String.fromUTF8? ⟨(decode s.toList).toArray⟩

end Rollout.Http.Percent
