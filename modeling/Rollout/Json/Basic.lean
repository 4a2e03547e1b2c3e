import Rollout.Dict

/-!
# JSON values

The value type that the reader produces, the printer consumes and every model is encoded in.
Object members keep the order and the repetitions of the text, because what a repeated name
means is the business of whoever decodes the object. `Json.canonical` is the form in which a
name occurs once, in key order.
-/

namespace Rollout

/-- A JSON value. -/
inductive Json where
  | null
  | bool (value : Bool)
  /-- A number written without fraction and exponent that fits in 64 bits, signed or not. -/
  | int (value : Int)
  /-- Any other number: a sign and `digits * 10 ^ exponent`. -/
  | decimal (negative : Bool) (digits : Nat) (exponent : Int)
  | string (value : String)
  | array (items : List Json)
  | object (members : List (String × Json))
  /-- Something that follows the grammar but denotes no value: text with half of a surrogate
  pair, an object with such a name, a number beyond the largest double. It may stand where
  nobody looks, and is refused wherever a value is wanted. -/
  | malformed
deriving Inhabited, BEq, Repr

namespace Json

mutual

/-- Containers around the innermost value, the value itself included. -/
def depth : Json → Nat
  | .array items => depthOfItems items + 1
  | .object members => depthOfMembers members + 1
  | _ => 0

/-- The greatest depth among the items of an array. -/
def depthOfItems : List Json → Nat
  | [] => 0
  | item :: rest => max (depth item) (depthOfItems rest)

/-- The greatest depth among the members of an object. -/
def depthOfMembers : List (String × Json) → Nat
  | [] => 0
  | (_, value) :: rest => max (depth value) (depthOfMembers rest)

end

mutual

/-- Whether nothing inside is malformed. -/
def isSound : Json → Bool
  | .malformed => false
  | .array items => areSoundItems items
  | .object members => areSoundMembers members
  | _ => true

/-- Whether no item of an array is malformed. -/
def areSoundItems : List Json → Bool
  | [] => true
  | item :: rest => isSound item && areSoundItems rest

/-- Whether no member of an object is malformed. -/
def areSoundMembers : List (String × Json) → Bool
  | [] => true
  | (_, value) :: rest => isSound value && areSoundMembers rest

end

mutual

/-- The same value with every object's members in key order, the last of a repeated name. -/
def canonical : Json → Json
  | .array items => .array (canonicalItems items)
  | .object members => .object (Dict.ofList (canonicalMembers members)).entries
  | other => other

/-- The items of an array, each made canonical. -/
def canonicalItems : List Json → List Json
  | [] => []
  | item :: rest => canonical item :: canonicalItems rest

/-- The members of an object, each value made canonical. -/
def canonicalMembers : List (String × Json) → List (String × Json)
  | [] => []
  | (name, value) :: rest => (name, canonical value) :: canonicalMembers rest

end

/-- The value of an object's first member of a name. -/
def member? (name : String) : Json → Option Json
  | .object members => members.lookup name
  | _ => none

end Json

end Rollout
