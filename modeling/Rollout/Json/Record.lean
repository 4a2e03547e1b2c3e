import Rollout.Json.Codec

/-!
# Records as JSON objects

A record is written as an object with a member for each of its fields, some of which are left
out when they say nothing. It is read from an object, whose unknown members are ignored, or from
an array of its fields in order, which may stop early. A field that is not there takes its value
for that case, or makes the record unreadable.
-/

namespace Rollout

/-- How one field of a record is written, and how it is read into a record. -/
structure Member (σ : Type) where
  name : String
  /-- What is written for the field; nothing when it is left out. -/
  write : σ → Option Json
  /-- The record with the field set to what was read, `none` if it was not there. -/
  read : Option Json → σ → Option σ

namespace Member

variable {σ α : Type}

/-- A field that has to be there. -/
def required (name : String) (c : Codec α) (get : σ → α) (put : α → σ → σ) : Member σ where
  name := name
  write s := some (c.encode (get s))
  read
    | none, _ => none
    | some j, s => (c.decode j).map (put · s)

/-- A field that is always written and has a value of its own when it is not there. -/
def defaulted (name : String) (c : Codec α) (absent : α) (get : σ → α) (put : α → σ → σ) :
    Member σ where
  name := name
  write s := some (c.encode (get s))
  read
    | none, s => some (put absent s)
    | some j, s => (c.decode j).map (put · s)

/-- A field that is left out when it has the value of an absent one. -/
def sparse (name : String) (c : Codec α) (absent : α) (isAbsent : α → Bool)
    (get : σ → α) (put : α → σ → σ) : Member σ where
  name := name
  write s := if isAbsent (get s) then none else some (c.encode (get s))
  read
    | none, s => some (put absent s)
    | some j, s => (c.decode j).map (put · s)

/-- A field that is read but never written. -/
def hidden (name : String) (c : Codec α) (absent : α) (put : α → σ → σ) : Member σ where
  name := name
  write _ := none
  read
    | none, s => some (put absent s)
    | some j, s => (c.decode j).map (put · s)

/-- An optional field, left out when it has no value. -/
def optional (name : String) (c : Codec α) (get : σ → Option α) (put : Option α → σ → σ) :
    Member σ :=
  sparse name c.option none Option.isNone get put

/-- An optional field, written as `null` when it has no value. -/
def nullable (name : String) (c : Codec α) (get : σ → Option α) (put : Option α → σ → σ) :
    Member σ :=
  defaulted name c.option none get put

end Member

/-- The fields of a record, and a record to start reading from. -/
structure Record (σ : Type) where
  blank : σ
  members : List (Member σ)

namespace Record

variable {σ : Type}

/-- The names of the fields. -/
def names (r : Record σ) : List String := r.members.map (·.name)

/-- The object that a record is written as. -/
def encode (r : Record σ) (s : σ) : Json :=
  .object (r.members.filterMap (fun m => (m.write s).map (m.name, ·)))

/-- Whether an object has no field twice. -/
def noneRepeated (r : Record σ) (members : List (String × Json)) : Bool :=
  -- Names that are no field's are ignored, so they may come as often as they like.
  decide ((members.map (·.1)).filter r.names.contains).Nodup

/-- Reads the fields by name. -/
def decodeMembers (r : Record σ) (members : List (String × Json)) : Option σ :=
  if r.noneRepeated members then
    r.members.foldlM (fun s m => m.read (members.lookup m.name) s) r.blank
  else none

/-- Reads the fields in order, none of them after the items. -/
def decodeItems : List (Member σ) → List Json → σ → Option σ
  | [], [], s => some s
  | [], _ :: _, _ => none
  | m :: ms, [], s => (m.read none s).bind (decodeItems ms [])
  | m :: ms, item :: items, s => (m.read (some item) s).bind (decodeItems ms items)

/-- Reads a record from an object or an array. -/
def decode (r : Record σ) : Json → Option σ
  | .object members => r.decodeMembers members
  | .array items => decodeItems r.members items r.blank
  | _ => none

/-- The codec of a record. -/
def codec (r : Record σ) : Codec σ where
  encode := r.encode
  decode := r.decode

/-- The codec of a record that shares its object with others: only an object is read, and every
member, known or not, has to be a value nested at most `room` deep. -/
def sharedCodec (r : Record σ) (room : Nat) : Codec σ where
  encode := r.encode
  decode
    | .object members =>
      if members.all (fun m => m.2.isSound && m.2.depth ≤ room) then r.decodeMembers members
      else none
    | _ => none

end Record

end Rollout
