import Rollout.Json.Basic

/-!
# Codecs between values and JSON

A `Codec α` says how values of `α` are written and which JSON values are read as one. It is
`Lawful` when whatever it writes is read as the value that was written; reading may accept more
than writing gives. Main lemmas: the basic codecs are lawful, and `option`, `list` and `dict`
keep lawfulness.
-/

namespace Rollout

/-- A way to write values of a type as JSON and to read them. -/
structure Codec (α : Type) where
  encode : α → Json
  decode : Json → Option α

namespace Codec

variable {α : Type}

/-- Reading what was written gives the value that was written. -/
def Lawful (c : Codec α) : Prop :=
  ∀ a, c.decode (c.encode a) = some a

/-- Text. -/
def string : Codec String where
  encode := .string
  decode
    | .string s => some s
    | _ => none

/-- Truth values. -/
def bool : Codec Bool where
  encode := .bool
  decode
    | .bool b => some b
    | _ => none

/-- Whole numbers from `least` to `greatest`, as numbers of a type. -/
def within (least greatest : Int) (toInt : α → Int) (ofInt : Int → α) : Codec α where
  encode a := .int (toInt a)
  decode
    | .int n => if least ≤ n ∧ n ≤ greatest then some (ofInt n) else none
    | _ => none

/-- Unsigned numbers of 16 bits. -/
def uint16 : Codec UInt16 :=
  within 0 (UInt16.size - 1) (fun n => n.toNat) (fun n => UInt16.ofNat n.toNat)

/-- Unsigned numbers of 32 bits. -/
def uint32 : Codec UInt32 :=
  within 0 (UInt32.size - 1) (fun n => n.toNat) (fun n => UInt32.ofNat n.toNat)

/-- Unsigned numbers of 64 bits. -/
def uint64 : Codec UInt64 :=
  within 0 (UInt64.size - 1) (fun n => n.toNat) (fun n => UInt64.ofNat n.toNat)

/-- Signed numbers of 32 bits. -/
def int32 : Codec Int32 :=
  within Int32.minValue.toInt Int32.maxValue.toInt Int32.toInt Int32.ofInt

/-- Signed numbers of 64 bits. -/
def int64 : Codec Int64 :=
  within Int64.minValue.toInt Int64.maxValue.toInt Int64.toInt Int64.ofInt

/-- An optional value, `null` when there is none. -/
def option (c : Codec α) : Codec (Option α) where
  encode
    | none => .null
    | some a => c.encode a
  decode
    | .null => some none
    | j => (c.decode j).map some

/-- An array of values. -/
def list (c : Codec α) : Codec (List α) where
  encode as := .array (as.map c.encode)
  decode
    | .array items => items.mapM c.decode
    | _ => none

/-- An object with any names. The last member of a repeated name counts, and every member has
to be a value. -/
def dict (c : Codec α) : Codec (Dict α) where
  encode d := .object (d.entries.map (fun e => (e.1, c.encode e.2)))
  decode
    | .object members => (members.mapM (fun m => (c.decode m.2).map (m.1, ·))).map Dict.ofList
    | _ => none

/-- One of a list of named values: its name, or an object with the name as its only member and
`null` as its value. A name that is not in the list stands for `other`, if that is given. -/
def named [BEq α] (names : List (String × α)) (nameOf : α → String) (other : Option α := none) :
    Codec α where
  encode a := .string (nameOf a)
  decode
    | .string s => (names.lookup s).or other
    | .object [(s, .null)] => (names.lookup s).or other
    | _ => none

/-- Any value at all, in canonical form, nested at most `room` deep. -/
def document (room : Nat) : Codec Json where
  encode j := j
  decode j := if j.isSound && j.depth ≤ room then some j.canonical else none

/-! ## Lawfulness -/

theorem string_lawful : string.Lawful := fun _ => rfl

theorem bool_lawful : bool.Lawful := fun _ => rfl

theorem within_lawful {least greatest : Int} {toInt : α → Int} {ofInt : Int → α}
    (hl : ∀ a, least ≤ toInt a) (hg : ∀ a, toInt a ≤ greatest) (hinv : ∀ a, ofInt (toInt a) = a) :
    (within least greatest toInt ofInt).Lawful := by
  intro a
  simp [within, hl, hg, hinv]

theorem uint16_lawful : uint16.Lawful :=
  within_lawful (fun a => by omega)
    (fun a => by have := a.toNat_lt; simp only [UInt16.size]; omega) (fun a => by simp)

theorem uint32_lawful : uint32.Lawful :=
  within_lawful (fun a => by omega)
    (fun a => by have := a.toNat_lt; simp only [UInt32.size]; omega) (fun a => by simp)

theorem uint64_lawful : uint64.Lawful :=
  within_lawful (fun a => by omega)
    (fun a => by have := a.toNat_lt; simp only [UInt64.size]; omega) (fun a => by simp)

theorem int32_lawful : int32.Lawful :=
  within_lawful Int32.minValue_le_toInt Int32.toInt_le (fun a => by simp)

theorem int64_lawful : int64.Lawful :=
  within_lawful Int64.minValue_le_toInt Int64.toInt_le (fun a => by simp)

/-- Optional values are lawful where no value is written as `null`. -/
theorem option_lawful {c : Codec α} (h : c.Lawful) (hnull : ∀ a, c.encode a ≠ .null) :
    c.option.Lawful := by
  intro a
  cases a with
  | none => rfl
  | some a =>
    have hj := hnull a
    have hd := h a
    simp only [option]
    cases hc : c.encode a <;> simp_all

theorem list_lawful {c : Codec α} (h : c.Lawful) : c.list.Lawful := by
  intro as
  simp only [list]
  induction as with
  | nil => rfl
  | cons a rest ih => simp only [List.map_cons, List.mapM_cons, h a, ih]; rfl

theorem dict_lawful {c : Codec α} (h : c.Lawful) : c.dict.Lawful := by
  intro d
  have hm : ∀ l : List (String × α), (l.map (fun e => (e.1, c.encode e.2))).mapM
      (fun m => (c.decode m.2).map (m.1, ·)) = some l := by
    intro l
    induction l with
    | nil => rfl
    | cons e rest ih => simp only [List.map_cons, List.mapM_cons, h e.2, ih]; rfl
  simp only [dict, hm, Option.map_some, Dict.ofList_entries]

end Codec

end Rollout
