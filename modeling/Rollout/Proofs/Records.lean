import Mathlib.Data.List.Basic
import Rollout.Json.Record
import Rollout.Proofs.Documents

/-!
# Reading back what was written

A record is written field by field and read field by field, and what its codec needs comes down to
its fields: each field finds its own member again, because the names are distinct, and each kind of
field restores what it had written, if the codec of its value does. A field that is left out for a
value has to take that value where it is not there, and an optional field has to be able to tell
`null` from every value that is there.

## Main statements

- `Member.required_restores` and its like: what each kind of field restores.
- `Record.decode_encode`: a record whose fields are restored is read back.
- `Record.lawful`: the codec of a record that is restored as it was is lawful.
- `Record.decode_keeps`: what every field keeps is true of every record that is read.
-/

namespace Rollout

namespace Codec

variable {α : Type} {c : Codec α}

/-- Whether nothing is written as `null`. -/
def NeverNull (c : Codec α) : Prop := ∀ a, c.encode a ≠ .null

/-- A text is not written as `null`. -/
@[simp] theorem string_neverNull : string.NeverNull := fun _ h => by cases h

@[simp] theorem bool_neverNull : bool.NeverNull := fun _ h => by cases h

@[simp] theorem within_neverNull {least greatest : Int} {toInt : α → Int} {ofInt : Int → α} :
    (within least greatest toInt ofInt).NeverNull := fun _ h => by cases h

@[simp] theorem uint16_neverNull : uint16.NeverNull := within_neverNull

@[simp] theorem uint32_neverNull : uint32.NeverNull := within_neverNull

@[simp] theorem uint64_neverNull : uint64.NeverNull := within_neverNull

@[simp] theorem list_neverNull : c.list.NeverNull := fun _ h => by cases h

attribute [simp] string_lawful bool_lawful uint16_lawful uint32_lawful uint64_lawful int32_lawful
  int64_lawful list_lawful dict_lawful

/-- Whether everything is written soundly and nested at most so deep. -/
def PlainTo (c : Codec α) (room : Nat) : Prop :=
  ∀ a, (c.encode a).isSound = true ∧ (c.encode a).depth ≤ room

/-- What is nested so deep is nested no deeper than any greater depth. -/
theorem PlainTo.mono {m n : Nat} (h : c.PlainTo m) (hle : m ≤ n) : c.PlainTo n :=
  fun a => ⟨(h a).1, Nat.le_trans (h a).2 hle⟩

/-- A text is not nested at all. -/
theorem string_plain : string.PlainTo 0 := fun _ => ⟨rfl, Nat.le_refl 0⟩

/-- Nor is a number. -/
theorem within_plain {least greatest : Int} {toInt : α → Int} {ofInt : Int → α} :
    (within least greatest toInt ofInt).PlainTo 0 := fun _ => ⟨rfl, Nat.le_refl 0⟩

/-- A list is nested one deeper than its items. -/
theorem list_plain {n : Nat} (h : c.PlainTo n) : c.list.PlainTo (n + 1) := by
  intro as
  constructor
  · refine Json.areSoundItems_iff.mpr fun j hj => ?_
    obtain ⟨a, -, rfl⟩ := List.mem_map.mp hj
    exact (h a).1
  · refine Nat.succ_le_succ (Json.depthOfItems_le_iff.mpr fun j hj => ?_)
    obtain ⟨a, -, rfl⟩ := List.mem_map.mp hj
    exact (h a).2

/-- A codec of named values is lawful if each is found under its name. -/
theorem named_lawful [BEq α] {names : List (String × α)} {nameOf : α → String} {other : Option α}
    (h : ∀ a, (names.lookup (nameOf a)).or other = some a) : (named names nameOf other).Lawful :=
  h

end Codec

namespace Member

variable {σ α : Type} {name : String} {c : Codec α} {s t : σ} {j : Json} {n : Nat}

section Plain

variable {get : σ → α} {put : α → σ → σ} {absent : α}

/-- A field that has to be there comes back. -/
@[simp] theorem required_restores (h : c.Lawful) :
    (required name c get put).read ((required name c get put).write s) t =
      some (put (get s) t) := by
  simp only [required, h (get s), Option.map_some]

/-- A field that is always written comes back if its value does. -/
theorem defaulted_restores_of (h : c.decode (c.encode (get s)) = some (get s)) :
    (defaulted name c absent get put).read ((defaulted name c absent get put).write s) t =
      some (put (get s) t) := by
  simp only [defaulted, h, Option.map_some]

/-- A field whose value is not read back makes the record unreadable. -/
theorem defaulted_unread (h : c.decode (c.encode (get s)) = none) :
    (defaulted name c absent get put).read ((defaulted name c absent get put).write s) t =
      none := by
  simp only [defaulted, h, Option.map_none]

/-- A field that is always written comes back. -/
@[simp] theorem defaulted_restores (h : c.Lawful) :
    (defaulted name c absent get put).read ((defaulted name c absent get put).write s) t =
      some (put (get s) t) :=
  defaulted_restores_of (h (get s))

/-- A field that is left out comes back if it is left out for the absent value only. -/
@[simp] theorem sparse_restores {isAbsent : α → Bool} (h : c.Lawful)
    (habsent : isAbsent (get s) = true → get s = absent) :
    (sparse name c absent isAbsent get put).read
      ((sparse name c absent isAbsent get put).write s) t = some (put (get s) t) := by
  unfold sparse
  dsimp only
  -- It is left out for the absent value, which is what it is read as then.
  cases hleft : isAbsent (get s) with
  | true =>
    rw [habsent hleft]
    rfl
  | false => simp only [h (get s), Bool.false_eq_true, if_false, Option.map_some]

/-- Reading a field that has to be there sets it. -/
theorem read_required {x : Option Json} (h : (required name c get put).read x s = some t) :
    ∃ v, t = put v s := by
  cases x with
  | none => cases h
  | some j =>
    obtain ⟨v, -, rfl⟩ := Option.map_eq_some_iff.mp h
    exact ⟨v, rfl⟩

/-- Reading any other field sets it to what is there, or to the absent value. -/
theorem read_defaulted {x : Option Json}
    (h : (defaulted name c absent get put).read x s = some t) :
    ∃ v, t = put v s ∧ (v = absent ∨ ∃ j, c.decode j = some v) := by
  cases x with
  | none => exact ⟨absent, (Option.some.inj h).symm, .inl rfl⟩
  | some j =>
    obtain ⟨v, hv, rfl⟩ := Option.map_eq_some_iff.mp h
    exact ⟨v, rfl, .inr ⟨j, hv⟩⟩

/-- What is never written is absent afterwards. -/
@[simp] theorem hidden_restores :
    (hidden name c absent put).read ((hidden name c absent put).write s) t = some (put absent t) :=
  rfl

/-- A field that is always written is as deep as its value. -/
theorem defaulted_plain (h : c.PlainTo n)
    (hj : j ∈ (defaulted name c absent get put).write s) : j.isSound = true ∧ j.depth ≤ n := by
  obtain rfl := Option.some.inj hj
  exact h (get s)

end Plain

section Optional

variable {get : σ → Option α} {put : Option α → σ → σ}

/-- An optional field comes back, whether it is there or not. -/
@[simp] theorem optional_restores (h : c.Lawful) (hnull : c.NeverNull) :
    (optional name c get put).read ((optional name c get put).write s) t =
      some (put (get s) t) :=
  sparse_restores (Codec.option_lawful h hnull) Option.isNone_iff_eq_none.mp

/-- So does a field that is written as `null` if there is no value. -/
@[simp] theorem nullable_restores (h : c.Lawful) (hnull : c.NeverNull) :
    (nullable name c get put).read ((nullable name c get put).write s) t =
      some (put (get s) t) :=
  defaulted_restores (Codec.option_lawful h hnull)

/-- An optional field is as deep as its value, if it is there. -/
theorem optional_plain (h : c.PlainTo n)
    (hj : j ∈ (optional name c get put).write s) : j.isSound = true ∧ j.depth ≤ n := by
  unfold optional sparse at hj
  dsimp only at hj
  -- Without a value nothing was written.
  cases hget : get s with
  | none =>
    rw [hget] at hj
    cases hj
  | some a =>
    rw [hget] at hj
    obtain rfl := Option.some.inj hj
    exact h a

end Optional

end Member

/-- Whether what is written of one record makes the blank record another one, when it is read field
by field. -/
def Record.Restores {σ : Type} (r : Record σ) (s t : σ) : Prop :=
  r.members.foldlM (fun t m => m.read (m.write s) t) r.blank = some t

namespace Record

variable {σ : Type} {r : Record σ} {s t : σ}

/-! ## Fields by name -/

/-- The members that are written for fields. -/
def written (ms : List (Member σ)) (s : σ) : List (String × Json) :=
  ms.filterMap (fun m => (m.write s).map (m.name, ·))

/-- The names of the members that are written are the fields' own, in their order. -/
theorem written_names (ms : List (Member σ)) (s : σ) :
    ((written ms s).map (·.1)).Sublist (ms.map (·.name)) := by
  -- By induction on the fields: each adds its name if it is written.
  induction ms with
  | nil => exact List.Sublist.slnil
  | cons m ms ih =>
    unfold written
    rw [List.filterMap_cons]
    cases hwrite : m.write s with
    | none => exact ih.cons m.name
    | some j => exact ih.cons_cons m.name

/-- What is not the name of a field is not found. -/
theorem lookup_written_eq_none {ms : List (Member σ)} {name : String}
    (hname : name ∉ ms.map (·.name)) : (written ms s).lookup name = none := by
  rw [List.lookup_eq_none_iff]
  intro e he
  have hmem : e.1 ∈ ms.map (·.name) :=
    (written_names ms s).subset (List.mem_map_of_mem he)
  exact bne_iff_ne.mpr fun heq => hname (heq ▸ hmem)

/-- Each field finds the member that was written for it. -/
theorem lookup_written {ms : List (Member σ)} (hnames : (ms.map (·.name)).Nodup) {m : Member σ}
    (hm : m ∈ ms) : (written ms s).lookup m.name = m.write s := by
  -- By induction on the fields, whose names are distinct.
  induction ms with
  | nil => cases hm
  | cons first ms ih =>
    rw [List.map_cons, List.nodup_cons] at hnames
    have hcons : written (first :: ms) s =
        ((first.write s).map (first.name, ·)).toList ++ written ms s := by
      unfold written
      rw [List.filterMap_cons]
      cases first.write s <;> rfl
    rw [hcons]
    -- The field is the first, or the first has another name.
    rcases List.mem_cons.mp hm with rfl | hm
    · cases hwrite : m.write s with
      | none => exact lookup_written_eq_none hnames.1
      | some j => simp
    · -- The first member is passed over, or was not written at all.
      have hne : m.name ≠ first.name := fun heq =>
        hnames.1 (heq ▸ List.mem_map_of_mem hm)
      cases hwrite : first.write s with
      | none => exact ih hnames.2 hm
      | some j =>
        rw [Option.map_some, Option.toList_some, List.singleton_append, Dict.lookup_cons_eq_ite,
          if_neg hne]
        exact ih hnames.2 hm

/-- No member is written twice. -/
theorem noneRepeated_written (hnames : r.names.Nodup) (s : σ) :
    r.noneRepeated (written r.members s) = true := by
  unfold noneRepeated
  rw [decide_eq_true_iff]
  exact (hnames.sublist (written_names r.members s)).filter _

/-! ## Records -/

/-- Reading what was written goes through the fields, each of which finds its own member. -/
theorem decodeMembers_written (hnames : r.names.Nodup) (s : σ) :
    r.decodeMembers (written r.members s) =
      r.members.foldlM (fun t m => m.read (m.write s) t) r.blank := by
  -- The fields are read from all members that were written, so the induction is on some of them.
  have hfields : ∀ (ms : List (Member σ)) (t : σ), (∀ m ∈ ms, m ∈ r.members) →
      ms.foldlM (fun t m => m.read ((written r.members s).lookup m.name) t) t =
        ms.foldlM (fun t m => m.read (m.write s) t) t := by
    intro ms
    induction ms with
    | nil => exact fun _ _ => rfl
    | cons m ms ih =>
      intro t hms
      rw [List.forall_mem_cons] at hms
      rw [List.foldlM_cons, List.foldlM_cons, lookup_written hnames hms.1]
      exact bind_congr fun t => ih t hms.2
  unfold decodeMembers
  rw [if_pos (noneRepeated_written hnames s)]
  exact hfields r.members r.blank fun _ hm => hm

/-- A record whose fields are restored is read back. -/
theorem decode_encode (hnames : r.names.Nodup) (h : r.Restores s t) :
    r.codec.decode (r.codec.encode s) = some t :=
  (decodeMembers_written hnames s).trans h

/-- The codec of a record that is restored as it was is lawful. -/
theorem lawful (hnames : r.names.Nodup) (h : ∀ s, r.Restores s s) : r.codec.Lawful :=
  fun s => decode_encode hnames (h s)

section Keeping

variable {P : σ → Prop} {ms : List (Member σ)}

/-- What every field keeps is kept by all of them, if they are read by name. -/
theorem foldlM_keeps {members : List (String × Json)}
    (hread : ∀ m ∈ ms, ∀ x s s', P s → m.read x s = some s' → P s') (hs : P s)
    (h : ms.foldlM (fun s m => m.read (members.lookup m.name) s) s = some t) : P t := by
  -- By induction on the fields; each is read into what the ones before it have made.
  induction ms generalizing s with
  | nil => exact Option.some.inj h ▸ hs
  | cons m ms ih =>
    rw [List.forall_mem_cons] at hread
    rw [List.foldlM_cons] at h
    obtain ⟨s', hs', hrest⟩ := Option.bind_eq_some_iff.mp h
    exact ih hread.2 (hread.1 _ s s' hs hs') hrest

/-- What every field keeps is kept by all of them, if they are read by place. -/
theorem decodeItems_keeps {items : List Json}
    (hread : ∀ m ∈ ms, ∀ x s s', P s → m.read x s = some s' → P s') (hs : P s)
    (h : decodeItems ms items s = some t) : P t := by
  induction ms generalizing items s with
  | nil =>
    cases items with
    | nil => exact Option.some.inj h ▸ hs
    | cons item items => cases h
  | cons m ms ih =>
    rw [List.forall_mem_cons] at hread
    cases items with
    | nil =>
      obtain ⟨s', hs', hrest⟩ := Option.bind_eq_some_iff.mp h
      exact ih hread.2 (hread.1 _ s s' hs hs') hrest
    | cons item items =>
      obtain ⟨s', hs', hrest⟩ := Option.bind_eq_some_iff.mp h
      exact ih hread.2 (hread.1 _ s s' hs hs') hrest

/-- What the blank record satisfies and every field keeps is true of what is read. -/
theorem decode_keeps {j : Json} (hblank : P r.blank)
    (hread : ∀ m ∈ r.members, ∀ x s s', P s → m.read x s = some s' → P s')
    (h : r.codec.decode j = some s) : P s := by
  -- A record is read from an object or from an array, and from nothing else.
  cases j with
  | object members =>
    have hmembers : r.decodeMembers members = some s := h
    unfold decodeMembers at hmembers
    split at hmembers
    · exact foldlM_keeps hread hblank hmembers
    · cases hmembers
  | array items => exact decodeItems_keeps hread hblank h
  | _ => cases h

end Keeping

/-- A record is not written as `null`. -/
@[simp] theorem codec_neverNull : r.codec.NeverNull := fun _ h => by cases h

/-- The codec of a record that shares its object is lawful if no member is malformed or nested too
deep. -/
theorem shared_lawful {room : Nat} (hnames : r.names.Nodup) (h : ∀ s, r.Restores s s)
    (hplain : ∀ s, ∀ m ∈ r.members, ∀ j ∈ m.write s, j.isSound = true ∧ j.depth ≤ room) :
    (r.sharedCodec room).Lawful := by
  intro s
  -- Every member that was written passes the test.
  have hall : (written r.members s).all (fun m => m.2.isSound && m.2.depth ≤ room) = true := by
    rw [List.all_eq_true]
    intro e he
    obtain ⟨m, hm, hwrite⟩ := List.mem_filterMap.mp he
    obtain ⟨j, hj, rfl⟩ := Option.map_eq_some_iff.mp hwrite
    rw [Bool.and_eq_true, decide_eq_true_iff]
    exact hplain s m hm j hj
  show (if (written r.members s).all _ then _ else none) = some s
  rw [if_pos hall]
  exact (decodeMembers_written hnames s).trans (h s)

end Record

end Rollout
