import Mathlib.Data.List.Basic
import Rollout.Json.Codec

/-!
# Documents

A document is a JSON value that denotes something and has its members in key order, each name once.
Making a value canonical makes a document of it, no deeper than it was, and a document is canonical
already. So a document that was read is read again as it is, if it is not nested too deep for a
text.

## Main statements

- `Json.canonical_canonical`: what was made canonical is canonical.
- `Json.depth_canonical_le`: a canonical value is nested no deeper.
- `Codec.document_restores`: a document is read as it was written.
- `Codec.document_decode`: what is read as a document is one.
-/

namespace Rollout

namespace Json

variable {items : List Json} {members : List (String × Json)} {n : Nat}

/-! ## Items and members one by one -/

/-- Items are sound if each of them is. -/
theorem areSoundItems_iff : areSoundItems items = true ↔ ∀ j ∈ items, j.isSound = true := by
  induction items with
  | nil => simp [areSoundItems]
  | cons j items ih => rw [areSoundItems, Bool.and_eq_true, ih, List.forall_mem_cons]

/-- Items are nested so deep at most if each of them is. -/
theorem depthOfItems_le_iff : depthOfItems items ≤ n ↔ ∀ j ∈ items, j.depth ≤ n := by
  induction items with
  | nil => simp [depthOfItems]
  | cons j items ih => rw [depthOfItems, Nat.max_le, ih, List.forall_mem_cons]

/-- Members are sound if the value of each is. -/
theorem areSoundMembers_iff :
    areSoundMembers members = true ↔ ∀ m ∈ members, m.2.isSound = true := by
  induction members with
  | nil => simp [areSoundMembers]
  | cons m members ih => rw [areSoundMembers, Bool.and_eq_true, ih, List.forall_mem_cons]

/-- Members are nested so deep at most if the value of each is. -/
theorem depthOfMembers_le_iff : depthOfMembers members ≤ n ↔ ∀ m ∈ members, m.2.depth ≤ n := by
  induction members with
  | nil => simp [depthOfMembers]
  | cons m members ih => rw [depthOfMembers, Nat.max_le, ih, List.forall_mem_cons]

/-- Items are made canonical one by one. -/
theorem canonicalItems_eq_map : canonicalItems items = items.map canonical := by
  induction items with
  | nil => rfl
  | cons j items ih => rw [canonicalItems, ih, List.map_cons]

/-- Members are made canonical one by one. -/
theorem canonicalMembers_eq_map :
    canonicalMembers members = members.map fun m => (m.1, m.2.canonical) := by
  induction members with
  | nil => rfl
  | cons m members ih => rw [canonicalMembers, ih, List.map_cons]

/-- Every binding of a dictionary that was listed comes from the list. -/
theorem mem_of_mem_ofList {α : Type} {l : List (String × α)} {e : String × α}
    (h : e ∈ (Dict.ofList l).entries) : e ∈ l := by
  -- Said of any dictionary to start from, for the induction on the list.
  have hfold : ∀ (l : List (String × α)) (d : Dict α),
      e ∈ (l.foldl (fun d e => d.insert e.1 e.2) d).entries → e ∈ d.entries ∨ e ∈ l := by
    intro l
    induction l with
    | nil => exact fun _ h => .inl h
    | cons first l ih =>
      intro d h
      rcases ih _ h with h | h
      · rcases Dict.mem_insertInto h with rfl | h
        · exact .inr List.mem_cons_self
        · exact .inl h
      · exact .inr (List.mem_cons_of_mem _ h)
  exact (hfold l _ h).resolve_left List.not_mem_nil

/-- What holds of a container when it holds of what is inside, and of all other values, holds of
every value. -/
theorem induction_inside {P : Json → Prop} (harray : ∀ items, (∀ j ∈ items, P j) → P (.array items))
    (hobject : ∀ members, (∀ m ∈ members, P m.2) → P (.object members))
    (hplain : ∀ j, j.depth = 0 → P j) (j : Json) : P j := by
  -- What is inside of a container is nested less deep.
  induction hdepth : j.depth using Nat.strongRecOn generalizing j with
  | _ n ih =>
    cases j with
    | array items =>
      refine harray items fun j hj => ih j.depth ?_ j rfl
      have hle := depthOfItems_le_iff.mp (Nat.le_refl _) j hj
      rw [depth] at hdepth
      omega
    | object members =>
      refine hobject members fun m hm => ih m.2.depth ?_ m.2 rfl
      have hle := depthOfMembers_le_iff.mp (Nat.le_refl _) m hm
      rw [depth] at hdepth
      omega
    | _ => exact hplain _ rfl

/-! ## Canonical values -/

/-- A value with nothing inside is canonical. -/
theorem canonical_of_depth_eq_zero {j : Json} (h : j.depth = 0) : j.canonical = j := by
  cases j with
  | array items => cases h
  | object members => cases h
  | _ => rfl

/-- The members of a canonical object are members of the object, made canonical. -/
theorem mem_canonical {m : String × Json}
    (h : m ∈ (Dict.ofList (canonicalMembers members)).entries) :
    ∃ m' ∈ members, m = (m'.1, m'.2.canonical) := by
  have hmem := mem_of_mem_ofList h
  rw [canonicalMembers_eq_map] at hmem
  obtain ⟨m', hm', rfl⟩ := List.mem_map.mp hmem
  exact ⟨m', hm', rfl⟩

/-- What was made canonical is canonical. -/
theorem canonical_canonical (j : Json) : j.canonical.canonical = j.canonical := by
  induction j using induction_inside with
  | harray items ih =>
    rw [canonical, canonical, canonicalItems_eq_map, canonicalItems_eq_map, List.map_map]
    exact congrArg Json.array (List.map_congr_left ih)
  | hobject members ih =>
    -- The values are canonical by induction; the dictionary has no key twice and is sorted.
    have hvalues : canonicalMembers (Dict.ofList (canonicalMembers members)).entries =
        (Dict.ofList (canonicalMembers members)).entries := by
      rw [canonicalMembers_eq_map]
      refine (List.map_congr_left fun m hm => ?_).trans (List.map_id _)
      obtain ⟨m', hm', rfl⟩ := mem_canonical hm
      rw [ih m' hm']
      rfl
    rw [canonical, canonical, hvalues, Dict.ofList_entries]
  | hplain j hdepth => rw [canonical_of_depth_eq_zero hdepth, canonical_of_depth_eq_zero hdepth]

/-- A sound value stays sound when it is made canonical. -/
theorem isSound_canonical {j : Json} (h : j.isSound = true) : j.canonical.isSound = true := by
  induction j using induction_inside with
  | harray items ih =>
    rw [isSound, areSoundItems_iff] at h
    rw [canonical, isSound, areSoundItems_iff, canonicalItems_eq_map]
    intro j hj
    obtain ⟨item, hitem, rfl⟩ := List.mem_map.mp hj
    exact ih item hitem (h item hitem)
  | hobject members ih =>
    rw [isSound, areSoundMembers_iff] at h
    rw [canonical, isSound, areSoundMembers_iff]
    intro m hm
    -- A member of the dictionary is one of the object.
    obtain ⟨m', hm', rfl⟩ := mem_canonical hm
    exact ih m' hm' (h m' hm')
  | hplain j hdepth => rwa [canonical_of_depth_eq_zero hdepth]

/-- A canonical value is nested no deeper. -/
theorem depth_canonical_le (j : Json) : j.canonical.depth ≤ j.depth := by
  induction j using induction_inside with
  | harray items ih =>
    rw [canonical, depth, depth]
    refine Nat.succ_le_succ (depthOfItems_le_iff.mpr fun j hj => ?_)
    rw [canonicalItems_eq_map] at hj
    obtain ⟨item, hitem, rfl⟩ := List.mem_map.mp hj
    exact Nat.le_trans (ih item hitem) (depthOfItems_le_iff.mp (Nat.le_refl _) item hitem)
  | hobject members ih =>
    rw [canonical, depth, depth]
    refine Nat.succ_le_succ (depthOfMembers_le_iff.mpr fun m hm => ?_)
    obtain ⟨m', hm', rfl⟩ := mem_canonical hm
    exact Nat.le_trans (ih m' hm') (depthOfMembers_le_iff.mp (Nat.le_refl _) m' hm')
  | hplain j hdepth => exact Nat.le_of_eq (congrArg depth (canonical_of_depth_eq_zero hdepth))

/-- Whether a value denotes something and is the canonical form of itself. -/
structure IsDocument (j : Json) : Prop where
  sound : j.isSound = true
  canonical : j.canonical = j

/-- So many arrays, one inside the other, around `null`. -/
def nested : Nat → Json
  | 0 => .null
  | n + 1 => .array [nested n]

/-- So many arrays are nested so deep. -/
@[simp] theorem depth_nested : (nested n).depth = n := by
  induction n with
  | zero => rfl
  | succ n ih => simp only [nested, depth, depthOfItems, ih, Nat.max_zero]

/-- So many arrays are a document. -/
theorem isDocument_nested (n : Nat) : (nested n).IsDocument := by
  induction n with
  | zero => exact ⟨rfl, rfl⟩
  | succ n ih =>
    constructor
    · simp only [nested, isSound, areSoundItems, ih.sound, Bool.and_self]
    · simp only [nested, canonical, canonicalItems, ih.canonical]

end Json

namespace Codec

variable {room : Nat} {j v : Json}

/-- A document that is not nested too deep is read as it was written. -/
theorem document_restores (h : v.IsDocument) (hdepth : v.depth ≤ room) :
    (document room).decode ((document room).encode v) = some v := by
  have hfits : (v.isSound && decide (v.depth ≤ room)) = true := by
    rw [Bool.and_eq_true, decide_eq_true_iff]
    exact ⟨h.sound, hdepth⟩
  show (if (v.isSound && decide (v.depth ≤ room)) = true then some v.canonical else none) = some v
  rw [if_pos hfits, h.canonical]

/-- What is nested too deep is not read. -/
theorem document_decode_eq_none (h : room < j.depth) : (document room).decode j = none := by
  have hfits : ¬(j.isSound && decide (j.depth ≤ room)) = true := by
    rw [Bool.and_eq_true, decide_eq_true_iff]
    exact fun hfits => absurd hfits.2 (Nat.not_le_of_lt h)
  exact if_neg hfits

/-- What is read as a document is one, and is not nested too deep. -/
theorem document_decode (h : (document room).decode j = some v) :
    v.IsDocument ∧ v.depth ≤ room := by
  unfold document at h
  dsimp only at h
  split at h
  · -- It was read, so it was sound and not too deep.
    rename_i hfits
    rw [Bool.and_eq_true, decide_eq_true_iff] at hfits
    obtain rfl := Option.some.inj h
    exact ⟨⟨Json.isSound_canonical hfits.1, j.canonical_canonical⟩,
      Nat.le_trans j.depth_canonical_le hfits.2⟩
  · cases h

end Codec

end Rollout
