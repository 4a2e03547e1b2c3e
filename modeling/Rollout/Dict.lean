/-!
# Dictionaries keyed by text

A `Dict α` is an association list in strictly increasing key order. The order makes the
representation canonical: two dictionaries with the same bindings are equal as values, and
listing the bindings gives them by key. Main lemmas: `get?_insert`, `get?_erase`,
`ofList_entries`.
-/

namespace Rollout

/-- Neither of two keys comes before the other exactly when they are the same key. -/
theorem key_eq_of_not_lt {a b : String} (hab : ¬ a < b) (hba : ¬ b < a) : a = b :=
  String.le_antisymm (String.not_lt.1 hba) (String.not_lt.1 hab)

/-- Bindings of text to values, at most one per key, in key order. -/
structure Dict (α : Type) where
  entries : List (String × α)
  sorted : entries.Pairwise (fun a b => a.1 < b.1)
deriving DecidableEq

namespace Dict

variable {α β : Type}

/-- The dictionary without bindings. -/
def empty : Dict α := ⟨[], .nil⟩

instance : Inhabited (Dict α) := ⟨empty⟩
instance : EmptyCollection (Dict α) := ⟨empty⟩

/-- Two dictionaries with the same listing are equal. -/
@[ext] theorem ext {d e : Dict α} (h : d.entries = e.entries) : d = e := by
  cases d; cases e; cases h; rfl

/-- Puts a binding at its place in a listing, over a binding of the same key. -/
def insertInto (k : String) (v : α) : List (String × α) → List (String × α)
  | [] => [(k, v)]
  | e :: rest =>
    if k < e.1 then (k, v) :: e :: rest
    else if e.1 < k then e :: insertInto k v rest
    else (k, v) :: rest

/-- What is in a listing afterwards was put there, or was there before. -/
theorem mem_insertInto {k : String} {v : α} {x : String × α} {l : List (String × α)}
    (h : x ∈ insertInto k v l) : x = (k, v) ∨ x ∈ l := by
  -- By induction on the listing: the binding comes first, later, or in place of the first one.
  induction l with
  | nil => simpa [insertInto] using h
  | cons e rest ih =>
    simp only [insertInto] at h
    split at h
    · simpa using h
    · split at h
      · rcases List.mem_cons.1 h with h | h
        · exact .inr (h ▸ List.mem_cons_self)
        · exact (ih h).imp_right (List.mem_cons_of_mem _)
      · exact (List.mem_cons.1 h).imp_right (List.mem_cons_of_mem _)

/-- A listing stays in the order of its keys. -/
theorem sorted_insertInto (k : String) (v : α) {l : List (String × α)}
    (h : l.Pairwise (fun a b => a.1 < b.1)) :
    (insertInto k v l).Pairwise (fun a b => a.1 < b.1) := by
  induction l with
  | nil => simp [insertInto]
  | cons e rest ih =>
    obtain ⟨he, hr⟩ := List.pairwise_cons.1 h
    simp only [insertInto]
    split
    next hk =>
      refine List.pairwise_cons.2 ⟨fun x hx => ?_, h⟩
      rcases List.mem_cons.1 hx with rfl | hx
      · exact hk
      · exact String.lt_trans hk (he x hx)
    next hk =>
      split
      -- The first key stays before all others, the new one among them.
      next hk' =>
        refine List.pairwise_cons.2 ⟨fun x hx => ?_, ih hr⟩
        rcases mem_insertInto hx with rfl | hx
        · exact hk'
        · exact he x hx
      next hk' =>
        have : k = e.1 := key_eq_of_not_lt hk hk'
        subst this
        exact List.pairwise_cons.2 ⟨he, hr⟩

/-- Binds a key, over what it was bound to before. -/
def insert (d : Dict α) (k : String) (v : α) : Dict α :=
  ⟨insertInto k v d.entries, sorted_insertInto k v d.sorted⟩

/-- Removes the binding of a key. -/
def erase (d : Dict α) (k : String) : Dict α :=
  ⟨d.entries.filter (fun e => e.1 != k), d.sorted.filter _⟩

/-- The value a key is bound to. -/
def get? (d : Dict α) (k : String) : Option α :=
  d.entries.lookup k

/-- Whether a key is bound. -/
def contains (d : Dict α) (k : String) : Bool :=
  (d.get? k).isSome

/-- The bindings given one after the other; a later binding of a key replaces an earlier one. -/
def ofList (l : List (String × α)) : Dict α :=
  l.foldl (fun d e => d.insert e.1 e.2) empty

/-- The bound keys, in order. -/
def keys (d : Dict α) : List String := d.entries.map (·.1)

/-- The bound values, in key order. -/
def values (d : Dict α) : List α := d.entries.map (·.2)

/-- The number of bindings. -/
def size (d : Dict α) : Nat := d.entries.length

/-- Whether nothing is bound. -/
def isEmpty (d : Dict α) : Bool := d.entries.isEmpty

/-- The bindings that a test keeps. -/
def filter (d : Dict α) (p : String → α → Bool) : Dict α :=
  ⟨d.entries.filter (fun e => p e.1 e.2), d.sorted.filter _⟩

/-- The same keys, bound to the images of their values. -/
def mapValues (f : α → β) (d : Dict α) : Dict β :=
  ⟨d.entries.map (fun e => (e.1, f e.2)), List.pairwise_map.2 (d.sorted.imp (fun h => h))⟩

/-! ## Looking up after a change -/

@[simp] theorem get?_empty (k : String) : (empty : Dict α).get? k = none := rfl

/-- A binding in front answers for its key, and what follows for all others. -/
theorem lookup_cons_eq_ite (k : String) (e : String × α) (l : List (String × α)) :
    (e :: l).lookup k = if k = e.1 then some e.2 else l.lookup k := by
  obtain ⟨k', v⟩ := e
  rw [List.lookup_cons]
  by_cases h : k = k'
  · simp [h]
  · simp [beq_false_of_ne h, h]

/-- What is found afterwards is what was put there, or what was found before. -/
theorem lookup_insertInto (k k' : String) (v : α) {l : List (String × α)}
    (h : l.Pairwise (fun a b => a.1 < b.1)) :
    (insertInto k v l).lookup k' = if k' = k then some v else l.lookup k' := by
  induction l with
  | nil => exact lookup_cons_eq_ite k' (k, v) []
  | cons e rest ih =>
    obtain ⟨he, hr⟩ := List.pairwise_cons.1 h
    simp only [insertInto]
    split
    · exact lookup_cons_eq_ite k' (k, v) (e :: rest)
    next hlt =>
      split
      next hgt =>
        rw [lookup_cons_eq_ite, lookup_cons_eq_ite, ih hr]
        by_cases hk : k' = k
        · have hne : k' ≠ e.1 := fun h => String.lt_irrefl k (by rwa [← h, hk] at hgt)
          rw [if_neg hne, if_pos hk, if_pos hk]
        · rw [if_neg hk, if_neg hk]
      next hgt =>
        -- The keys are the same, so the old binding is the one that makes way.
        have hke : k = e.1 := key_eq_of_not_lt hlt hgt
        rw [lookup_cons_eq_ite, lookup_cons_eq_ite, hke]
        by_cases hk : k' = e.1
        · rw [if_pos hk, if_pos hk]
        · rw [if_neg hk, if_neg hk, if_neg hk]

/-- After a binding, its key has the new value and every other key what it had. -/
theorem get?_insert (d : Dict α) (k k' : String) (v : α) :
    (d.insert k v).get? k' = if k' = k then some v else d.get? k' :=
  lookup_insertInto k k' v d.sorted

/-- After a removal, the key is unbound and every other key has what it had. -/
theorem get?_erase (d : Dict α) (k k' : String) :
    (d.erase k).get? k' = if k' = k then none else d.get? k' := by
  obtain ⟨l, hl⟩ := d
  simp only [erase, get?]
  clear hl
  induction l with
  | nil => simp
  | cons e rest ih =>
    by_cases hek : e.1 = k
    · rw [List.filter_cons_of_neg (by simp [hek]), ih, lookup_cons_eq_ite]
      by_cases hk : k' = k
      · rw [if_pos hk, if_pos hk]
      · have hne : k' ≠ e.1 := fun h => hk (h.trans hek)
        rw [if_neg hk, if_neg hk, if_neg hne]
    · rw [List.filter_cons_of_pos (by simp [hek]), lookup_cons_eq_ite, lookup_cons_eq_ite, ih]
      by_cases hk : k' = e.1
      · have hne : k' ≠ k := fun h => hek (hk.symm.trans h)
        rw [if_pos hk, if_neg hne, if_pos hk]
      · rw [if_neg hk, if_neg hk]

/-! ## Listing and reading back -/

/-- A key beyond all others goes to the end. -/
theorem insertInto_of_forall_lt {k : String} {v : α} {l : List (String × α)}
    (h : ∀ e ∈ l, e.1 < k) : insertInto k v l = l ++ [(k, v)] := by
  induction l with
  | nil => rfl
  | cons e rest ih =>
    have he : e.1 < k := h e List.mem_cons_self
    have hk : ¬ k < e.1 := fun hk => String.lt_irrefl k (String.lt_trans hk he)
    simp only [insertInto, if_neg hk, if_pos he, List.cons_append]
    rw [ih (fun x hx => h x (List.mem_cons_of_mem _ hx))]

/-- Bindings in key order, all beyond those of a dictionary, are put behind them. -/
theorem entries_foldl_insert (l : List (String × α)) (d : Dict α)
    (h : (d.entries ++ l).Pairwise (fun a b => a.1 < b.1)) :
    (l.foldl (fun d e => d.insert e.1 e.2) d).entries = d.entries ++ l := by
  induction l generalizing d with
  | nil => simp
  | cons e rest ih =>
    have hd : ∀ x ∈ d.entries, x.1 < e.1 := fun x hx =>
      (List.pairwise_append.1 h).2.2 x hx e List.mem_cons_self
    have hins : (d.insert e.1 e.2).entries = d.entries ++ [e] := insertInto_of_forall_lt hd
    rw [List.foldl_cons, ih, hins, List.append_assoc, List.singleton_append]
    rw [hins, List.append_assoc, List.singleton_append]
    exact h

/-- Reading the listing of a dictionary gives the dictionary. -/
theorem ofList_entries (d : Dict α) : ofList d.entries = d := by
  apply ext
  have h := entries_foldl_insert d.entries empty d.sorted
  exact h.trans (List.nil_append _)

end Dict

end Rollout
