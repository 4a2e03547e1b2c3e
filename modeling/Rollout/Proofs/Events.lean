import Mathlib.Data.List.Induction
import Rollout.Machine.Basic

/-!
# The latest event

What the look-up in a machine's history finds: the event with the greatest timestamp, and among
events at the same time the one that stands last. The events may come in any order. Only where
several of the kind share a timestamp does the order tell which of them is found.

## Main statements

- `Machine.Event.latestAfter_of_latestAfter?`: an event that is found after another kind is the
  latest of its own kind, and later than every event of the other.
- `Machine.Event.latestAfter?_eq_none_iff`: nothing is found exactly if nothing is later than every
  event of the other kind, or there is none of it.
- `Machine.Event.latestAfter?_perm`: the order of events at different times does not matter.
- `Machine.findsLatest`: what a machine's look-up finds in any history.
-/

namespace Rollout.Machine

namespace Event

variable {events events' : List Event} {e : Event} {kind after : String}

/-- Whether no event of a history is later than one of them, and none at the same time stands
behind it. -/
def IsLatest (events : List Event) (e : Event) : Prop :=
  ∃ before behind, events = before ++ e :: behind ∧
    (∀ x ∈ before, x.timestamp.millis ≤ e.timestamp.millis) ∧
    ∀ x ∈ behind, x.timestamp.millis < e.timestamp.millis

/-- The latest event is one of the history. -/
theorem IsLatest.mem (h : IsLatest events e) : e ∈ events := by
  obtain ⟨before, behind, rfl, -, -⟩ := h
  exact List.mem_append_right before List.mem_cons_self

/-- No event is later than the latest. -/
theorem IsLatest.le (h : IsLatest events e) {x : Event} (hx : x ∈ events) :
    x.timestamp.millis ≤ e.timestamp.millis := by
  obtain ⟨before, behind, rfl, hbefore, hbehind⟩ := h
  rcases List.mem_append.mp hx with hx | hx
  · exact hbefore x hx
  · rcases List.mem_cons.mp hx with rfl | hx
    · exact Int.le_refl _
    · exact Int.le_of_lt (hbehind x hx)

/-- There is no other latest event. -/
theorem IsLatest.unique {e' : Event} (h : IsLatest events e) (h' : IsLatest events e') :
    e = e' := by
  obtain ⟨before, behind, rfl, hbefore, hbehind⟩ := h
  obtain ⟨before', behind', heq, hbefore', hbehind'⟩ := h'
  -- If one stood before the other, it would be both later and no later than it.
  rcases List.append_eq_append_iff.mp heq with ⟨m, hm, hm'⟩ | ⟨m, hm, hm'⟩
  · cases m with
    | nil => exact (List.cons.inj hm').1
    | cons x m =>
      obtain ⟨rfl, rfl⟩ := List.cons.inj hm'
      have hle := hbefore' e (by simp [hm])
      have hlt := hbehind e' (by simp)
      omega
  · cases m with
    | nil => exact (List.cons.inj hm').1.symm
    | cons x m =>
      obtain ⟨rfl, rfl⟩ := List.cons.inj hm'
      have hle := hbefore e' (by simp [hm])
      have hlt := hbehind' e (by simp)
      omega

/-- The next event is compared with the best one so far. -/
theorem latest?_append (events : List Event) (next : Event) :
    latest? (events ++ [next]) = later (latest? events) next := by
  unfold latest?
  rw [List.foldl_append]
  rfl

/-- Only an empty history has no latest event. -/
theorem latest?_eq_none (h : latest? events = none) : events = [] := by
  induction events using List.reverseRecOn with
  | nil => rfl
  | append_singleton events next _ =>
    rw [latest?_append] at h
    unfold later at h
    split at h
    · cases h
    · split at h <;> cases h

/-- The event that is found is the latest one. -/
theorem isLatest_of_latest? (h : latest? events = some e) : IsLatest events e := by
  -- By induction from the end, since the best one so far is compared with the next.
  induction events using List.reverseRecOn generalizing e with
  | nil => cases h
  | append_singleton events next ih =>
    rw [latest?_append] at h
    cases hbest : latest? events with
    | none =>
      rw [hbest] at h
      obtain rfl := Option.some.inj h
      rw [latest?_eq_none hbest]
      exact ⟨[], [], rfl, by simp, by simp⟩
    | some best =>
      rw [hbest] at h
      have hlatest := ih hbest
      simp only [later] at h
      split at h
      · -- The next event takes over: it is as late as the best one, which no other is later than.
        rename_i hle
        obtain rfl := Option.some.inj h
        exact ⟨events, [], rfl, fun x hx => Int.le_trans (hlatest.le hx) hle, by simp⟩
      · -- The best one is later than the next, and stays.
        rename_i hlt
        obtain rfl := Option.some.inj h
        obtain ⟨before, behind, rfl, hbefore, hbehind⟩ := hlatest
        refine ⟨before, behind ++ [next], by simp, hbefore, fun x hx => ?_⟩
        rcases List.mem_append.mp hx with hx | hx
        · exact hbehind x hx
        · obtain rfl := List.mem_singleton.mp hx
          omega

/-- Whether an event is the latest one of a kind in a history, and strictly later than all events
of another kind, of which there is one. -/
structure LatestAfter (kind after : String) (events : List Event) (e : Event) : Prop where
  isLatest : IsLatest (ofKind kind events) e
  marked : ∃ mark ∈ events, mark.kind = after
  isAfter : ∀ mark ∈ events, mark.kind = after → mark.timestamp.millis < e.timestamp.millis

/-- The events of a kind are those of the history that are of it. -/
theorem mem_ofKind {x : Event} : x ∈ ofKind kind events ↔ x ∈ events ∧ x.kind = kind := by
  unfold ofKind
  rw [List.mem_filter, beq_iff_eq]

/-- The latest event after another kind is one of the history. -/
theorem LatestAfter.mem (h : LatestAfter kind after events e) : e ∈ events :=
  (mem_ofKind.mp h.isLatest.mem).1

/-- It is of the kind that was looked for. -/
theorem LatestAfter.kind_eq (h : LatestAfter kind after events e) : e.kind = kind :=
  (mem_ofKind.mp h.isLatest.mem).2

/-- What is the latest of some events is the latest of all, if the others are no later than
something that it is later than. -/
theorem IsLatest.of_filter {p : Event → Bool} {bound : Int}
    (h : IsLatest (events.filter p) e) (hbound : bound < e.timestamp.millis)
    (hrest : ∀ x ∈ events, p x = false → x.timestamp.millis ≤ bound) : IsLatest events e := by
  obtain ⟨before, behind, heq, hbefore, hbehind⟩ := h
  -- The events around the latest one are those around it in the filtered list, and others between.
  obtain ⟨l₁, l₂, rfl, h₁, h₂⟩ := List.filter_eq_append_iff.mp heq
  obtain ⟨l₃, l₄, rfl, h₃, hp, h₄⟩ := List.filter_eq_cons_iff.mp h₂
  refine ⟨l₁ ++ l₃, l₄, by simp, fun x hx => ?_, fun x hx => ?_⟩
  · -- Before it, another event is no later than the bound.
    cases hx' : p x with
    | false =>
      have hx := hrest x (by simp only [List.mem_append] at hx ⊢; tauto) hx'
      omega
    | true =>
      rcases List.mem_append.mp hx with hx | hx
      · exact hbefore x (h₁ ▸ List.mem_filter.mpr ⟨hx, hx'⟩)
      · exact absurd hx' (h₃ x hx)
  · -- Behind it, another event is earlier for the same reason.
    cases hx' : p x with
    | false =>
      have hx := hrest x (by simp [hx]) hx'
      omega
    | true => exact hbehind x (h₄ ▸ List.mem_filter.mpr ⟨hx, hx'⟩)

/-- An event that is found after another kind is the latest of its own kind, and later than every
event of the other. -/
theorem latestAfter_of_latestAfter? (h : latestAfter? kind after events = some e) :
    LatestAfter kind after events e := by
  unfold latestAfter? at h
  cases hmark : latest? (ofKind after events) with
  | none =>
    rw [hmark] at h
    cases h
  | some mark =>
    rw [hmark] at h
    have hfirst := isLatest_of_latest? hmark
    -- The event was looked for among those after the latest mark, but it is the latest of all.
    have hlatest := isLatest_of_latest? h
    have hlater : mark.timestamp.millis < e.timestamp.millis := by
      simpa using (List.mem_filter.mp hlatest.mem).2
    refine ⟨hlatest.of_filter hlater fun x _ hx => ?_, ?_, fun x hx hkind => ?_⟩
    · rw [decide_eq_false_iff_not] at hx
      omega
    · obtain ⟨hmem, hkind⟩ := mem_ofKind.mp hfirst.mem
      exact ⟨mark, hmem, hkind⟩
    · have hle := hfirst.le (mem_ofKind.mpr ⟨hx, hkind⟩)
      omega

/-- Whether a history has no event of one kind, or none of another that is strictly later than all
of those. -/
def NoneAfter (kind after : String) (events : List Event) : Prop :=
  (∀ mark ∈ events, mark.kind ≠ after) ∨
    ¬∃ e ∈ events, e.kind = kind ∧
      ∀ mark ∈ events, mark.kind = after → mark.timestamp.millis < e.timestamp.millis

/-- Where there is a latest event after the other kind, it is not that there is none. -/
theorem LatestAfter.not_noneAfter (h : LatestAfter kind after events e) :
    ¬NoneAfter kind after events := by
  intro hnone
  cases hnone with
  | inl hunmarked =>
    obtain ⟨mark, hmem, hkind⟩ := h.marked
    exact hunmarked mark hmem hkind
  | inr hnone => exact hnone ⟨e, h.mem, h.kind_eq, h.isAfter⟩

/-- If nothing is found, there is nothing to be found. -/
theorem noneAfter_of_latestAfter? (hnone : latestAfter? kind after events = none) :
    NoneAfter kind after events := by
  unfold latestAfter? at hnone
  cases hmark : latest? (ofKind after events) with
  | none =>
    left
    intro mark hmem hkind
    have hmem := mem_ofKind.mpr ⟨hmem, hkind⟩
    rw [latest?_eq_none hmark] at hmem
    cases hmem
  | some mark =>
    right
    rintro ⟨e, hmem, hkind, hlater⟩
    rw [hmark] at hnone
    -- An event that is later than all marks is among those after the latest mark.
    obtain ⟨hmarkMem, hmarkKind⟩ := mem_ofKind.mp (isLatest_of_latest? hmark).mem
    have hamong : e ∈ (ofKind kind events).filter (mark.timestamp.millis < ·.timestamp.millis) :=
      List.mem_filter.mpr
        ⟨mem_ofKind.mpr ⟨hmem, hkind⟩, decide_eq_true (hlater mark hmarkMem hmarkKind)⟩
    rw [latest?_eq_none hnone] at hamong
    cases hamong

/-- Nothing is found exactly if there is no event of the other kind, or none that is later than all
of them. -/
theorem latestAfter?_eq_none_iff :
    latestAfter? kind after events = none ↔ NoneAfter kind after events := by
  refine ⟨noneAfter_of_latestAfter?, fun hnone => ?_⟩
  rw [Option.eq_none_iff_forall_ne_some]
  intro e hfound
  exact (latestAfter_of_latestAfter? hfound).not_noneAfter hnone

/-- The event that is found after another kind is the latest of its own kind and later than every
event of the other. If there is such an event, it is found. -/
theorem latestAfter?_eq_some_iff :
    latestAfter? kind after events = some e ↔ LatestAfter kind after events e := by
  refine ⟨latestAfter_of_latestAfter?, fun h => ?_⟩
  cases hfound : latestAfter? kind after events with
  | none => exact absurd (noneAfter_of_latestAfter? hfound) h.not_noneAfter
  | some e' => rw [h.isLatest.unique (latestAfter_of_latestAfter? hfound).isLatest]

/-- No event is later than itself. -/
theorem latestAfter?_self : latestAfter? kind kind events = none := by
  rw [Option.eq_none_iff_forall_ne_some]
  intro e hfound
  have h := latestAfter_of_latestAfter? hfound
  exact Int.lt_irrefl _ (h.isAfter e h.mem h.kind_eq)

/-! ### Histories in another order -/

/-- Where all events have times of their own, one that none is later than is the latest. -/
theorem isLatest_of_nodup (hdistinct : (events.map (·.timestamp.millis)).Nodup) (hmem : e ∈ events)
    (hle : ∀ x ∈ events, x.timestamp.millis ≤ e.timestamp.millis) : IsLatest events e := by
  obtain ⟨before, behind, rfl⟩ := List.append_of_mem hmem
  refine ⟨before, behind, rfl, fun x hx => hle x (by simp [hx]), fun x hx => ?_⟩
  have hx' := hle x (by simp [hx])
  -- An event behind it has another time.
  have hne : e.timestamp.millis ≠ x.timestamp.millis := by
    rw [List.map_append, List.map_cons] at hdistinct
    have hnotMem := (List.nodup_cons.mp (List.nodup_append.mp hdistinct).2.1).1
    intro heq
    rw [heq] at hnotMem
    exact hnotMem (List.mem_map_of_mem hx)
  omega

/-- The latest event after another kind is the same in every order of the history. -/
theorem LatestAfter.perm (h : LatestAfter kind after events e) (hperm : events.Perm events')
    (hdistinct : ((ofKind kind events).map (·.timestamp.millis)).Nodup) :
    LatestAfter kind after events' e := by
  have hkinds : (ofKind kind events).Perm (ofKind kind events') := hperm.filter _
  obtain ⟨mark, hmem, hkind⟩ := h.marked
  refine ⟨isLatest_of_nodup ?_ (hkinds.mem_iff.mp h.isLatest.mem) fun x hx => ?_,
    ⟨mark, hperm.mem_iff.mp hmem, hkind⟩, fun x hx => h.isAfter x (hperm.mem_iff.mpr hx)⟩
  · exact (hkinds.map _).nodup_iff.mp hdistinct
  · exact h.isLatest.le (hkinds.mem_iff.mpr hx)

/-- The order of a history does not matter, if no two events of the kind that is looked for share a
timestamp. -/
theorem latestAfter?_perm (hperm : events.Perm events')
    (hdistinct : ((ofKind kind events).map (·.timestamp.millis)).Nodup) :
    latestAfter? kind after events = latestAfter? kind after events' := by
  have hkinds : (ofKind kind events).Perm (ofKind kind events') := hperm.filter _
  have hdistinct' := (hkinds.map (·.timestamp.millis)).nodup_iff.mp hdistinct
  apply Option.ext
  intro e
  rw [latestAfter?_eq_some_iff, latestAfter?_eq_some_iff]
  exact ⟨fun h => h.perm hperm hdistinct, fun h => h.perm hperm.symm hdistinct'⟩

end Event

/-- What the look-up of the latest event of a kind after another finds in a machine's history. -/
structure FindsLatest (m : Machine) (kind after : String) : Prop where
  /-- Nothing is found exactly if there is no event of the other kind, or none of the kind itself
  that is strictly later than all of them. -/
  eq_none_iff : m.latestEventAfter? kind after = none ↔ Event.NoneAfter kind after m.events
  /-- An event that is found is the latest of its kind, the last one in the history among those at
  its time, and strictly later than every event of the other kind. No other event is such. -/
  eq_some_iff : ∀ e, m.latestEventAfter? kind after = some e ↔
    Event.LatestAfter kind after m.events e
  /-- No event is later than itself. -/
  same : kind = after → m.latestEventAfter? kind after = none
  /-- The order of the history does not matter, if no two events of the kind share a timestamp. -/
  perm : ∀ m' : Machine, m.events.Perm m'.events →
    ((Event.ofKind kind m.events).map (·.timestamp.millis)).Nodup →
    m.latestEventAfter? kind after = m'.latestEventAfter? kind after

/-- Whatever the history of a machine is, the look-up finds exactly the latest event of the kind
after the other kind. -/
theorem findsLatest (m : Machine) (kind after : String) : m.FindsLatest kind after where
  eq_none_iff := Event.latestAfter?_eq_none_iff
  eq_some_iff := fun _ => Event.latestAfter?_eq_some_iff
  same := by
    rintro rfl
    exact Event.latestAfter?_self
  perm := fun _ hperm hdistinct => Event.latestAfter?_perm hperm hdistinct

/-- The same exit is found in a history that is told from the end. -/
theorem findsLatest_reversed :
    let start : Event := { kind := "start", timestamp := { millis := 1000 } }
    let exit : Event := { kind := "exit", timestamp := { millis := 2000 } }
    let m : Machine := { events := [start, exit, { start with timestamp := { millis := 3000 } },
      { exit with timestamp := { millis := 4000 } }] }
    let m' : Machine := { events := m.events.reverse }
    m.events.Perm m'.events ∧
    ((Event.ofKind "exit" m.events).map (·.timestamp.millis)).Nodup ∧
    m'.latestEventAfter? "exit" "start" = some { exit with timestamp := { millis := 4000 } } := by
  intro start exit m m'
  have hperm : m.events.Perm m'.events := (List.reverse_perm m.events).symm
  have hdistinct : ((Event.ofKind "exit" m.events).map (·.timestamp.millis)).Nodup := by decide
  refine ⟨hperm, hdistinct, ?_⟩
  rw [← (findsLatest m "exit" "start").perm m' hperm hdistinct]
  decide

/-- Of two exits at one time the last one counts. An exit at the time of a start does not. -/
example :
    let start : Event := { kind := "start", timestamp := { millis := 3 } }
    let failed : Event := { kind := "exit", timestamp := { millis := 5 }, status := "failed" }
    let passed : Event := { failed with status := "passed" }
    ({ events := [failed, start, passed] } : Machine).latestEventAfter? "exit" "start" =
      some passed ∧
    ({ events := [failed, { start with timestamp := failed.timestamp }] } :
      Machine).latestEventAfter? "exit" "start" = none := by decide

end Rollout.Machine
