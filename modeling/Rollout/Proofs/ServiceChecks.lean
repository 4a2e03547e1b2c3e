import Rollout.Proofs.Convergence

/-!
# The checks of services

A group runs the checks of the app that are for it and those of the services that serve it. The
check of a service is named by the place of the service among those that serve the group, by its own
place among the checks of the service, and by its kind. No two checks get the same name, whatever
their kinds, so none of them takes the place of another one, and each probes the port of the service
at its place.

## Main statements

- `App.Config.checkName_inj`: a name tells the places and the kind.
- `App.Config.checksFor_agrees`: which checks a group runs, and how they go with its services.
-/

namespace Rollout

/-! ## Changes of dictionaries -/

namespace Dict

variable {α β : Type}

/-- What is kept is what was bound and passes the test. -/
theorem get?_filter (d : Dict α) (p : String → α → Bool) (k : String) :
    (d.filter p).get? k = (d.get? k).filter (p k) := by
  -- Both say which entries there are.
  ext v
  rw [Option.filter_eq_some_iff, ← mem_entries_iff, ← mem_entries_iff]
  exact List.mem_filter

/-- Under every key there is the new value for what was bound. -/
theorem get?_mapValues (f : α → β) (d : Dict α) (k : String) :
    (d.mapValues f).get? k = (d.get? k).map f := by
  ext v
  rw [Option.map_eq_some_iff, ← mem_entries_iff]
  simp only [← mem_entries_iff]
  constructor
  · -- An entry of the new values comes from one of the old, under the same key.
    intro h
    obtain ⟨⟨k', v'⟩, hmem, heq⟩ := List.mem_map.mp h
    cases heq
    exact ⟨v', hmem, rfl⟩
  · rintro ⟨v', hmem, rfl⟩
    exact List.mem_map.mpr ⟨(k, v'), hmem, rfl⟩

variable {bindings : List (String × α)} {k : String} {v : α}

/-- What is not bound again stays as it was. -/
theorem get?_foldl_insert_of_ne (d : Dict α) (h : ∀ e ∈ bindings, k ≠ e.1) :
    (bindings.foldl (fun d e => d.insert e.1 e.2) d).get? k = d.get? k := by
  -- By induction on the bindings, the dictionary changing with each.
  induction bindings generalizing d with
  | nil => rfl
  | cons e rest ih =>
    obtain ⟨hfirst, hrest⟩ := List.forall_mem_cons.mp h
    rw [List.foldl_cons, ih _ hrest, get?_insert, if_neg hfirst]

/-- Where no key is bound twice, every binding counts. -/
theorem get?_foldl_insert_of_mem (d : Dict α) (hkeys : (bindings.map (·.1)).Nodup)
    (h : (k, v) ∈ bindings) :
    (bindings.foldl (fun d e => d.insert e.1 e.2) d).get? k = some v := by
  induction bindings generalizing d with
  | nil => cases h
  | cons e rest ih =>
    obtain ⟨hfirst, hrest⟩ := List.nodup_cons.mp hkeys
    rw [List.foldl_cons]
    -- The first binding is not bound again, since no other one has its key.
    rcases List.mem_cons.mp h with rfl | h
    · rw [get?_foldl_insert_of_ne, get?_insert, if_pos rfl]
      rintro e he rfl
      exact hfirst (List.mem_map.mpr ⟨e, he, rfl⟩)
    · exact ih _ hrest h

end Dict

/-! ## Names -/

/-- What stands before the first mark and what stands behind it is certain. -/
theorem append_cons_inj_of_not_mem {α : Type} {mark : α} {x x' y y' : List α} (hx : mark ∉ x)
    (hx' : mark ∉ x') (h : x ++ mark :: y = x' ++ mark :: y') : x = x' ∧ y = y' := by
  -- If one front were longer, the mark of the other would be in it.
  rcases List.append_eq_append_iff.mp h with ⟨m, rfl, hm⟩ | ⟨m, rfl, hm⟩
  · cases m with
    | nil => exact ⟨(List.append_nil x).symm, (List.cons.inj hm).2⟩
    | cons a m =>
      obtain rfl := (List.cons.inj hm).1
      exact absurd (by simp) hx'
  · cases m with
    | nil => exact ⟨List.append_nil x', (List.cons.inj hm).2.symm⟩
    | cons a m =>
      obtain rfl := (List.cons.inj hm).1
      exact absurd (by simp) hx

namespace App.Config

variable {c : Config} {group kind kind' name : String} {index n n' : Nat}

/-- The decimal digits of a number, two at least. -/
def twoDigits (n : Nat) : List Char := (Nat.toDigits 10 n).leftpad 2 '0'

/-- There is nothing but digits in it. -/
theorem isDigit_of_mem_twoDigits {ch : Char} (h : ch ∈ twoDigits n) : ch.isDigit = true := by
  rcases List.mem_append.mp h with h | h
  · rw [(List.mem_replicate.mp h).2]
    rfl
  · exact Nat.isDigit_of_mem_toDigits (by decide) (by decide) h

/-- The digits tell the number. -/
theorem twoDigits_inj (h : twoDigits n = twoDigits n') : n = n' := by
  -- Leading zeros do not change the value of the digits.
  have hvalue (m : Nat) : Nat.ofDigitChars 10 (twoDigits m) 0 = m := by
    rw [twoDigits, List.leftpad, Nat.ofDigitChars_append, Nat.ofDigitChars_replicate_zero,
      Nat.mul_zero, Nat.ofDigitChars_toDigits (by decide) (by decide)]
  rw [← hvalue n, h, hvalue n']

/-- How the name of a check is written. -/
theorem toList_checkName (index n : Nat) (kind : String) :
    (checkName index n kind).toList = "servicecheck-".toList ++
      (twoDigits index ++ '-' :: (Nat.toDigits 10 n ++ '-' :: kind.toList)) := by
  have hindex : ((if index < 10 then "0" else "") ++ toString index : String).toList =
      twoDigits index := by
    rw [String.toList_append, Nat.toString_eq_ofList_toDigits, String.toList_ofList, twoDigits,
      List.leftpad]
    congr 1
    split
    · rw [Nat.toDigits_of_lt_base ‹_›]
      rfl
    · -- A number of ten or more has two digits already.
      have hlength : 2 ≤ (Nat.toDigits 10 index).length := by
        by_contra hlt
        have hle := (Nat.length_toDigits_le_iff (b := 10) (n := index) (k := 1) (by decide)
          (by decide)).mp (by omega)
        omega
      rw [Nat.sub_eq_zero_of_le hlength]
      rfl
  unfold checkName
  simp only [String.toList_append, Nat.toString_eq_ofList_toDigits,
    String.toList_ofList] at hindex ⊢
  simp [← hindex]

/-- A name tells the place of the service, that of the check and its kind. -/
theorem checkName_inj {index' : Nat} (h : checkName index n kind = checkName index' n' kind') :
    index = index' ∧ n = n' ∧ kind = kind' := by
  have hlists := congrArg String.toList h
  rw [toList_checkName, toList_checkName] at hlists
  have hdash : ('-' : Char).isDigit = false := rfl
  -- No dash is among the digits, so the first two dashes part the name.
  have hfirst (m : Nat) : '-' ∉ twoDigits m := fun hmem =>
    Bool.false_ne_true (hdash.symm.trans (isDigit_of_mem_twoDigits hmem))
  have hsecond (m : Nat) : '-' ∉ Nat.toDigits 10 m := fun hmem =>
    Bool.false_ne_true (hdash.symm.trans
      (Nat.isDigit_of_mem_toDigits (by decide) (by decide) hmem))
  obtain ⟨hindex, hrest⟩ := append_cons_inj_of_not_mem (hfirst index) (hfirst index')
    (List.append_cancel_left hlists)
  obtain ⟨hn, hkind⟩ := append_cons_inj_of_not_mem (hsecond n) (hsecond n') hrest
  refine ⟨twoDigits_inj hindex, ?_, String.toList_inj.mp hkind⟩
  have hvalue := congrArg (Nat.ofDigitChars 10 · 0) hn
  simpa using hvalue

/-! ## The checks of a list of services -/

variable {ports : List (UInt16 × List ServiceCheck)}

/-- The checks of services are those at all their places. -/
theorem mem_serviceChecksFrom {e : String × Machine.Check} : e ∈ serviceChecksFrom index ports ↔
    ∃ i n port checks check, ports[i]? = some (port, checks) ∧ checks[n]? = some check ∧
      e = (checkName (index + i) n check.kind, check.toCheck port) := by
  -- By induction on the services, counted from any index on.
  induction ports generalizing index with
  | nil => simp [serviceChecksFrom]
  | cons first rest ih =>
    obtain ⟨port, checks⟩ := first
    rw [serviceChecksFrom, List.mem_append, ih, List.mem_map]
    -- The first service is at place zero; the others are one place further on than in the rest.
    constructor
    · rintro (⟨⟨check, n⟩, hcheck, rfl⟩ | ⟨i, n, port', checks', check, hport, hcheck, rfl⟩)
      · exact ⟨0, n, port, checks, check, rfl, List.mem_zipIdx_iff_getElem?.mp hcheck, rfl⟩
      · exact ⟨i + 1, n, port', checks', check, hport, hcheck, by rw [Nat.add_assoc,
          Nat.add_comm 1]⟩
    · rintro ⟨i, n, port', checks', check, hport, hcheck, rfl⟩
      cases i with
      | zero =>
        obtain ⟨rfl, rfl⟩ := Prod.mk.inj (Option.some.inj hport)
        exact .inl ⟨(check, n), List.mem_zipIdx_iff_getElem?.mpr hcheck, rfl⟩
      | succ i =>
        exact .inr ⟨i, n, port', checks', check, hport, hcheck, by rw [Nat.add_assoc,
          Nat.add_comm 1]⟩

/-- No two checks of services have the same name. -/
theorem nodup_serviceChecksFrom (index : Nat) (ports : List (UInt16 × List ServiceCheck)) :
    ((serviceChecksFrom index ports).map (·.1)).Nodup := by
  induction ports generalizing index with
  | nil => exact List.nodup_nil
  | cons first rest ih =>
    obtain ⟨port, checks⟩ := first
    rw [serviceChecksFrom, List.map_append, List.map_map]
    refine List.nodup_append.mpr ⟨?_, ih _, ?_⟩
    · -- The checks of one service are at different places.
      have hplaces : (checks.zipIdx.map (·.2)).Nodup := by
        rw [List.zipIdx_map_snd]
        exact List.nodup_range'
      refine List.pairwise_map.mpr ((List.pairwise_map.mp hplaces).imp fun hne heq => ?_)
      exact hne (checkName_inj heq).2.1
    · -- The checks of later services have a greater index.
      rintro name hname _ hrest rfl
      obtain ⟨⟨check, n⟩, -, rfl⟩ := List.mem_map.mp hname
      obtain ⟨e, he, heq⟩ := List.mem_map.mp hrest
      obtain ⟨i, n', port', checks', check', -, -, rfl⟩ := mem_serviceChecksFrom.mp he
      have hindex := (checkName_inj heq).1
      omega

end App.Config

/-! ## The services of a group -/

namespace App

/-- A part of an app configuration that describes a service. -/
inductive ServicePart where
  | web (s : HttpService)
  | listed (s : ServiceSection)

namespace ServicePart

/-- The process groups that serve it, none for all. -/
def processes : ServicePart → List String
  | web s => s.processes
  | listed s => s.processes

def checks : ServicePart → List ServiceCheck
  | web s => s.checks
  | listed s => s.checks

def toService : ServicePart → Machine.Service
  | web s => s.toService
  | listed s => s.toService

end ServicePart

namespace Config

variable {c : Config} {group kind name : String} {i n : Nat} {check : ServiceCheck}

/-- The services that serve a group: the web service first, then the others in order. -/
def servedParts (c : Config) (group : String) : List ServicePart :=
  (c.httpService.toList.map ServicePart.web ++ c.services.map ServicePart.listed).filter
    (serves ·.processes group)

/-- The check at a place of the service at a place, among those that serve a group. -/
def serviceCheck? (c : Config) (group : String) (i n : Nat) : Option ServiceCheck :=
  (c.servedParts group)[i]?.bind (·.checks[n]?)

/-- The services of a group are picked and put in order as the parts are. -/
theorem servicesFor_eq (c : Config) (group : String) :
    c.servicesFor group = (c.servedParts group).map (·.toService) := by
  rw [servicesFor, Option.toList_filter, servedParts, List.filter_append, List.map_append,
    List.filter_map, List.filter_map, List.map_map, List.map_map]
  rfl

/-- So are the ports that they are checked on, which are picked a second time. -/
theorem checkedPortsFor_eq (c : Config) (group : String) :
    c.checkedPortsFor group =
      (c.servedParts group).map fun s => (s.toService.internalPort, s.checks) := by
  rw [checkedPortsFor, servedParts, List.filter_append, List.map_append, List.filter_map,
    List.filter_map, List.map_map, List.map_map]
  rfl

/-- There is a check at its place just if there is a service at the other. -/
theorem serviceCheck?_eq_some_iff : c.serviceCheck? group i n = some check ↔
    ∃ part, (c.servedParts group)[i]? = some part ∧ part.checks[n]? = some check :=
  Option.bind_eq_some_iff

/-- The checks that a group runs for its services. The services and the ports are picked on their
own, but the one at a place goes with the other at it. -/
theorem mem_serviceChecksFrom_checkedPortsFor {v : Machine.Check} :
    (name, v) ∈ serviceChecksFrom 0 (c.checkedPortsFor group) ↔ ∃ i n check service,
      c.serviceCheck? group i n = some check ∧ (c.servicesFor group)[i]? = some service ∧
      name = checkName i n check.kind ∧ v = check.toCheck service.internalPort := by
  rw [mem_serviceChecksFrom, checkedPortsFor_eq, servicesFor_eq]
  simp only [serviceCheck?_eq_some_iff, List.getElem?_map, Option.map_eq_some_iff, Nat.zero_add]
  constructor
  · rintro ⟨i, n, port, checks, check, ⟨part, hpart, heq⟩, hcheck, hbinding⟩
    obtain ⟨rfl, rfl⟩ := Prod.mk.inj heq
    obtain ⟨hname, hv⟩ := Prod.mk.inj hbinding
    exact ⟨i, n, check, _, ⟨part, hpart, hcheck⟩, ⟨part, hpart, rfl⟩, hname, hv⟩
  · rintro ⟨i, n, check, service, ⟨part, hpart, hcheck⟩, ⟨part', hpart', rfl⟩, rfl, rfl⟩
    -- The service and the port at one place are of one part.
    obtain rfl := Option.some.inj (hpart.symm.trans hpart')
    exact ⟨i, n, _, _, check, ⟨part, hpart, rfl⟩, hcheck, rfl⟩

/-- The checks of the app that a group runs. -/
theorem get?_groupChecks {v : Machine.Check} :
    ((c.checks.filter (fun _ g => serves g.processes group)).mapValues (·.check)).get? name =
      some v ↔
    ∃ g, c.checks.get? name = some g ∧ serves g.processes group = true ∧ g.check = v := by
  rw [Dict.get?_mapValues, Dict.get?_filter, Option.map_eq_some_iff]
  simp only [Option.filter_eq_some_iff, and_assoc]

/-- A check of a service is run under its name. -/
theorem get?_checksFor_of_mem {v : Machine.Check}
    (h : (name, v) ∈ serviceChecksFrom 0 (c.checkedPortsFor group)) :
    (c.checksFor group).get? name = some v :=
  Dict.get?_foldl_insert_of_mem _ (nodup_serviceChecksFrom 0 _) h

/-- Under any other name it is a check of the app that is run, if there is one. -/
theorem get?_checksFor_of_not_mem
    (h : ∀ v, (name, v) ∉ serviceChecksFrom 0 (c.checkedPortsFor group)) :
    (c.checksFor group).get? name =
      ((c.checks.filter (fun _ g => serves g.processes group)).mapValues (·.check)).get? name := by
  refine Dict.get?_foldl_insert_of_ne _ ?_
  rintro ⟨name', v⟩ hmem rfl
  exact h v hmem

/-- Which checks a group runs, and how they go with its services. Every check of every service that
serves the group is run on the port of the service, under a name that no other one has, and so are
the checks of the app that are for the group and have none of these names. -/
theorem checksFor_agrees (c : Config) (group : String) :
    c.servicesFor group = (c.servedParts group).map (·.toService) ∧
    (∀ i n check, c.serviceCheck? group i n = some check → ∃ service,
      (c.servicesFor group)[i]? = some service ∧
      (c.checksFor group).get? (checkName i n check.kind) = some
        { kind := some check.kind, port := some service.internalPort
          intervalSecs := check.intervalSecs, timeoutSecs := check.timeoutSecs
          gracePeriodSecs := check.gracePeriodSecs, method := check.method, path := check.path }) ∧
    (∀ i n kind, (checkName i n kind).toList = "servicecheck-".toList ++
      ((Nat.toDigits 10 i).leftpad 2 '0' ++ '-' :: (Nat.toDigits 10 n ++ '-' :: kind.toList))) ∧
    (∀ i n kind i' n' kind', checkName i n kind = checkName i' n' kind' →
      i = i' ∧ n = n' ∧ kind = kind') ∧
    ∀ name v, (c.checksFor group).get? name = some v ↔
      (∃ i n check service, c.serviceCheck? group i n = some check ∧
        (c.servicesFor group)[i]? = some service ∧ name = checkName i n check.kind ∧
        v = check.toCheck service.internalPort) ∨
      (∀ i n check, c.serviceCheck? group i n = some check → name ≠ checkName i n check.kind) ∧
        ∃ g, c.checks.get? name = some g ∧ serves g.processes group = true ∧ g.check = v := by
  -- Where there is a check there is a service at its place.
  have hservice {i n : Nat} {check : ServiceCheck} (h : c.serviceCheck? group i n = some check) :
      ∃ service, (c.servicesFor group)[i]? = some service := by
    obtain ⟨part, hpart, -⟩ := serviceCheck?_eq_some_iff.mp h
    exact ⟨part.toService, by rw [servicesFor_eq, List.getElem?_map, hpart]; rfl⟩
  refine ⟨c.servicesFor_eq group, fun i n check hcheck => ?_, toList_checkName,
    fun _ _ _ _ _ _ => checkName_inj, fun name v => ?_⟩
  · obtain ⟨service, hi⟩ := hservice hcheck
    exact ⟨service, hi, get?_checksFor_of_mem
      (mem_serviceChecksFrom_checkedPortsFor.mpr ⟨i, n, check, service, hcheck, hi, rfl, rfl⟩)⟩
  · -- A name is taken by a check of a service, or else left to the checks of the app.
    by_cases hmem : ∃ v', (name, v') ∈ serviceChecksFrom 0 (c.checkedPortsFor group)
    · obtain ⟨v', hmem⟩ := hmem
      rw [get?_checksFor_of_mem hmem, ← mem_serviceChecksFrom_checkedPortsFor]
      obtain ⟨i, n, check, service, hcheck, -, hname, -⟩ :=
        mem_serviceChecksFrom_checkedPortsFor.mp hmem
      refine ⟨fun h => .inl (Option.some.inj h ▸ hmem), ?_⟩
      rintro (h | ⟨hother, -⟩)
      · exact (get?_checksFor_of_mem hmem).symm.trans (get?_checksFor_of_mem h)
      · exact absurd hname (hother i n check hcheck)
    · -- No check of a service has the name, so that no check of the app with it is hidden.
      rw [get?_checksFor_of_not_mem (not_exists.mp hmem), get?_groupChecks,
        ← mem_serviceChecksFrom_checkedPortsFor]
      refine ⟨fun h => .inr ⟨fun i n check hcheck hname => ?_, h⟩, ?_⟩
      · obtain ⟨service, hi⟩ := hservice hcheck
        exact hmem ⟨_, mem_serviceChecksFrom_checkedPortsFor.mpr
          ⟨i, n, check, service, hcheck, hi, hname, rfl⟩⟩
      · rintro (h | ⟨-, h⟩)
        · exact absurd ⟨v, h⟩ hmem
        · exact h

/-- An app whose web service is for one group only, and whose other service is for all. -/
def twoServices : Config where
  httpService := some { internalPort := 8080, checks := [{ kind := "http" }], processes := ["web"] }
  services := [{ internalPort := 5432, checks := [{ kind := "tcp" }, { kind := "0-tcp" }] }]
  checks := Dict.insert {} "servicecheck-00-1-0-tcp" { check := { path := some "/" } }

/-- The worker is served by the second service only, whose second check is in place of the app's. -/
theorem checksFor_agrees_twoServices :
    twoServices.serviceCheck? "worker" 0 1 = some { kind := "0-tcp" } ∧
    ∃ service, (twoServices.servicesFor "worker")[0]? = some service ∧
      (twoServices.checksFor "worker").get? "servicecheck-00-1-0-tcp" =
        some { kind := some "0-tcp", port := some service.internalPort } := by
  have hcheck : twoServices.serviceCheck? "worker" 0 1 = some { kind := "0-tcp" } := by decide
  exact ⟨hcheck, (checksFor_agrees twoServices "worker").2.1 0 1 _ hcheck⟩

end Config

end App

end Rollout
