import Mathlib.Data.List.TakeDrop
import Mathlib.Data.List.TakeWhile
import Rollout.Deployment.Basic

/-!
# Checks of a preparation

What it means for the options and the app configuration to be in order, stated on its own: which
texts are settings of environment variables, what the overrides make of the configuration, which
strategy is asked for. The checks find out just this.

## Main statements

- `App.Config.override_ok_iff`: what the overrides of the options make of a configuration.
- `Strategy.select_ok_iff`: which strategy is selected.
- `Deployment.inOrder_iff`: the checks of a preparation find out whether all is in order.
-/

namespace Rollout

/-! ## Settings and overrides -/

namespace Text

/-- A list is cut where an element stands for the first time. -/
theorem span_ne_eq_iff {c : Char} {cs before after : List Char} :
    cs.span (· != c) = (before, c :: after) ↔ cs = before ++ c :: after ∧ c ∉ before := by
  rw [List.span_eq_takeWhile_dropWhile, Prod.mk.injEq]
  constructor
  · rintro ⟨hbefore, hafter⟩
    refine ⟨?_, fun hmem => ?_⟩
    · -- The parts make up the list, and the first has no such element.
      rw [← hbefore, ← hafter, List.takeWhile_append_dropWhile]
    · rw [← hbefore] at hmem
      simpa using List.mem_takeWhile_imp hmem
  · rintro ⟨rfl, hmem⟩
    have hne : ∀ d ∈ before, (d != c) = true := fun d hd =>
      bne_iff_ne.mpr fun heq => hmem (heq ▸ hd)
    rw [List.takeWhile_append_of_pos hne, List.dropWhile_append_of_pos hne]
    simp

/-- A text is cut where the character stands for the first time. -/
theorem splitAt?_eq_some_iff {c : Char} {s before after : String} :
    splitAt? c s = some (before, after) ↔
      s = before ++ String.singleton c ++ after ∧ c ∉ before.toList := by
  have hlist : s = before ++ String.singleton c ++ after ↔
      s.toList = before.toList ++ c :: after.toList := by
    rw [← String.toList_inj]
    simp
  rw [hlist, ← span_ne_eq_iff]
  unfold splitAt?
  rw [List.span_eq_takeWhile_dropWhile]
  cases hafter : s.toList.dropWhile (· != c) with
  -- The character does not occur.
  | nil => simp
  | cons d rest =>
    -- What is left begins with the character itself.
    have hd : d = c := by
      have := List.head?_dropWhile_not (· != c) s.toList
      rw [hafter] at this
      simpa using this
    subst hd
    simp only [Option.some.injEq, Prod.mk.injEq, List.cons.injEq, true_and]
    rw [← String.toList_inj, ← String.toList_inj, String.toList_ofList, String.toList_ofList]

end Text

namespace App.Config

variable {app app' : Config} {texts : List String} {region : Option String}

/-- Binds environment variables one after the other. -/
def bindEnv (app : Config) (settings : List (String × String)) : Config :=
  { app with env := settings.foldl (fun env s => env.insert s.1 s.2) app.env }

/-- Whether a setting may be written as `KEY=VALUE` and read back. -/
def IsSetting (s : String × String) : Prop := s.1 ≠ "" ∧ '=' ∉ s.1.toList

/-- How a setting is written. -/
def settingText (s : String × String) : String := s.1 ++ "=" ++ s.2

/-- Whether a configuration is another one with the settings that texts stand for, and with a
primary region unless that is empty. -/
def Overridden (app : Config) (texts : List String) (region : Option String) (app' : Config) :
    Prop :=
  ∃ settings, texts = settings.map settingText ∧ (∀ s ∈ settings, IsSetting s) ∧
    app' = { app.bindEnv settings with
      primaryRegion := (region.filter (· != "")).getD app.primaryRegion }

/-- Arguments are taken just if every one of them is a setting, and then all are bound in order. -/
theorem setEnv_ok_iff : app.setEnv texts = (app', .ok ()) ↔
    ∃ settings, texts = settings.map settingText ∧ (∀ s ∈ settings, IsSetting s) ∧
      app' = app.bindEnv settings := by
  -- By induction on the arguments: the first is bound, then the rest.
  induction texts generalizing app with
  | nil =>
    constructor
    · rintro ⟨⟩
      exact ⟨[], rfl, by simp, rfl⟩
    · rintro ⟨settings, htexts, -, rfl⟩
      obtain rfl := List.map_eq_nil_iff.mp htexts.symm
      rfl
  | cons text rest ih =>
    rw [setEnv]
    constructor
    · intro h
      split at h
      · -- The first one is a setting just if it is cut and the key is not empty.
        rename_i key value hsplit
        split at h
        · cases h
        · rename_i hkey
          obtain ⟨settings, rfl, hsettings, rfl⟩ := ih.mp h
          obtain ⟨rfl, hmem⟩ := Text.splitAt?_eq_some_iff.mp hsplit
          refine ⟨(key, value) :: settings, rfl, ?_, rfl⟩
          exact List.forall_mem_cons.mpr ⟨⟨hkey, hmem⟩, hsettings⟩
      · cases h
    · rintro ⟨_ | ⟨⟨key, value⟩, settings⟩, htexts, hsettings, rfl⟩
      · cases htexts
      · obtain ⟨rfl, rfl⟩ := List.cons.inj htexts
        obtain ⟨⟨hkey, hmem⟩, hsettings⟩ := List.forall_mem_cons.mp hsettings
        -- What is written as a setting is cut where it was put together.
        have hsplit : Text.splitAt? '=' (settingText (key, value)) = some (key, value) :=
          Text.splitAt?_eq_some_iff.mpr ⟨rfl, hmem⟩
        rw [hsplit]
        dsimp only
        rw [if_neg hkey]
        exact ih.mpr ⟨settings, rfl, hsettings, rfl⟩

/-- Once the arguments are bound, the region is all that is left to override. -/
theorem override_of_setEnv (h : app.setEnv texts = (app', .ok ())) :
    app.override texts region = ({ app' with
      primaryRegion := (region.filter (· != "")).getD app'.primaryRegion }, .ok ()) := by
  unfold override
  rw [h]
  dsimp only
  cases region.filter (· != "") <;> rfl

/-- An app configuration is overridden just if every argument is a setting. -/
theorem override_ok_iff : app.override texts region = (app', .ok ()) ↔
    app.Overridden texts region app' := by
  constructor
  · intro h
    rcases henv : app.setEnv texts with ⟨c, e | ⟨⟩⟩
    · unfold override at h
      rw [henv] at h
      cases h
    · rw [override_of_setEnv henv] at h
      obtain ⟨settings, htexts, hsettings, rfl⟩ := setEnv_ok_iff.mp henv
      exact ⟨settings, htexts, hsettings, (Prod.mk.inj h).1.symm⟩
  · rintro ⟨settings, htexts, hsettings, rfl⟩
    exact override_of_setEnv (setEnv_ok_iff.mpr ⟨settings, htexts, hsettings, rfl⟩)

/-- A configuration is valid if the app has a name and its mount has both ends. -/
theorem validate_ok_iff : app.validate = .ok () ↔ Text.isBlankText app.appName = false ∧
    ∀ m, app.mounts = some m → m.source ≠ "" ∧ m.destination ≠ "" := by
  unfold validate
  cases Text.isBlankText app.appName with
  | true => simp
  | false =>
    cases app.mounts with
    | none => simp
    | some m => simp

end App.Config

/-! ## Strategies -/

namespace Strategy

/-- Whether a strategy is asked for: by the name of a flag, or else by the configured name, where
blank names count as none, or as the default where no name is given. -/
inductive IsAsked (flag configured : Option String) (s : Strategy) : Prop where
  | byFlag {name : String} (hflag : flag = some name) (hblank : Text.isBlankText name = false)
      (hname : Text.lower (Text.trim name) = s.name)
  | byConfig {name : String} (hflag : ∀ n, flag = some n → Text.isBlankText n = true)
      (hconfigured : configured = some name) (hblank : Text.isBlankText name = false)
      (hname : Text.lower (Text.trim name) = s.name)
  | byDefault (hflag : ∀ n, flag = some n → Text.isBlankText n = true)
      (hconfigured : ∀ n, configured = some n → Text.isBlankText n = true) (hs : s = .rolling)

/-- A strategy is found by its name, whatever the case and the blanks around it. -/
theorem ofName?_ok_iff {name : String} {s : Strategy} :
    ofName? name = .ok s ↔ Text.lower (Text.trim name) = s.name := by
  unfold ofName?
  dsimp only
  generalize Text.lower (Text.trim name) = wanted
  constructor
  · intro h
    split at h
    · rename_i s' hfind
      cases h
      have hname := List.find?_some hfind
      exact (beq_iff_eq.mp hname).symm
    · cases h
  · rintro rfl
    have hfind : all.find? (·.name == s.name) = some s := by cases s <;> decide
    rw [hfind]

/-- A name that may be given counts only if it is not blank. -/
theorem filter_blank (o : Option String) :
    (∃ n, o = some n ∧ Text.isBlankText n = false ∧ o.filter (!Text.isBlankText ·) = some n) ∨
      (∀ n, o = some n → Text.isBlankText n = true) ∧ o.filter (!Text.isBlankText ·) = none := by
  cases o with
  | none => exact .inr ⟨fun n h => by (cases h), rfl⟩
  | some n =>
    cases hblank : Text.isBlankText n with
    | true =>
      refine .inr ⟨fun n' h => Option.some.inj h ▸ hblank, ?_⟩
      rw [Option.filter_some, hblank]
      rfl
    | false =>
      refine .inl ⟨n, rfl, hblank, ?_⟩
      rw [Option.filter_some, hblank]
      rfl

/-- The strategy that is selected is the one that is asked for. -/
theorem select_ok_iff {flag configured : Option String} {s : Strategy} :
    select flag configured = .ok s ↔ IsAsked flag configured s := by
  unfold select
  obtain ⟨name, rfl, hblank, hflag⟩ | ⟨hnoFlag, hflag⟩ := filter_blank flag
  · -- The flag names a strategy, so the configuration is not looked at.
    rw [hflag]
    refine ofName?_ok_iff.trans ⟨fun h => .byFlag rfl hblank h, fun h => ?_⟩
    cases h with
    | byFlag heq _ hname => exact Option.some.inj heq ▸ hname
    | byConfig hnone => exact absurd (hnone name rfl) (by simp [hblank])
    | byDefault hnone => exact absurd (hnone name rfl) (by simp [hblank])
  rw [hflag]
  obtain ⟨name, rfl, hblank, hconfigured⟩ | ⟨hnoConfig, hconfigured⟩ := filter_blank configured
  · -- The configuration names one.
    rw [hconfigured]
    refine ofName?_ok_iff.trans ⟨fun h => .byConfig hnoFlag rfl hblank h, fun h => ?_⟩
    cases h with
    | byFlag heq hname => exact absurd (hnoFlag _ heq) (by simp [hname])
    | byConfig _ heq _ hname => exact Option.some.inj heq ▸ hname
    | byDefault _ hnone => exact absurd (hnone name rfl) (by simp [hblank])
  · -- Neither names one.
    rw [hconfigured]
    constructor
    · rintro ⟨⟩
      exact .byDefault hnoFlag hnoConfig rfl
    · intro h
      cases h with
      | byFlag heq hname => exact absurd (hnoFlag _ heq) (by simp [hname])
      | byConfig _ heq hname => exact absurd (hnoConfig _ heq) (by simp [hname])
      | byDefault _ _ hs => rw [hs]; rfl

end Strategy

/-! ## All in order -/

namespace Deployment

variable {o : Options} {app app' : App.Config} {strategy : Strategy}

/-- Whether options and app configuration are in order, with the configuration and the strategy that
come of them. -/
structure InOrder (o : Options) (app app' : App.Config) (strategy : Strategy) : Prop where
  /-- An image is named, or it is a restart, but not both. -/
  image : (∃ image, o.image = some image ∧ Text.isBlankText image = false) ↔ o.restartOnly = false
  overridden : app.Overridden o.env o.region app'
  named : Text.isBlankText app.appName = false
  mounted : ∀ m, app.mounts = some m → m.source ≠ "" ∧ m.destination ≠ ""
  strategy : Strategy.IsAsked o.strategy app.deployStrategy strategy

/-- An image is given, or it is a restart. -/
theorem checkImage_ok_iff : checkImage o = .ok () ↔
    ((∃ image, o.image = some image ∧ Text.isBlankText image = false) ↔ o.restartOnly = false) := by
  unfold checkImage imageOption
  obtain ⟨image, himage, hblank, hoption⟩ | ⟨hnone, hoption⟩ := Strategy.filter_blank o.image
  · -- An image is given.
    rw [hoption]
    have hsome : ∃ image, o.image = some image ∧ Text.isBlankText image = false :=
      ⟨image, himage, hblank⟩
    cases o.restartOnly with
    | true => simp [hsome]
    | false => simp [hsome]
  · -- None is given.
    rw [hoption]
    have hnone : ¬ ∃ image, o.image = some image ∧ Text.isBlankText image = false := by
      rintro ⟨image, himage, hblank⟩
      rw [hnone image himage] at hblank
      cases hblank
    cases o.restartOnly with
    | true => simp [hnone]
    | false => simp [hnone]

/-- An app configuration passes if its overrides do and the result is valid. -/
theorem checkApp_ok_iff : checkApp o app = .ok app' ↔
    app.Overridden o.env o.region app' ∧ app'.validate = .ok () := by
  unfold checkApp
  constructor
  · intro h
    split at h
    · cases h
    · rename_i c hoverride
      cases hvalid : c.validate with
      | error e =>
        rw [hvalid] at h
        cases h
      | ok =>
        rw [hvalid] at h
        cases h
        exact ⟨App.Config.override_ok_iff.mp hoverride, hvalid⟩
  · rintro ⟨hoverride, hvalid⟩
    rw [App.Config.override_ok_iff.mpr hoverride]
    dsimp only
    rw [hvalid]
    rfl

/-- The checks of a preparation find out whether all is in order. -/
theorem inOrder_iff : InOrder o app app' strategy ↔ checkImage o = .ok () ∧
    checkApp o app = .ok app' ∧ Strategy.select o.strategy app'.deployStrategy = .ok strategy := by
  rw [checkImage_ok_iff, checkApp_ok_iff, App.Config.validate_ok_iff, Strategy.select_ok_iff]
  constructor
  · rintro ⟨himage, hoverridden, hnamed, hmounted, hstrategy⟩
    obtain ⟨settings, htexts, hsettings, rfl⟩ := hoverridden
    exact ⟨himage, ⟨⟨settings, htexts, hsettings, rfl⟩, hnamed, hmounted⟩, hstrategy⟩
  · rintro ⟨himage, ⟨⟨settings, htexts, hsettings, rfl⟩, hnamed, hmounted⟩, hstrategy⟩
    exact ⟨himage, ⟨settings, htexts, hsettings, rfl⟩, hnamed, hmounted, hstrategy⟩

/-- What comes of options and a configuration that are in order is determined. -/
theorem InOrder.unique {app₁ app₂ : App.Config} {strategy₁ strategy₂ : Strategy}
    (h₁ : InOrder o app app₁ strategy₁) (h₂ : InOrder o app app₂ strategy₂) :
    app₁ = app₂ ∧ strategy₁ = strategy₂ := by
  obtain ⟨-, happ₁, hstrategy₁⟩ := inOrder_iff.mp h₁
  obtain ⟨-, happ₂, hstrategy₂⟩ := inOrder_iff.mp h₂
  obtain rfl := Except.ok.inj (happ₁.symm.trans happ₂)
  exact ⟨rfl, Except.ok.inj (hstrategy₁.symm.trans hstrategy₂)⟩

/-- Machines pass if none has more than one mount. -/
theorem checkMounts_ok_iff {machines : List Machine} : checkMounts machines = .ok () ↔
    ∀ m ∈ machines, m.config.mounts.length ≤ 1 := by
  unfold checkMounts
  cases hfind : machines.find? (1 < ·.config.mounts.length) with
  | none => simpa using hfind
  | some m =>
    have hmany := List.find?_some hfind
    have hmem := List.mem_of_find?_eq_some hfind
    refine iff_of_false (fun h => by cases h) fun h => ?_
    have hfew := h m hmem
    rw [decide_eq_true_iff] at hmany
    omega

end Deployment

end Rollout
