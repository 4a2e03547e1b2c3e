import Rollout.Cli.Args
import Rollout.Proofs.Checks
import Rollout.Proofs.ServiceChecks

/-!
# Environment variables

A variable that is given as `--env=KEY=VALUE` is cut at `=` twice, first as an argument and then as
a setting, each time at the first one. So a value may hold any text. What is given is laid over the
variables of the app, the later over the earlier, and a machine gets all of it: its own variables
are forgotten, and the two that a request adds are the primary region and the marker of the release
command, which yields to a variable of that name.

## Main statements

- `Cli.Passes.env_ofList`: what is read of arguments that pass settings among others.
- `Resolver.Lays.env`: the variables of a configuration that is laid over another one.
- `Resolver.variables_arrive`: what is given and what is configured is in every request.
-/

namespace Rollout

/-! ## On the command line -/

namespace Cli

variable {args : List String} {settings : List (String × String)} {arg : String}

/-- The flag that an argument sets: what stands before the first `=`, without the hyphens. -/
def flagName (arg : String) : String :=
  String.ofList ((arg.toList.takeWhile (· != '=')).dropWhile (· == '-'))

/-- Whether arguments pass settings of environment variables, in their order and among arguments
for other flags. -/
inductive Passes : List String → List (String × String) → Prop where
  | nil : Passes [] []
  | setting {args : List String} {settings : List (String × String)} {arg : String}
      (key value : String) (harg : arg = "--env=" ++ key ++ "=" ++ value)
      (hsetting : App.Config.IsSetting (key, value)) (hrest : Passes args settings) :
      Passes (arg :: args) ((key, value) :: settings)
  | other {args : List String} {settings : List (String × String)} (arg : String)
      (hname : flagName arg ≠ "env") (hrest : Passes args settings) :
      Passes (arg :: args) settings

namespace Args

/-- An argument with a setting adds the text of the setting. -/
theorem add_setting (a : Args) (key value : String) :
    a.add ("--env=" ++ key ++ "=" ++ value) =
      { a with env := a.env ++ [App.Config.settingText (key, value)] } := by
  -- The first mark is the one behind the flag.
  have hsplit : Text.splitAt? '=' ("--env=" ++ key ++ "=" ++ value) =
      some ("--env", key ++ "=" ++ value) := by
    refine Text.splitAt?_eq_some_iff.mpr ⟨?_, by decide⟩
    simp [← String.toList_inj]
  unfold add
  rw [hsplit]
  exact if_pos rfl

/-- An argument for another flag adds none. -/
theorem add_env_of_ne (a : Args) (hname : flagName arg ≠ "env") : (a.add arg).env = a.env := by
  unfold add
  split
  · rename_i key value hsplit
    obtain ⟨rfl, hkey⟩ := Text.splitAt?_eq_some_iff.mp hsplit
    have hne : ∀ c ∈ key.toList, (c != '=') = true := by
      intro c hc
      exact bne_iff_ne.mpr fun heq => hkey (heq ▸ hc)
    -- What stands before the first mark, without hyphens, is the name of the flag.
    have hflag : flagName (key ++ String.singleton '=' ++ value) = Text.dropLeading '-' key := by
      unfold flagName Text.dropLeading
      simp only [String.toList_append, String.toList_singleton, List.append_assoc]
      rw [List.takeWhile_append_of_pos hne]
      simp
    rw [hflag] at hname
    dsimp only
    rw [if_neg hname]
  · split
    · rfl
    · rfl

end Args

/-- Of arguments that pass settings the texts of the settings are read, whatever stands between
them. -/
theorem Passes.env_ofList (h : Passes args settings) :
    (Args.ofList args).env = settings.map App.Config.settingText := by
  -- The texts are added to those that are there, so the induction is for any start.
  have hfold : ∀ a : Args,
      (args.foldl Args.add a).env = a.env ++ settings.map App.Config.settingText := by
    induction h with
    | nil => simp
    | setting key value harg hsetting hrest ih =>
      intro a
      rw [List.foldl_cons, harg, Args.add_setting, ih]
      simp
    | other arg hname hrest ih =>
      intro a
      rw [List.foldl_cons, ih, a.add_env_of_ne hname]
  exact hfold {}

/-- What is passed are settings. -/
theorem Passes.isSetting (h : Passes args settings) :
    ∀ s ∈ settings, App.Config.IsSetting s := by
  induction h with
  | nil => simp
  | setting key value harg hsetting hrest ih => exact List.forall_mem_cons.mpr ⟨hsetting, ih⟩
  | other arg hname hrest ih => exact ih

end Cli

/-! ## In a configuration -/

namespace App.Config

variable {app : Config} {args : List String} {settings : List (String × String)}
variable {env env' : Dict String} {key : String}

/-- Settings that are passed on the command line are all made. -/
theorem override_passed (h : Cli.Passes args settings) (app : Config) (region : Option String) :
    app.override (Cli.Args.ofList args).env region = ({ app.bindEnv settings with
      primaryRegion := (region.filter (· != "")).getD app.primaryRegion }, .ok ()) :=
  override_ok_iff.mpr ⟨settings, h.env_ofList, h.isSetting, rfl⟩

/-- Whether an environment has the variables that were given and, where they leave them, those of
an app. The primary region goes its own way. -/
structure Sets (app : Config) (settings : List (String × String)) (env : Dict String) : Prop where
  /-- Of a variable that is given more than once the last value counts. -/
  given : ∀ before key value after, settings = before ++ (key, value) :: after →
    (∀ s ∈ after, s.1 ≠ key) → key ≠ primaryRegionVariable → env.get? key = some value
  /-- A variable that is not given keeps its configured value. -/
  configured : ∀ key value, app.env.get? key = some value → (∀ s ∈ settings, s.1 ≠ key) →
    key ≠ primaryRegionVariable → env.get? key = some value

/-- The settings that are made, and the variables that they leave, are in the environment of the
app. -/
theorem sets_bindEnv (app : Config) (settings : List (String × String)) :
    app.Sets settings (app.bindEnv settings).env where
  given := by
    intro before key value after hsettings hlast _
    -- The variable is not given again, so nothing after it counts.
    have hafter : ∀ s ∈ after, key ≠ s.1 := fun s hs => (hlast s hs).symm
    have hbind : (app.bindEnv settings).env = after.foldl (fun env s => env.insert s.1 s.2)
        ((app.bindEnv before).env.insert key value) := by
      rw [hsettings]
      simp [bindEnv]
    rw [hbind, Dict.get?_foldl_insert_of_ne _ hafter, Dict.get?_insert, if_pos rfl]
  configured := by
    intro key value hvalue hnone _
    -- No setting is for the variable, so that all leave it alone.
    have hothers : ∀ s ∈ settings, key ≠ s.1 := fun s hs => (hnone s hs).symm
    have hkept : (app.bindEnv settings).env.get? key = app.env.get? key :=
      Dict.get?_foldl_insert_of_ne _ hothers
    exact hkept.trans hvalue

/-- What keeps all variables but the primary region keeps what is set. -/
theorem Sets.congr (h : app.Sets settings env) (hkept : ∀ key value, key ≠ primaryRegionVariable →
    env.get? key = some value → env'.get? key = some value) : app.Sets settings env' where
  given := by
    intro before key value after hsettings hlast hkey
    exact hkept key value hkey (h.given before key value after hsettings hlast hkey)
  configured := by
    intro key value hvalue hnone hkey
    exact hkept key value hkey (h.configured key value hvalue hnone hkey)

/-- All variables of machines but the primary region are those of the app. -/
theorem get?_envFor (c : Config) (old : Dict String) (hkey : key ≠ primaryRegionVariable) :
    (c.envFor old).get? key = c.env.get? key := by
  unfold envFor
  -- The region is put in, kept or left out, and is another variable.
  split
  · rw [Dict.get?_insert, if_neg hkey]
  · split
    · split
      · rfl
      · rw [Dict.get?_insert, if_neg hkey]
    · rfl

end App.Config

/-! ## In a request -/

namespace Resolver

variable {r : Resolver} {app : App.Config} {settings : List (String × String)}
variable {group : String} {config : Machine.Config} {old : Option Machine.Config}

/-- The variables of a group are those of the app, whatever they are laid over. -/
theorem Lays.env (h : r.Lays group old config) :
    config.env = r.app.envFor (old.getD {}).env := by
  obtain ⟨laid, hlaid, hplaced⟩ := h
  -- What is placed keeps the variables that were laid.
  rw [hplaced.env, App.Config.machineConfig_ok hlaid]
  rfl

/-- What is laid over a configuration has the variables that are set. -/
theorem Lays.sets (h : r.Lays group old config) (hsets : app.Sets settings r.app.env) :
    app.Sets settings config.env := by
  refine hsets.congr fun key value hkey hvalue => ?_
  rw [h.env, r.app.get?_envFor _ hkey]
  exact hvalue

/-- The marker of the release command takes no variable away. -/
theorem sets_oneShot {input : LaunchInput} (hsets : app.Sets settings input.config.env)
    (commandLine : String) :
    app.Sets settings (ReleaseCommand.oneShot input commandLine).config.env := by
  refine hsets.congr fun key value _ hvalue => ?_
  have henv : (ReleaseCommand.oneShot input commandLine).config.env =
      orInsert input.config.env ReleaseCommand.marker "1" := rfl
  rw [henv]
  -- If the marker is a variable of the app, its value is kept.
  by_cases hmarker : key = ReleaseCommand.marker
  · subst hmarker
    rw [get?_orInsert_self, hvalue]
    rfl
  · rw [get?_orInsert _ hmarker]
    exact hvalue

/-- Whether all requests of a resolver, but restarts, are for machines with the variables of an
app and those that were given. -/
structure Brings (r : Resolver) (app : App.Config) (settings : List (String × String)) : Prop where
  resolved : ∀ orig input, r.restartOnly = false → (r.resolve orig).2 = .ok input →
    app.Sets settings input.config.env
  launched : ∀ group standbys input, (r.launch group standbys).2 = .ok input →
    app.Sets settings input.config.env
  /-- With the command put in. -/
  commanded : ∀ orig commandLine input, r.releaseCommand orig = .ok input →
    app.Sets settings (ReleaseCommand.oneShot input commandLine).config.env

/-- A resolver of an app with the variables brings them to all machines. -/
theorem brings_of_sets (hsets : app.Sets settings r.app.env) : r.Brings app settings where
  resolved := by
    intro orig input hrestart hinput
    -- Without a restart every machine is updated.
    have hresolve : r.resolve orig = r.update orig := by
      unfold resolve
      rw [hrestart]
      rfl
    rw [hresolve] at hinput
    exact (update_lays hinput).sets hsets
  launched := by
    intro group standbys input hinput
    exact (launch_lays hinput).sets hsets
  commanded := by
    intro orig commandLine input hinput
    exact sets_oneShot ((releaseCommand_lays hinput).sets hsets) commandLine

/-- What is given on the command line reaches the machines. The overrides that are read of the
arguments are made, to whatever app, and all requests of its resolvers have every variable that was
given, with the last of its values, and every other one of the app. -/
theorem variables_arrive {args : List String} (h : Cli.Passes args settings) (app : App.Config)
    (region : Option String) :
    ∃ app', app.override (Cli.Args.ofList args).env region = (app', .ok ()) ∧
      ∀ r : Resolver, r.app = app' → r.Brings app settings := by
  refine ⟨_, App.Config.override_passed h app region, ?_⟩
  rintro r hr
  apply brings_of_sets
  rw [hr]
  exact app.sets_bindEnv settings

/-- Arguments that give a variable twice, one without a value, and other flags. -/
def urlArgs : List String :=
  ["--image=web:v3", "--env=URL=db://old", "--quiet", "--env=URL=db://new?a=1", "--env=TOKEN="]

/-- They pass three settings. -/
theorem passes_urlArgs :
    Cli.Passes urlArgs [("URL", "db://old"), ("URL", "db://new?a=1"), ("TOKEN", "")] := by
  apply Cli.Passes.other "--image=web:v3" (by decide)
  apply Cli.Passes.setting "URL" "db://old" (by decide) ⟨by decide, by decide⟩
  apply Cli.Passes.other "--quiet" (by decide)
  apply Cli.Passes.setting "URL" "db://new?a=1" (by decide) ⟨by decide, by decide⟩
  apply Cli.Passes.setting "TOKEN" "" (by decide) ⟨by decide, by decide⟩
  exact .nil

/-- An app with the variable that is given twice and with another one. -/
def shop : App.Config := { env := .ofList [("MODE", "shop"), ("URL", "db://file")] }

/-- The machine gets the last of the two values, the empty one, and what the app has. -/
theorem variables_arrive_urlArgs : ∃ app' input,
    shop.override (Cli.Args.ofList urlArgs).env none = (app', .ok ()) ∧
    ({ plain with app := app' }.resolve ungrouped).2 = .ok input ∧
    input.config.env.get? "URL" = some "db://new?a=1" ∧
    input.config.env.get? "TOKEN" = some "" ∧ input.config.env.get? "MODE" = some "shop" := by
  obtain ⟨app', happ, hbrings⟩ := variables_arrive passes_urlArgs shop none
  rw [App.Config.override_passed passes_urlArgs] at happ ⊢
  obtain rfl := (Prod.mk.inj happ).1
  -- What is read off are the three variables, each for its own reason.
  have hsets := (hbrings { plain with app := _ } rfl).resolved ungrouped _ rfl rfl
  refine ⟨_, _, rfl, rfl, ?_, ?_, ?_⟩
  · exact hsets.given [("URL", "db://old")] "URL" _ [("TOKEN", "")] rfl (by decide) (by decide)
  · exact hsets.given [("URL", "db://old"), ("URL", "db://new?a=1")] "TOKEN" _ [] rfl (by decide)
      (by decide)
  · exact hsets.configured "MODE" _ (by decide) (by decide) (by decide)

end Resolver

end Rollout
