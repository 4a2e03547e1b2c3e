import Rollout.Proofs.Variables

/-!
# Requests for one run

The machine of a release command is often one that ran an earlier command, or any other machine that
was put in the command's process group, so its configuration may hold anything. What the request for
one run is laid over leaves nothing that would keep the machine up, expose it, or run another
command: services, checks, mounts, the command and the restart policy are all displaced. Only the
app says what is in the environment.

## Main statements

- `Text.words_eq_splitOnP`: the words of a text are what stands between its blanks.
- `Resolver.releaseCommand_runsOnce`: the request for the release command never fails, and is for
  one run of the command line.
-/

namespace Rollout

/-! ## Words -/

namespace Text

variable {text : String}

/-- What is read from a word on is that word and the pieces between the blanks. -/
theorem wordsFrom_eq (word cs : List Char) : wordsFrom word cs =
    ((cs.splitOnP isBlank).modifyHead (word.reverse ++ ·)).filter (!·.isEmpty) := by
  -- By induction on the characters: the word that is being read grows.
  induction cs generalizing word with
  | nil => cases word <;> simp [wordsFrom]
  | cons c rest ih =>
    rw [wordsFrom, List.splitOnP_cons_eq_if_modifyHead]
    split
    · -- A blank ends the word that is being read.
      have hrest : wordsFrom [] rest = (rest.splitOnP isBlank).filter (!·.isEmpty) := by
        rw [ih]
        cases rest.splitOnP isBlank <;> simp
      rw [hrest]
      cases word <;> simp
    · rw [ih, List.modifyHead_modifyHead]
      congr 2
      funext before
      simp

/-- The words of a text are what stands between its blanks, where that is anything. -/
theorem words_eq_splitOnP (text : String) : words text =
    ((text.toList.splitOnP isBlank).filter (!·.isEmpty)).map String.ofList := by
  rw [words, wordsFrom_eq]
  cases text.toList.splitOnP isBlank <;> simp

example : words " bin/rails \t db:migrate" = ["bin/rails", "db:migrate"] := by decide

/-- Nothing is read of blanks alone. -/
theorem wordsFrom_eq_nil_iff {word cs : List Char} :
    wordsFrom word cs = [] ↔ word = [] ∧ ∀ c ∈ cs, isBlank c = true := by
  induction cs generalizing word with
  | nil => cases word <;> simp [wordsFrom]
  | cons c rest ih =>
    rw [wordsFrom]
    by_cases hblank : isBlank c = true
    · cases word <;> simp [hblank, ih]
    · simp [hblank, ih]

/-- Only a blank text has no words. -/
theorem words_ne_nil (h : isBlankText text = false) : words text ≠ [] := by
  intro hwords
  rw [words, List.map_eq_nil_iff, wordsFrom_eq_nil_iff] at hwords
  have hblank : isBlankText text = true := List.all_eq_true.mpr hwords.2
  rw [h] at hblank
  cases hblank

end Text

/-! ## The request -/

/-- Whether a request is for one run of a command line: on the machine that the release command
had, or on a new one, with nothing of its configuration that outlasts or disturbs the run. -/
structure LaunchInput.RunsOnce (input : LaunchInput) (r : Resolver) (orig : Option Machine)
    (commandLine : String) : Prop where
  id : input.id = orig.map (·.id)
  region : input.region =
    if r.app.primaryRegion = "" then orig.elim "" (·.region) else r.app.primaryRegion
  starts : input.skipLaunch = false
  group : input.config.metadata.get? Metadata.processGroup = some Metadata.releaseCommandGroup
  /-- The words of the command line, of which there are some. -/
  command : ∃ words, words ≠ [] ∧ input.config.init.cmd = some words ∧
    words = ((commandLine.toList.splitOnP Text.isBlank).filter (!·.isEmpty)).map String.ofList
  restart : input.config.restart = some { policy := .no, maxRetries := none }
  services : input.config.services = []
  checks : input.config.checks = {}
  mounts : input.config.mounts = []
  /-- The marker, unless the app has a variable of that name. -/
  marked : input.config.env.get? ReleaseCommand.marker =
    some ((r.app.env.get? ReleaseCommand.marker).getD "1")

namespace Resolver

variable {r : Resolver} {orig : Option Machine} {input : LaunchInput} {commandLine : String}

/-- The process group of the release command need not be listed. -/
theorem machineConfig_releaseCommand (c : App.Config) (old : Option Machine.Config)
    (image : String) :
    ∃ config, c.machineConfig Metadata.releaseCommandGroup old image = .ok config := by
  unfold App.Config.machineConfig
  simp

/-- The environment of the machine of the release command tells of nothing but the app. -/
theorem releaseCommand_marked (h : r.releaseCommand orig = .ok input) :
    (ReleaseCommand.oneShot input commandLine).config.env.get? ReleaseCommand.marker =
      some ((r.app.env.get? ReleaseCommand.marker).getD "1") := by
  have henv : (ReleaseCommand.oneShot input commandLine).config.env =
      orInsert input.config.env ReleaseCommand.marker "1" := rfl
  have hmarker : ReleaseCommand.marker ≠ App.primaryRegionVariable := by decide
  rw [henv, get?_orInsert_self, (releaseCommand_lays h).env, r.app.get?_envFor _ hmarker]

/-- The request for the release command is in its process group. -/
theorem releaseCommand_group (h : r.releaseCommand orig = .ok input) :
    input.config.metadata.get? Metadata.processGroup = some Metadata.releaseCommandGroup := by
  obtain ⟨laid, hlaid, hplaced⟩ := releaseCommand_lays h
  have hdefault : (Metadata.processGroup, Metadata.appGroup) ∈ Metadata.defaults :=
    List.mem_cons_of_mem _ List.mem_cons_self
  rw [hplaced.metadata, stamp_metadata, r.stampMetadata_default _ hdefault,
    machineConfig_metadata hlaid, Dict.get?_insert, if_pos rfl]
  rfl

/-- The request for the release command is for one run of the command line, whatever the machine
was before that is used for it. There always is one, also for an app that lists process groups but
not the one of the release command. -/
theorem releaseCommand_runsOnce (r : Resolver) (orig : Option Machine)
    (hline : Text.isBlankText commandLine = false) :
    ∃ input, r.releaseCommand orig = .ok input ∧
      (ReleaseCommand.oneShot input commandLine).RunsOnce r orig commandLine := by
  obtain ⟨config, hconfig⟩ :=
    machineConfig_releaseCommand r.app (orig.map (·.config)) r.image
  -- The region is the app's, or that of the machine.
  have hinput : ∃ region, r.releaseCommand orig = .ok
      { id := orig.map (·.id), region := region, config := r.stamp { config with mounts := [] } } ∧
      region = if r.app.primaryRegion = "" then orig.elim "" (·.region)
        else r.app.primaryRegion := by
    unfold releaseCommand
    rw [hconfig]
    refine ⟨_, rfl, ?_⟩
    cases orig with
    | none => by_cases hregion : r.app.primaryRegion = "" <;> simp [hregion]
    | some m => rfl
  obtain ⟨region, hinput, hregion⟩ := hinput
  have hgroup := releaseCommand_group hinput
  refine ⟨_, hinput, ?_⟩
  exact {
    id := rfl
    region := hregion
    starts := rfl
    group := hgroup
    command := ⟨_, Text.words_ne_nil hline, rfl, Text.words_eq_splitOnP commandLine⟩
    restart := rfl
    services := rfl
    checks := rfl
    mounts := rfl
    marked := releaseCommand_marked hinput }

/-- A resolver of an app that lists a process group, with a volume, and a marker of its own. -/
def webOnly : Resolver where
  app := {
    env := .ofList [("RELEASE_COMMAND", "migrations")]
    processes := .ofList [("web", "bin/server")]
    mounts := some { source := "data", destination := "/data" } }
  image := "web:v2"
  release := {}
  restartOnly := false
  volumes := {}

/-- A machine that was a server before it was made to run release commands. -/
def exServer : Machine where
  id := "m7"
  region := "ams"
  config := {
    env := .ofList [("RELEASE_COMMAND", "0")]
    init := { cmd := some ["bin/server"] }
    metadata := .ofList [("platform_version", "v2"), ("process_group", "web")]
    services := [{ internalPort := 8080 }]
    checks := .ofList [("alive", {})]
    mounts := [{ volume := "vol_1", path := "/data", name := "data" }]
    restart := some { policy := .always, maxRetries := some 3 } }

/-- A server with services, checks and a volume is made to run one command. -/
theorem releaseCommand_runsOnce_exServer :
    Text.isBlankText " bin/rails \t db:migrate" = false ∧ ∃ input,
      webOnly.releaseCommand (some exServer) = .ok input ∧
      (ReleaseCommand.oneShot input " bin/rails \t db:migrate").RunsOnce webOnly (some exServer)
        " bin/rails \t db:migrate" := by
  have hline : Text.isBlankText " bin/rails \t db:migrate" = false := by decide
  exact ⟨hline, releaseCommand_runsOnce webOnly (some exServer) hline⟩

end Resolver

end Rollout
