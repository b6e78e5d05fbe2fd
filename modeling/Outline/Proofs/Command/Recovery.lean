import Outline.Command.Run
import Outline.Proofs.Disk.Extends
import Outline.Proofs.Settings.Reopen

namespace Outline

theorem isPlain_projectDirectory : Name.IsPlain (Text.bytesOf ".pyweave") := by decide +kernel

theorem isPlain_configFile : Name.IsPlain (Text.bytesOf "config.toml") := by decide +kernel

section Workspace

variable {disk : Disk} {workspace : Path} {content : ByteArray}

theorem isDirectory_of_projectPath (filled : workspace.bytes ≠ [])
    (held : disk.entry (Config.projectPath workspace) = .ok (.file content)) :
    disk.isDirectory workspace = true ∧
      disk.isDirectory (Config.projectDirectory workspace) = true := by
  obtain ⟨place, located, -⟩ := Disk.locate_of_entry held
  have inside := Path.join_ne_nil filled isPlain_projectDirectory
  obtain ⟨inner, toInner, innerHeld, -⟩ :=
    Disk.locate_of_locate_join inside isPlain_configFile located
  obtain ⟨outer, toOuter, outerHeld, -⟩ :=
    Disk.locate_of_locate_join filled isPlain_projectDirectory toInner
  constructor
  · rw [Disk.isDirectory, Disk.entry_of_locate toOuter outerHeld]
  · rw [Config.projectDirectory, Disk.isDirectory, Path.ofText,
      Disk.entry_of_locate toInner innerHeld]

theorem SettingsStore.init_of_entry (log : Option Log) (filled : workspace.bytes ≠ [])
    (held : disk.entry (Config.projectPath workspace) = .ok (.file content)) :
    ∃ place, disk.locate (Config.projectPath workspace) = .ok place ∧
      disk.locateFile (Config.projectPath workspace) = .ok place ∧
      init disk workspace true log =
        match disk.outage place Config.default.fileContent with
        | none =>
          ((disk.putFile place Config.default.fileContent).note log
            (new workspace .default).savedMessage, .ok (Config.projectPath workspace))
        | some (count, words) =>
          (disk.putFile place (Config.default.fileContent.extract 0 count),
            .error (.disk (.other words))) := by
  have inside := Path.join_ne_nil filled isPlain_projectDirectory
  have ready : disk.makeDirectories (Config.projectDirectory workspace) = (disk, .ok ()) :=
    Disk.makeDirectories_of_isDirectory filled isPlain_projectDirectory
      (isDirectory_of_projectPath filled held).2
  obtain ⟨place, located, -⟩ := Disk.locate_of_entry held
  have found : disk.locateFile (Config.projectPath workspace) = .ok place :=
    (Disk.locateFile_of_entry inside isPlain_configFile held).trans located
  have saved : (new workspace .default).save disk Config.default log = _ :=
    save_of_locateFile log (rfl : Config.default.validate = .ok ()) ready found
  refine ⟨place, located, found, ?_⟩
  simp only [init, saved, Bool.not_true, Bool.and_false, Bool.false_eq_true, if_false]
  cases disk.outage place Config.default.fileContent with
  | none => rfl
  | some failure => rfl

theorem workingPath_ne_nil (disk : Disk) : disk.workingPath.bytes ≠ [] := List.cons_ne_nil _ _

theorem resolveWorkspace_of_projectPath
    (held : disk.entry (Config.projectPath disk.workingPath) = .ok (.file content)) :
    resolveWorkspace disk none = .ok disk.workingPath :=
  if_pos (isDirectory_of_projectPath (workingPath_ne_nil disk) held).1

theorem Context.load_eq_new {env : Environment} {path : Option Path} {config : Config}
    (resolved : resolveWorkspace disk path = .ok workspace)
    (loaded : Config.load disk env workspace = .ok config) :
    Context.load disk env path = .ok (.new workspace config) := by
  rw [Context.load, resolved]
  change (Config.load disk env workspace).map (SettingsStore.new workspace) >>= _ = _
  rw [loaded]
  rfl

end Workspace

theorem extends_openLog (disk : Disk) (logging : LoggingSettings) :
    disk.Extends (openLog disk logging).1 := by
  unfold openLog
  split
  · exact .refl disk
  · rename_i file named
    have ready : disk.Extends
        (((Path.ofText file).parent?.map disk.makeDirectories).getD (disk, .ok ())).1 := by
      cases (Path.ofText file).parent? with
      | none => exact .refl disk
      | some parent => exact disk.extends_makeDirectories parent
    dsimp only
    split
    · rename_i stopped fault failed
      rwa [failed] at ready
    · rename_i made done
      rw [done] at ready
      exact ready.trans (made.extends_touch _)

/-- The settings of the working directory load, and their log file cannot be opened. -/
def LogUnusable (disk : Disk) (env : Environment) : Prop :=
  ∃ context fault, Context.load disk env none = .ok context ∧
    (openLog disk context.config.logging).2 = .error fault

def logOf (disk : Disk) (env : Environment) (record : String → String) : Option Log :=
  match (openLog disk (loggingOf (Context.load disk env none))).2 with
  | .ok place => place.map (Log.mk · record)
  | .error _ => none

theorem openLog_of_logUsable {disk : Disk} {env : Environment} (usable : ¬LogUnusable disk env) :
    ∃ logged place,
      openLog disk (loggingOf (Context.load disk env none)) = (logged, .ok place) := by
  cases loaded : Context.load disk env none with
  | error e => exact ⟨disk, none, rfl⟩
  | ok context =>
    dsimp only [loggingOf]
    cases opened : openLog disk context.config.logging with
    | mk logged result =>
      cases result with
      | ok place => exact ⟨logged, place, rfl⟩
      | error fault => exact absurd ⟨context, fault, loaded, by rw [opened]⟩ usable

theorem runCommand_initConfig {disk : Disk} {content : ByteArray} (env : Environment)
    (now : String) (context : Except Error Context) (log : Option Log) (quiet : Bool)
    (held : disk.entry (Config.projectPath disk.workingPath) = .ok (.file content)) :
    ∃ place, disk.locate (Config.projectPath disk.workingPath) = .ok place ∧
      disk.locateFile (Config.projectPath disk.workingPath) = .ok place ∧
      runCommand disk env now context log quiet (.initConfig true) =
        match disk.outage place Config.default.fileContent with
        | none =>
          ((disk.putFile place Config.default.fileContent).note log
            (SettingsStore.new disk.workingPath .default).savedMessage,
            .ok (.messages quiet [successLine "Initialized project configuration",
              detailLine "Config" (Config.projectPath disk.workingPath).shown]))
        | some (count, words) =>
          (disk.putFile place (Config.default.fileContent.extract 0 count),
            .error (.disk (.other words))) := by
  obtain ⟨place, located, found, done⟩ :=
    SettingsStore.init_of_entry log (workingPath_ne_nil disk) held
  refine ⟨place, located, found, ?_⟩
  simp only [runCommand, inWorkingDirectory, resolveWorkspace_of_projectPath held, runInit, done]
  cases disk.outage place Config.default.fileContent with
  | none => rfl
  | some failure => rfl

theorem runWords_forcedInit (disk : Disk) (env : Environment) (now : String)
    (record : String → String) :
    runWords disk env now ["config", "init", "--force"] record =
      match openLog disk (loggingOf (Context.load disk env none)) with
      | (logged, .error fault) => (logged, .failure fault.message)
      | (logged, .ok place) =>
        match runCommand logged env now (Context.load disk env none)
          (place.map (Log.mk · record)) false (.initConfig true) with
        | (after, .ok printed) => (after, .success printed)
        | (after, .error e) => (after, .failure e.message) := by
  have read : Args.read ["config", "init", "--force"] = .ok ⟨.initConfig true, false⟩ := by rfl
  rw [runWords, read]
  rfl

theorem forcedInit_of_logUnusable {disk : Disk} {content : ByteArray} {env : Environment}
    (now : String) (record : String → String)
    (held : disk.entry (Config.projectPath disk.workingPath) = .ok (.file content))
    (unusable : LogUnusable disk env) :
    ∃ after outcome, runWords disk env now ["config", "init", "--force"] record =
        (after, outcome) ∧ outcome.exitCode = 1 ∧
      after.entry (Config.projectPath disk.workingPath) = .ok (.file content) := by
  obtain ⟨context, fault, loaded, failed⟩ := unusable
  have kept := (extends_openLog disk context.config.logging).entry held
  refine ⟨(openLog disk context.config.logging).1, .failure fault.message, ?_, rfl, kept⟩
  rw [runWords_forcedInit, loaded]
  dsimp only [loggingOf]
  cases opened : openLog disk context.config.logging with
  | mk logged result =>
    rw [opened] at failed
    cases failed
    rfl

theorem forcedInit_of_logUsable {disk : Disk} {content : ByteArray} {env : Environment}
    (now : String) (record : String → String)
    (held : disk.entry (Config.projectPath disk.workingPath) = .ok (.file content))
    (usable : ¬LogUnusable disk env) :
    ∃ place after outcome, disk.locate (Config.projectPath disk.workingPath) = .ok place ∧
      runWords disk env now ["config", "init", "--force"] record = (after, outcome) ∧
      (disk.outage place Config.default.fileContent = none →
        outcome.exitCode = 0 ∧ after.entry (Config.projectPath disk.workingPath) =
          .ok (.file (Config.default.fileContent ++ disk.noted (logOf disk env record)
            (SettingsStore.new disk.workingPath .default).savedMessage place))) ∧
      ∀ count words, disk.outage place Config.default.fileContent = some (count, words) →
        outcome.exitCode = 1 ∧ after.entry (Config.projectPath disk.workingPath) =
          .ok (.file (Config.default.fileContent.extract 0 count)) := by
  have extended := extends_openLog disk (loggingOf (Context.load disk env none))
  have kept := extended.entry held
  obtain ⟨logged, logPlace, opened⟩ := openLog_of_logUsable usable
  rw [opened] at extended kept
  -- Opening the log takes nothing away, so the file is still found where it was.
  have same : logged.workingPath = disk.workingPath := by
    rw [Disk.workingPath, Disk.workingPath, extended.sameStart]
  have log : logOf disk env record = logPlace.map (Log.mk · record) := by rw [logOf, opened]
  rw [← same] at kept held
  obtain ⟨place, located, found, ran⟩ := runCommand_initConfig env now
    (Context.load disk env none) (logPlace.map (Log.mk · record)) false kept
  have there : disk.locate (Config.projectPath disk.workingPath) = .ok place := by
    obtain ⟨before, led, -⟩ := Disk.locate_of_entry held
    have also := extended.locate led
    rw [located] at also
    rw [← same, led, also]
  rw [extended.sameOutage] at ran
  rw [same] at found
  refine ⟨place, ?_⟩
  rw [runWords_forcedInit, opened, log]
  simp only [ran]
  cases broken : disk.outage place Config.default.fileContent with
  | none =>
    refine ⟨_, _, there, rfl, fun _ => ⟨rfl, ?_⟩, fun _ _ also => by cases also⟩
    have entry := Disk.entry_note_putFile found Config.default.fileContent
      (logPlace.map (Log.mk · record)) (SettingsStore.new disk.workingPath .default).savedMessage
    rw [Disk.noted_congr extended.sameOutage] at entry
    rw [same]
    exact entry
  | some failure =>
    refine ⟨_, _, there, rfl, nofun, ?_⟩
    rintro count words ⟨⟩
    exact ⟨rfl, Disk.entry_putFile found _⟩

/-- A file of settings that cannot be used is replaced by the default settings, and by what the log
adds if it is kept in that file. Only settings that load and name a log file that cannot be opened
stay in the way, and they are kept; or the write breaks off. -/
theorem forcedInit_recovers {disk : Disk} {content : ByteArray} (env : Environment) (now : String)
    (record : String → String)
    (held : disk.entry (Config.projectPath disk.workingPath) = .ok (.file content)) :
    ∃ place after outcome, disk.locate (Config.projectPath disk.workingPath) = .ok place ∧
      runWords disk env now ["config", "init", "--force"] record = (after, outcome) ∧
      (¬LogUnusable disk env → disk.outage place Config.default.fileContent = none →
        outcome.exitCode = 0 ∧ after.entry (Config.projectPath disk.workingPath) =
          .ok (.file (Config.default.fileContent ++ disk.noted (logOf disk env record)
            (SettingsStore.new disk.workingPath .default).savedMessage place))) ∧
      (¬LogUnusable disk env →
        ∀ count words, disk.outage place Config.default.fileContent = some (count, words) →
        outcome.exitCode = 1 ∧ after.entry (Config.projectPath disk.workingPath) =
          .ok (.file (Config.default.fileContent.extract 0 count))) ∧
      (LogUnusable disk env → outcome.exitCode = 1 ∧
        after.entry (Config.projectPath disk.workingPath) = .ok (.file content)) := by
  by_cases unusable : LogUnusable disk env
  · obtain ⟨place, located, -⟩ := Disk.locate_of_entry held
    obtain ⟨after, outcome, ran, failed⟩ := forcedInit_of_logUnusable now record held unusable
    exact ⟨place, after, outcome, located, ran, fun usable => absurd unusable usable,
      fun usable => absurd unusable usable, fun _ => failed⟩
  · obtain ⟨place, after, outcome, located, ran, complete, broken⟩ :=
      forcedInit_of_logUsable now record held unusable
    exact ⟨place, after, outcome, located, ran, fun _ => complete, fun _ => broken,
      fun used => absurd used unusable⟩

def projectWith (content : ByteArray) : Disk where
  tree := ((FileTree.empty.put [Text.bytesOf "w"] .directory).put
    [Text.bytesOf "w", Text.bytesOf ".pyweave"] .directory).put
      [Text.bytesOf "w", Text.bytesOf ".pyweave", Text.bytesOf "config.toml"] (.file content)
  workingDirectory := [Text.bytesOf "w"]

theorem entry_projectWith (content : ByteArray) :
    (projectWith content).entry (Config.projectPath (projectWith content).workingPath) =
      .ok (.file content) := by
  rfl

theorem load_projectWith {c : Config} (checked : c.validate = .ok ())
    (small : c.analysis.maxFileSize < wordCount 63) :
    Context.load (projectWith c.fileContent) ⟨[]⟩ none =
      .ok (.new (projectWith c.fileContent).workingPath c) := by
  have held := entry_projectWith c.fileContent
  have layer : Config.optionalLayer (projectWith c.fileContent)
      (Config.projectPath (projectWith c.fileContent).workingPath) = .ok c.toTable := by
    have text := Config.textLayer_toToml c
    rw [if_pos small] at text
    exact (Config.optionalLayer_of_entry held).trans text
  have loaded : Config.load (projectWith c.fileContent) ⟨[]⟩
      (projectWith c.fileContent).workingPath = .ok c := by
    rw [Config.load_eq, layer]
    exact Config.ofLayers_singleton (Nat.lt_trans small (by decide)) checked
  exact Context.load_eq_new (resolveWorkspace_of_projectPath held) loaded

def loggingTo (file : String) : Config :=
  { Config.default with logging := { LoggingSettings.default with file := some file } }

def datedLine (message : String) : String :=
  "2024-01-02T03:04:05.000000Z  INFO pyweave::config::store: " ++ message ++ "\n"

def loggingToItself : Config := loggingTo ".pyweave/config.toml"

theorem openLog_loggingToItself :
    (openLog (projectWith loggingToItself.fileContent) loggingToItself.logging).2 =
      .ok (some [Text.bytesOf "w", Text.bytesOf ".pyweave", Text.bytesOf "config.toml"]) := rfl

/-- Settings that are no text are replaced by the defaults. Settings that name their own file for the
log are replaced by the defaults with a line of the log behind them. -/
theorem forcedInit_recovers_notText :
    ((projectWith ⟨#[0xFF]⟩).entry (Config.projectPath (projectWith ⟨#[0xFF]⟩).workingPath) =
        .ok (.file ⟨#[0xFF]⟩) ∧ ¬LogUnusable (projectWith ⟨#[0xFF]⟩) ⟨[]⟩ ∧
      ∃ after outcome,
        runWords (projectWith ⟨#[0xFF]⟩) ⟨[]⟩ "now" ["config", "init", "--force"] datedLine =
          (after, outcome) ∧ outcome.exitCode = 0 ∧
        after.entry (Config.projectPath (projectWith ⟨#[0xFF]⟩).workingPath) =
          .ok (.file (String.ofList Config.default.toToml).toUTF8)) ∧
    ∃ after outcome,
      runWords (projectWith loggingToItself.fileContent) ⟨[]⟩ "now"
        ["config", "init", "--force"] datedLine = (after, outcome) ∧ outcome.exitCode = 0 ∧
      after.entry (.ofText "/w/.pyweave/config.toml") = .ok (.file
        ((String.ofList Config.default.toToml).toUTF8 ++
          (datedLine "Saved settings: /w/.pyweave/config.toml").toUTF8)) := by
  constructor
  · have held := entry_projectWith ⟨#[0xFF]⟩
    have usable : ¬LogUnusable (projectWith ⟨#[0xFF]⟩) ⟨[]⟩ := by
      rintro ⟨context, fault, loaded, -⟩
      cases loaded
    have unlogged : logOf (projectWith ⟨#[0xFF]⟩) ⟨[]⟩ datedLine = none := rfl
    obtain ⟨place, after, outcome, -, ran, recovered, -⟩ :=
      forcedInit_recovers ⟨[]⟩ "now" datedLine held
    obtain ⟨code, entry⟩ := recovered usable rfl
    rw [unlogged, Disk.noted, ByteArray.append_empty] at entry
    exact ⟨held, usable, after, outcome, ran, code, entry⟩
  · have held := entry_projectWith loggingToItself.fileContent
    have loaded := load_projectWith (c := loggingToItself) rfl (by decide)
    have usable : ¬LogUnusable (projectWith loggingToItself.fileContent) ⟨[]⟩ := by
      rintro ⟨context, fault, also, failed⟩
      rw [loaded] at also
      cases also
      have opened := openLog_loggingToItself.symm.trans failed
      cases opened
    have logged : logOf (projectWith loggingToItself.fileContent) ⟨[]⟩ datedLine =
        some ⟨[Text.bytesOf "w", Text.bytesOf ".pyweave", Text.bytesOf "config.toml"],
          datedLine⟩ := by
      have settings : loggingOf (Context.load (projectWith loggingToItself.fileContent) ⟨[]⟩ none) =
          loggingToItself.logging := by rw [loaded]; rfl
      rw [logOf, settings, openLog_loggingToItself]
      rfl
    obtain ⟨place, after, outcome, located, ran, recovered, -⟩ :=
      forcedInit_recovers ⟨[]⟩ "now" datedLine held
    obtain ⟨code, entry⟩ := recovered usable rfl
    cases located
    rw [logged] at entry
    exact ⟨after, outcome, ran, code, entry⟩

def directoryAsLog : Config := loggingTo ".pyweave"

def blockedProject : Disk := projectWith (String.ofList directoryAsLog.toToml).toUTF8

theorem logUnusable_blockedProject : LogUnusable blockedProject ⟨[]⟩ :=
  ⟨_, .isDirectory, load_projectWith (c := directoryAsLog) rfl (by decide), rfl⟩

/-- Settings that can be used stay in the way when their log file is a directory. -/
theorem forcedInit_is_blocked :
    blockedProject.entry (Config.projectPath blockedProject.workingPath) =
        .ok (.file (String.ofList directoryAsLog.toToml).toUTF8) ∧
      ∃ after outcome, runWords blockedProject ⟨[]⟩ "now" ["config", "init", "--force"] =
          (after, outcome) ∧ outcome.exitCode = 1 ∧
        after.entry (Config.projectPath blockedProject.workingPath) =
          .ok (.file (String.ofList directoryAsLog.toToml).toUTF8) := by
  have held := entry_projectWith (String.ofList directoryAsLog.toToml).toUTF8
  exact ⟨held, forcedInit_of_logUnusable "now" _ held logUnusable_blockedProject⟩

end Outline
