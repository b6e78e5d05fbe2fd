import Outline.Proofs.Disk.Write
import Outline.Proofs.Json.Record
import Outline.Proofs.Settings.History
import Outline.Proofs.Toml.Document
import Outline.Proofs.Toml.Overlay

namespace Outline

open Outline.Toml

def AnalysisSettings.toTable (s : AnalysisSettings) : List (String × Value) :=
  [("exclude", .arr (s.exclude.map .str)), ("max_file_size", .int s.maxFileSize),
    ("extensions", .arr (s.extensions.map .str))]

def OutputSettings.toTable (s : OutputSettings) : List (String × Value) :=
  [("directory", .str s.directory), ("format", .str s.format.label),
    ("call_graph", .bool s.callGraph)]

def LoggingSettings.toTable (s : LoggingSettings) : List (String × Value) :=
  ("level", .str s.level) :: (s.file.map fun file => ("file", Value.str file)).toList

def Config.toTable (c : Config) : List (String × Value) :=
  [("version", .str c.version), ("analysis", .table c.analysis.toTable),
    ("output", .table c.output.toTable), ("logging", .table c.logging.toTable)]

def entriesOf (fields : List (String × Value)) : List Statement :=
  fields.map fun (key, value) => .entry [] key value

def Config.statements (c : Config) : List Statement :=
  .entry [] "version" (.str c.version) :: .header [] "analysis" ::
    (entriesOf c.analysis.toTable ++ .header [] "output" ::
      (entriesOf c.output.toTable ++ .header [] "logging" :: entriesOf c.logging.toTable))

theorem AnalysisSettings.document (s : AnalysisSettings) :
    Document s.toToml (.header [] "analysis" :: entriesOf s.toTable) := by
  have exclude := Document.entry "exclude" rfl (ReadsLine.strings s.exclude)
  have maxFileSize := Document.entry "max_file_size" rfl (ReadsLine.nat s.maxFileSize)
  have extensions := Document.entry "extensions" rfl (ReadsLine.strings s.extensions)
  exact (((Document.header "analysis" rfl).append exclude).append maxFileSize).append extensions

theorem OutputSettings.document (s : OutputSettings) :
    Document s.toToml (.header [] "output" :: entriesOf s.toTable) := by
  have directory := Document.entry "directory" rfl (ReadsLine.str s.directory)
  have format := Document.entry "format" rfl (ReadsLine.str s.format.label)
  have callGraph := Document.entry "call_graph" rfl (ReadsLine.bool s.callGraph)
  exact (((Document.header "output" rfl).append directory).append format).append callGraph

theorem LoggingSettings.document (s : LoggingSettings) :
    Document s.toToml (.header [] "logging" :: entriesOf s.toTable) := by
  obtain ⟨level, file⟩ := s
  have front := (Document.header "logging" rfl).append (.entry "level" rfl (.str level))
  cases file with
  | none => exact front.append .nil
  | some file => exact front.append (.entry "file" rfl (.str file))

theorem Config.document (c : Config) : Document c.toToml c.statements := by
  have version := Document.entry "version" rfl (ReadsLine.str c.version)
  have sections := (version.append c.analysis.document).append c.output.document
  exact sections.append c.logging.document

theorem build?_statements (c : Config) : build? c.statements = some c.toTable := by
  obtain ⟨version, ⟨exclude, size, extensions⟩, ⟨directory, format, callGraph⟩, ⟨level, file⟩⟩ := c
  cases file <;> rfl

theorem parse?_toToml (c : Config) : Toml.parse? c.toToml = some c.toTable := by
  have start : dropMark c.toToml = c.toToml := rfl
  have read := c.document.readStatements_eq (by omega : _ < c.toToml.length + 1) []
  rw [Toml.parse?, start, read]
  exact build?_statements c

theorem itemsBounded_str (texts : List String) : itemsBounded (texts.map .str) = true := by
  induction texts with
  | nil => rfl
  | cons text texts ih =>
    rw [List.map_cons, itemsBounded, ih]
    rfl

theorem fieldsBounded_toTable (c : Config) :
    fieldsBounded c.toTable = decide (c.analysis.maxFileSize < wordCount 63) := by
  have fits : fitsWord c.analysis.maxFileSize = decide (c.analysis.maxFileSize < wordCount 63) := by
    have above : -(wordCount 63 : Int) ≤ c.analysis.maxFileSize := by omega
    simp [fitsWord, above]
  have logging : fieldsBounded c.logging.toTable = true := by
    cases file : c.logging.file <;>
      simp [LoggingSettings.toTable, file, fieldsBounded, Value.isBounded]
  simp [Config.toTable, AnalysisSettings.toTable, OutputSettings.toTable, fieldsBounded,
    Value.isBounded, itemsBounded_str, logging, fits]

theorem Config.textLayer_toToml (c : Config) :
    textLayer (String.ofList c.toToml) =
      if c.analysis.maxFileSize < wordCount 63 then .ok c.toTable
      else .error (.config .unreadable) := by
  rw [textLayer, String.toList_ofList, parse?_toToml]
  simp [fieldsBounded_toTable]

theorem Toml.Value.record?_table (names : List String) (fields : List (String × Value)) :
    (Value.table fields).record? names = some (names.map (lookup fields)) := rfl

theorem Toml.Value.texts?_str (texts : List String) :
    Value.texts? (.arr (texts.map .str)) = some texts := by
  rw [Value.texts?, Json.mapM_map_eq_some Value.text? Value.str id fun _ _ => rfl, List.map_id]

theorem Toml.Value.format?_label (format : Format) :
    Value.format? (.str format.label) = some format := by
  cases format <;> rfl

theorem Toml.Value.word?_nat {n : Nat} (small : n < wordCount 64) :
    Value.word? (.int n) = some n :=
  if_pos small

theorem AnalysisSettings.ofToml?_over {s : AnalysisSettings} (small : s.maxFileSize < wordCount 64)
    (under : Option Value) : ofToml? (laidOver under (.table s.toTable)) = some s := by
  have distinct : (s.toTable.map (·.1)).Nodup := (by decide : fieldNames.Nodup)
  obtain ⟨merged, same, found⟩ := laidOver_table under distinct
  rw [same, ofToml?, Value.record?_table]
  simp [fieldNames, found, toTable, lookup_cons, Value.withDefault?, Value.texts?_str,
    Value.word?_nat small]

theorem OutputSettings.ofToml?_over (s : OutputSettings) (under : Option Value) :
    ofToml? (laidOver under (.table s.toTable)) = some s := by
  have distinct : (s.toTable.map (·.1)).Nodup := (by decide : fieldNames.Nodup)
  obtain ⟨merged, same, found⟩ := laidOver_table under distinct
  rw [same, ofToml?, Value.record?_table]
  simp [fieldNames, found, toTable, lookup_cons, Value.withDefault?, Value.text?, Value.flag?,
    Value.format?_label]

/-- The log file that a table of settings names. -/
def logFile? (under : Option Value) : Option String :=
  (lookup (tableFields under) "file").bind Value.text?

def NamesLogFile (under : Option Value) : Prop :=
  ∀ value, lookup (tableFields under) "file" = some value → ∃ file, value = .str file

theorem LoggingSettings.ofToml?_over (s : LoggingSettings) {under : Option Value}
    (named : NamesLogFile under) :
    ofToml? (laidOver under (.table s.toTable)) =
      some { s with file := s.file.or (logFile? under) } := by
  obtain ⟨level, file⟩ := s
  have distinct : ((toTable ⟨level, file⟩).map (·.1)).Nodup := by
    cases file with
    | none => exact (by decide : ["level"].Nodup)
    | some file => exact (by decide : fieldNames.Nodup)
  obtain ⟨merged, same, found⟩ := laidOver_table under distinct
  have kept : lookup merged "level" = some (.str level) := by
    rw [found]
    simp [toTable, lookup_cons]
  have names : fieldNames.map (lookup merged) = [some (.str level), lookup merged "file"] := by
    simp [fieldNames, kept]
  rw [same, ofToml?, Value.record?_table, names, found]
  cases file with
  | some file => simp [toTable, lookup_cons, Value.withDefault?, Value.text?]
  | none =>
    have absent : lookup (toTable ⟨level, none⟩) "file" = none := rfl
    rw [absent]
    cases given : lookup (tableFields under) "file" with
    | none => simp [logFile?, given, Value.withDefault?, Value.text?, default]
    | some value =>
      obtain ⟨file, rfl⟩ := named value given
      simp [logFile?, given, Value.withDefault?, Value.text?]

theorem Config.logging_of_ofTable? {fields : List (String × Value)} {c : Config}
    (read : ofTable? fields = some c) :
    Value.withDefault? LoggingSettings.ofToml? .default (lookup fields "logging") =
      some c.logging := by
  have names : fieldNames.map (lookup fields) = [lookup fields "version", lookup fields "analysis",
    lookup fields "output", lookup fields "logging"] := rfl
  rw [ofTable?, Value.record?_table, names] at read
  obtain ⟨version, -, read⟩ := Option.bind_eq_some_iff.mp read
  obtain ⟨analysis, -, read⟩ := Option.bind_eq_some_iff.mp read
  obtain ⟨output, -, read⟩ := Option.bind_eq_some_iff.mp read
  obtain ⟨logging, found, read⟩ := Option.bind_eq_some_iff.mp read
  cases read
  exact found

theorem namesLogFile_of_ofTable? {fields : List (String × Value)} {c : Config}
    (read : Config.ofTable? fields = some c) : NamesLogFile (lookup fields "logging") := by
  intro value given
  have logging := Config.logging_of_ofTable? read
  cases under : lookup fields "logging" with
  | none =>
    rw [under] at given
    cases given
  | some other =>
    rw [under] at given logging
    cases other with
    | table inner =>
      have names : LoggingSettings.fieldNames.map (lookup inner) =
        [lookup inner "level", lookup inner "file"] := rfl
      rw [Value.withDefault?, LoggingSettings.ofToml?, Value.record?_table, names] at logging
      obtain ⟨level, -, logging⟩ := Option.bind_eq_some_iff.mp logging
      obtain ⟨file, found, -⟩ := Option.bind_eq_some_iff.mp logging
      rw [show lookup inner "file" = some value from given, Value.withDefault?] at found
      cases value with
      | str file => exact ⟨file, rfl⟩
      | _ => cases found
    | _ => cases given

theorem Config.ofTable?_overlay {c : Config} (small : c.analysis.maxFileSize < wordCount 64)
    {base : List (String × Value)} (named : NamesLogFile (lookup base "logging")) :
    ofTable? (overlayFields base c.toTable) = some
      { c with logging :=
        { c.logging with file := c.logging.file.or (logFile? (lookup base "logging")) } } := by
  have distinct : (c.toTable.map (·.1)).Nodup := (by decide : fieldNames.Nodup)
  have found := lookup_overlayFields distinct base
  have names : fieldNames.map (lookup (overlayFields base c.toTable)) =
      [some (.str c.version), some (laidOver (lookup base "analysis") (.table c.analysis.toTable)),
        some (laidOver (lookup base "output") (.table c.output.toTable)),
        some (laidOver (lookup base "logging") (.table c.logging.toTable))] := by
    simp only [fieldNames, List.map_cons, List.map_nil, found]
    simp [toTable, lookup_cons]
  rw [ofTable?, Value.record?_table, names]
  simp [Value.withDefault?, Value.text?, AnalysisSettings.ofToml?_over small,
    OutputSettings.ofToml?_over, LoggingSettings.ofToml?_over _ named]

def Environment.HasNoSettings (env : Environment) : Prop :=
  ∀ binding ∈ env.bindings, Variable.keys? binding.1 = none

theorem Environment.HasNoSettings.layer {env : Environment} (free : env.HasNoSettings) :
    Variable.layer env.bindings = [] := by
  obtain ⟨bindings⟩ := env
  unfold Variable.layer
  induction bindings with
  | nil => rfl
  | cons binding bindings ih =>
    obtain ⟨first, later⟩ := List.forall_mem_cons.mp free
    obtain ⟨name, text⟩ := binding
    rw [List.foldl_cons]
    dsimp only at first ⊢
    rw [first]
    exact ih later

namespace Config

def userLogFile? (user : List (String × Value)) : Option String :=
  logFile? (lookup (overlayFields [] user) "logging")

def withUserLogFile (c : Config) (user : List (String × Value)) : Config :=
  { c with logging := { c.logging with file := c.logging.file.or (userLogFile? user) } }

theorem ofLayers_toTable {c base : Config} {user : List (String × Value)}
    (small : c.analysis.maxFileSize < wordCount 64) (checked : c.validate = .ok ())
    (valid : ofLayers [user] = .ok base) :
    ofLayers [user, c.toTable, []] = .ok (c.withUserLogFile user) := by
  have readable : ∃ found, ofTable? (overlayFields [] user) = some found := by
    cases read : ofTable? (overlayFields [] user) with
    | some found => exact ⟨found, rfl⟩
    | none =>
      simp [ofLayers, read] at valid
  obtain ⟨found, read⟩ := readable
  have merged := ofTable?_overlay small (namesLogFile_of_ofTable? read)
  have layers : [user, c.toTable, []].foldl overlayFields [] =
      overlayFields (overlayFields [] user) c.toTable := rfl
  have same : (c.withUserLogFile user).validate = .ok () := checked
  rw [ofLayers, layers, merged]
  change (c.withUserLogFile user).validate.map _ = _
  rw [same]
  rfl

end Config

namespace SettingsStore

section Saved

variable {store saved : SettingsStore} {disk after : Disk} {env : Environment}
  {config base : Config} {user : List (String × Value)}

theorem load_of_save (free : env.HasNoSettings) (done : store.save disk config = (after, .ok saved))
    (global : Config.userLayer after env = .ok user) :
    load after env store.workspace =
      if config.analysis.maxFileSize < wordCount 63 then
        (Config.ofLayers [user, config.toTable, []]).map (new store.workspace)
      else .error (.config .unreadable) := by
  obtain ⟨-, made, written⟩ := save_config_ok done
  have project : Config.optionalLayer after (Config.projectPath store.workspace) = _ :=
    Config.optionalLayer_of_entry (Disk.entry_of_write written)
  rw [load, Config.load_eq, global, project, Config.textLayer_toToml, free.layer]
  split <;> rfl

theorem load_of_save_of_small (free : env.HasNoSettings)
    (done : store.save disk config = (after, .ok saved))
    (global : Config.userLayer after env = .ok user) (valid : Config.ofLayers [user] = .ok base)
    (small : config.analysis.maxFileSize < wordCount 63) :
    load after env store.workspace =
      .ok (new store.workspace (config.withUserLogFile user)) := by
  obtain ⟨checked, -⟩ := save_config_ok done
  have fits : config.analysis.maxFileSize < wordCount 64 := Nat.lt_trans small (by decide)
  rw [load_of_save free done global, if_pos small, Config.ofLayers_toTable fits checked valid]
  rfl

theorem load_of_save_of_large (free : env.HasNoSettings)
    (done : store.save disk config = (after, .ok saved))
    (global : Config.userLayer after env = .ok user)
    (large : wordCount 63 ≤ config.analysis.maxFileSize) :
    load after env store.workspace = .error (.config .unreadable) := by
  rw [load_of_save free done global, if_neg (Nat.not_lt.mpr large)]

/-- A workspace whose settings were saved has these settings when it is opened again, but for a log
file that only the user's settings name. A size of more than 63 bits cannot be read again. -/
theorem load_after_save (free : env.HasNoSettings)
    (done : store.save disk config = (after, .ok saved))
    (global : Config.userLayer after env = .ok user) (valid : Config.ofLayers [user] = .ok base) :
    (config.analysis.maxFileSize < wordCount 63 →
      load after env store.workspace =
        .ok (new store.workspace (config.withUserLogFile user))) ∧
    (wordCount 63 ≤ config.analysis.maxFileSize →
      load after env store.workspace = .error (.config .unreadable)) :=
  ⟨load_of_save_of_small free done global valid, load_of_save_of_large free done global⟩

end Saved

def loggingUser : Config :=
  { Config.default with logging := { LoggingSettings.default with file := some "x.log" } }

def besideUser : Disk where
  tree := (((FileTree.empty.put [Text.bytesOf "ws"] .directory).put [Text.bytesOf "xdg"]
    .directory).put [Text.bytesOf "xdg", Text.bytesOf "pyweave"] .directory).put
      [Text.bytesOf "xdg", Text.bytesOf "pyweave", Text.bytesOf "config.toml"]
      (.file (String.ofList loggingUser.toToml).toUTF8)
  workingDirectory := []

def userEnvironment : Environment := ⟨[("XDG_CONFIG_HOME", "xdg")]⟩

def emptyStore : SettingsStore := new (.ofText "ws") .default

def largeSize : Config :=
  { Config.default with analysis := { AnalysisSettings.default with maxFileSize := wordCount 63 } }

theorem userEnvironment_hasNoSettings : userEnvironment.HasNoSettings := by
  intro binding member
  cases List.mem_singleton.mp member
  rfl

theorem save_besideUser {config : Config} (checked : config.validate = .ok ()) :
    ∃ after, emptyStore.save besideUser config = (after, .ok (emptyStore.publish config)) ∧
      Config.userLayer after userEnvironment = .ok loggingUser.toTable := by
  refine ⟨(emptyStore.save besideUser config).1, ?_, ?_⟩
  · rw [save_config _ _ _ checked]
    rfl
  · have entry : (emptyStore.save besideUser config).1.entry (.ofText "xdg/pyweave/config.toml") =
        .ok (.file (String.ofList loggingUser.toToml).toUTF8) := by
      rw [save_config _ _ _ checked]
      rfl
    have layer := Config.optionalLayer_of_entry entry
    rw [Config.textLayer_toToml, if_pos (by decide)] at layer
    exact layer

theorem ofLayers_loggingUser : Config.ofLayers [loggingUser.toTable] = .ok loggingUser := rfl

theorem load_after_save_besideUser :
    userEnvironment.HasNoSettings ∧ Config.ofLayers [loggingUser.toTable] = .ok loggingUser ∧
    ∃ after,
      emptyStore.save besideUser Config.default = (after, .ok (emptyStore.publish .default)) ∧
      Config.userLayer after userEnvironment = .ok loggingUser.toTable ∧
      load after userEnvironment emptyStore.workspace =
        .ok (new emptyStore.workspace loggingUser) := by
  obtain ⟨after, done, layer⟩ := save_besideUser (rfl : Config.default.validate = .ok ())
  have opened := load_after_save userEnvironment_hasNoSettings done layer ofLayers_loggingUser
  exact ⟨userEnvironment_hasNoSettings, ofLayers_loggingUser, after, done, layer,
    opened.1 (by decide)⟩

/-- Saved settings are not what is opened: a user's log file replaces an absent one, and a large
size makes the saved file unreadable. -/
theorem saved_is_not_opened :
    (∃ after,
      emptyStore.save besideUser Config.default = (after, .ok (emptyStore.publish .default)) ∧
      (load after userEnvironment emptyStore.workspace).map (·.current) = .ok loggingUser ∧
      loggingUser ≠ .default) ∧
    ∃ after, emptyStore.save besideUser largeSize = (after, .ok (emptyStore.publish largeSize)) ∧
      load after userEnvironment emptyStore.workspace = .error (.config .unreadable) := by
  constructor
  · obtain ⟨after, done, layer⟩ := save_besideUser (rfl : Config.default.validate = .ok ())
    have opened := load_of_save_of_small userEnvironment_hasNoSettings done layer
      ofLayers_loggingUser (by decide)
    refine ⟨after, done, ?_, by decide⟩
    rw [opened]
    rfl
  · obtain ⟨after, done, layer⟩ := save_besideUser (rfl : largeSize.validate = .ok ())
    exact ⟨after, done, load_of_save_of_large userEnvironment_hasNoSettings done layer
      (Nat.le_refl _)⟩

end SettingsStore

namespace Config

theorem ofLayers_singleton {c : Config} (small : c.analysis.maxFileSize < wordCount 64)
    (checked : c.validate = .ok ()) : ofLayers [c.toTable] = .ok c := by
  have bare : NamesLogFile (lookup [] "logging") := by
    intro value given
    cases given
  have unnamed : logFile? (lookup [] "logging") = none := rfl
  have read := ofTable?_overlay small bare
  rw [unnamed, Option.or_none] at read
  have layers : [c.toTable].foldl overlayFields [] = overlayFields [] c.toTable := rfl
  rw [ofLayers, layers, read]
  dsimp only
  rw [checked]
  rfl

theorem loadFile_of_entry {c : Config} (checked : c.validate = .ok ())
    (small : c.analysis.maxFileSize < wordCount 63) {disk : Disk} {path : Path}
    (entry : disk.entry path = .ok (.file (String.ofList c.toToml).toUTF8)) :
    loadFile disk path = .ok c := by
  have fits : c.analysis.maxFileSize < wordCount 64 := Nat.lt_trans small (by decide)
  have layer : fileLayer disk path = .ok c.toTable := by
    rw [fileLayer, (Disk.readNearest?_of_entry entry).2]
    dsimp only
    rw [textLayer_toToml, if_pos small]
  rw [loadFile, layer]
  exact ofLayers_singleton fits checked

/-- A file with the document of settings gives these settings, and so does the file that a save
leaves. -/
theorem loadFile_toToml {config : Config} (checked : config.validate = .ok ())
    (small : config.analysis.maxFileSize < wordCount 63) :
    (∀ (disk : Disk) (path : Path),
      disk.entry path = .ok (.file (String.ofList config.toToml).toUTF8) →
      loadFile disk path = .ok config) ∧
    ∀ (store saved : SettingsStore) (disk after : Disk),
      store.save disk config = (after, .ok saved) →
      loadFile after store.configPath = .ok config := by
  constructor
  · intro disk path entry
    exact loadFile_of_entry checked small entry
  · intro store saved disk after done
    obtain ⟨-, made, written⟩ := SettingsStore.save_config_ok done
    exact loadFile_of_entry checked small (Disk.entry_of_write written)

def hardTexts : Config where
  version := "\"\\\n\r\x00\x7f"
  analysis :=
    { exclude := ["it's \"*\"", "'''\\\n"], maxFileSize := wordCount 63 - 1,
      extensions := ["", "\r\n"] }
  output := { directory := "\"\"\"\n'''", format := .yaml, callGraph := false }
  logging := { level := "info", file := none }

open SettingsStore (emptyStore besideUser save_besideUser) in
theorem loadFile_toToml_hardTexts :
    hardTexts.validate = .ok () ∧ hardTexts.analysis.maxFileSize < wordCount 63 ∧
    ∃ after, emptyStore.save besideUser hardTexts = (after, .ok (emptyStore.publish hardTexts)) ∧
      loadFile after emptyStore.configPath = .ok hardTexts := by
  have checked : hardTexts.validate = .ok () := rfl
  have small : hardTexts.analysis.maxFileSize < wordCount 63 := by decide
  obtain ⟨after, done, -⟩ := save_besideUser checked
  exact ⟨checked, small, after, done,
    (loadFile_toToml checked small).2 emptyStore _ besideUser after done⟩

end Config

end Outline
