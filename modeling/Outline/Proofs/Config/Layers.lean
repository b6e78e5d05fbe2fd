import Outline.Proofs.Config.Setting
import Outline.Proofs.Settings.Reopen
import Outline.Proofs.Toml.Keys

namespace Outline

open Outline.Toml

def Setting.value? (s : Setting) (fields : List (String × Value)) : Option s.Content :=
  (s.given? fields).bind s.read?

def Toml.Value.isArray : Value → Bool
  | .arr _ => true
  | _ => false

namespace Setting

def isListed (s : Setting) (fields : List (String × Value)) : Bool :=
  match s.group? with
  | none => false
  | some group => (lookup fields group.key).any Value.isArray

/-- Whether a table that is laid over another one hides what that one says for a setting even if it
says nothing for it. A table is merged with a table, but takes the place of an array. -/
def isHidden (s : Setting) (base upper : List (String × Value)) : Bool :=
  match s.group? with
  | none => false
  | some group => (lookup upper group.key).isSome && s.isListed base

end Setting

namespace Config

def HasTables (fields : List (String × Value)) : Prop :=
  ∀ (group : Setting.Group) (value : Value), lookup fields group.key = some value →
    ∃ inner, value = .table inner

/-- The settings that a table gives are of their types. Keys of other names may hold anything. -/
structure Typed (fields : List (String × Value)) : Prop where
  tables : HasTables fields
  settings : ∀ (s : Setting) (value : Value), s.given? fields = some value →
    (s.read? value).isSome = true

theorem HasTables.nil : HasTables [] := by
  intro group value found
  cases found

theorem laidOver_of_read {s : Setting} {value : Value} (typed : (s.read? value).isSome = true)
    (under : Option Value) : laidOver under value = value := by
  cases value with
  | str text => exact laidOver_str under text
  | int n => exact laidOver_int under n
  | bool flag => exact laidOver_bool under flag
  | arr items => exact laidOver_arr under items
  | float => cases s <;> cases typed
  | datetime => cases s <;> cases typed
  | table fields => cases s <;> cases typed

theorem lookup_tableFields (names : List String) (under : Option Value) (key : String) :
    lookup (tableFields under) key =
      if under.any Value.isArray then none else lookup (recordFields names under) key := by
  cases under with
  | none => rfl
  | some value => cases value <;> rfl

section Overlay

variable {base upper : List (String × Value)}

theorem group_overlay (distinct : KeysDistinct upper) (above : HasTables upper)
    {group : Setting.Group} {value : Value}
    (found : lookup (overlayFields base upper) group.key = some value) :
    lookup base group.key = some value ∨ ∃ merged, value = .table merged := by
  rw [lookup_overlayFields distinct.keys] at found
  cases given : lookup upper group.key with
  | none =>
    rw [given] at found
    exact .inl found
  | some other =>
    obtain ⟨inner, rfl⟩ := above group other given
    obtain ⟨merged, same, -⟩ := laidOver_table (lookup base group.key) (distinct.of_lookup given)
    rw [given] at found
    dsimp only at found
    rw [same] at found
    cases found
    exact .inr ⟨merged, rfl⟩

theorem HasTables.overlay (distinct : KeysDistinct upper) (below : HasTables base)
    (above : HasTables upper) : HasTables (overlayFields base upper) := by
  intro group value found
  rcases group_overlay distinct above found with untouched | merged
  · exact below group value untouched
  · exact merged

theorem HasRecords.overlay (distinct : KeysDistinct upper) (below : HasRecords base)
    (above : HasTables upper) : HasRecords (overlayFields base upper) := by
  intro group value found
  rcases group_overlay distinct above found with untouched | ⟨merged, rfl⟩
  · exact below group value untouched
  · rfl

theorem given?_overlay (distinct : KeysDistinct upper) (above : Typed upper) (s : Setting) :
    s.given? (overlayFields base upper) =
      (s.given? upper).or (if s.isHidden base upper then none else s.given? base) := by
  have typed := above.settings s
  unfold Setting.given? Setting.table at typed ⊢
  unfold Setting.isHidden Setting.isListed
  cases place : s.group? with
  | none =>
    simp only [place] at typed ⊢
    rw [lookup_overlayFields distinct.keys]
    cases given : lookup upper s.key with
    | none => rfl
    | some value =>
      dsimp only
      rw [laidOver_of_read (typed value given)]
      rfl
  | some group =>
    simp only [place] at typed ⊢
    rw [lookup_overlayFields distinct.keys]
    cases given : lookup upper group.key with
    | none => rfl
    | some other =>
      rw [given] at typed
      obtain ⟨inner, rfl⟩ := above.tables group other given
      obtain ⟨merged, same, found⟩ := laidOver_table (lookup base group.key) (distinct.of_lookup given)
      dsimp only
      -- Only the fields of a table are left below; those of an array are gone.
      rw [same, recordFields, recordFields, found, Option.isSome_some, Bool.true_and,
        ← lookup_tableFields]
      cases read : lookup inner s.key with
      | none => rfl
      | some value =>
        dsimp only
        rw [laidOver_of_read (typed value read)]
        rfl

def overlaid (c : Config) (base upper : List (String × Value)) : Config :=
  ofSettings fun s =>
    (s.value? upper).getD (if s.isHidden base upper then s.get .default else s.get c)

/-- Whatever settings are read from a table, one that is laid over it changes those that it gives, and
resets those that it hides. -/
theorem ofTable?_overlaid {c : Config} (read : ofTable? base = some c)
    (distinct : KeysDistinct upper) (above : Typed upper) :
    ofTable? (overlayFields base upper) = some (c.overlaid base upper) := by
  rw [ofTable?_eq_some_iff] at read ⊢
  obtain ⟨records, each⟩ := read
  refine ⟨records.overlay distinct above.tables, ?_⟩
  intro s
  rw [given?_overlay distinct above, overlaid, Setting.get_ofSettings, Setting.value?]
  cases upper : s.given? upper with
  | some value =>
    obtain ⟨content, found⟩ := Option.isSome_iff_exists.mp (above.settings s value upper)
    simp [Value.withDefault?, found]
  | none =>
    rw [Option.none_or, Option.bind_none, Option.getD_none]
    split
    · rfl
    · exact each s

theorem HasTables.isHidden_eq (tables : HasTables base) (upper : List (String × Value))
    (s : Setting) : s.isHidden base upper = false := by
  unfold Setting.isHidden Setting.isListed
  split
  · rfl
  · rename_i group place
    dsimp only
    cases found : lookup base group.key with
    | none => exact Bool.and_false _
    | some value =>
      obtain ⟨inner, rfl⟩ := tables group value found
      exact Bool.and_false _

end Overlay

def combined (user project : List (String × Value)) : Config :=
  ofSettings fun s => ((s.value? project).or (s.value? user)).getD (s.get .default)

theorem ofTable?_combined {user project : List (String × Value)} (distinctUser : KeysDistinct user)
    (distinctProject : KeysDistinct project) (typedUser : Typed user)
    (typedProject : Typed project) :
    ofTable? (overlayFields (overlayFields [] user) project) = some (combined user project) := by
  have bare : ofTable? [] = some default := rfl
  have tables := HasTables.nil.overlay distinctUser typedUser.tables
  have lower := ofTable?_overlaid bare distinctUser typedUser
  rw [ofTable?_overlaid lower distinctProject typedProject]
  congr 1
  -- No file has an array for a group, so nothing is hidden.
  apply Setting.ext
  intro s
  simp only [overlaid, combined, Setting.get_ofSettings, tables.isHidden_eq,
    HasTables.nil.isHidden_eq, Bool.false_eq_true, if_false]
  cases s.value? project <;> rfl

/-- What the file at a path gives: nothing if there is none, and else what its document writes. -/
inductive FileGives (disk : Disk) : Option Path → List (String × Value) → Prop
  | nowhere : FileGives disk none []
  | absent {path : Path} (missing : disk.hasEntry path = false) : FileGives disk (some path) []
  | document {path : Path} {text : String} {fields : List (String × Value)}
      (entry : disk.entry path = .ok (.file text.toUTF8)) (written : textLayer text = .ok fields) :
      FileGives disk (some path) fields

section Files

variable {disk : Disk} {fields : List (String × Value)}

theorem FileGives.distinct {path? : Option Path} (gives : FileGives disk path? fields) :
    KeysDistinct fields := by
  cases gives with
  | nowhere => exact .nil
  | absent missing => exact .nil
  | document entry written =>
    unfold textLayer at written
    split at written
    · rename_i read
      split at written
      · cases written
        exact parse?_distinct read
      · cases written
    · cases written

theorem FileGives.optionalLayer_eq {path : Path} (gives : FileGives disk (some path) fields) :
    optionalLayer disk path = .ok fields := by
  cases gives with
  | absent missing => rw [optionalLayer, missing]; rfl
  | document entry written => rw [optionalLayer_of_entry entry, written]

theorem FileGives.userLayer_eq {env : Environment} (gives : FileGives disk (userPath? env) fields) :
    userLayer disk env = .ok fields := by
  unfold userLayer
  generalize userPath? env = path? at gives
  cases path? with
  | none =>
    cases gives
    rfl
  | some path => exact gives.optionalLayer_eq

end Files

section Combination

variable {disk : Disk} {env : Environment} {workspace : Path} {user project : List (String × Value)}

theorem load_eq_combined (free : env.HasNoSettings) (ofUser : FileGives disk (userPath? env) user)
    (ofProject : FileGives disk (some (projectPath workspace)) project)
    (typedUser : Typed user) (typedProject : Typed project) :
    load disk env workspace =
      (combined user project).validate.map fun _ => combined user project := by
  have read := ofTable?_combined ofUser.distinct ofProject.distinct typedUser typedProject
  have layers : [user, project, []].foldl overlayFields [] =
      overlayFields (overlayFields [] user) project := rfl
  rw [load_eq, ofUser.userLayer_eq, ofProject.optionalLayer_eq, free.layer]
  change ofLayers [user, project, []] = _
  rw [ofLayers, layers, read]

/-- Without variables, each setting is that of the workspace, or else that of the user, or else its
default; what comes of this is checked as a whole. -/
theorem load_combines (free : env.HasNoSettings) (ofUser : FileGives disk (userPath? env) user)
    (ofProject : FileGives disk (some (projectPath workspace)) project)
    (typedUser : Typed user) (typedProject : Typed project) :
    ∃ c : Config,
      (∀ s : Setting, s.get c =
        ((s.value? project).or (s.value? user)).getD (s.get .default)) ∧
      load disk env workspace = c.validate.map fun _ => c :=
  ⟨combined user project, Setting.get_ofSettings _,
    load_eq_combined free ofUser ofProject typedUser typedProject⟩

end Combination

section BesideWorkspace

open SettingsStore (userEnvironment userEnvironment_hasNoSettings)

theorem textLayer_of_document {text : List Char} {statements : List Statement}
    {fields : List (String × Value)} (document : Document text statements)
    (unmarked : dropMark text = text) (built : build? statements = some fields)
    (bounded : fieldsBounded fields = true) : textLayer (String.ofList text) = .ok fields := by
  have read := document.readStatements_eq (by omega : _ < text.length + 1) []
  have parsed : parse? text = some fields := by
    rw [parse?, unmarked, read]
    exact built
  rw [textLayer, String.toList_ofList, parsed]
  exact if_pos bounded

def userDocument : List Char :=
  writeHeader "analysis" ++ writeEntry "exclude" (writeStrings ["docs", "build"]) ++
    writeEntry "max_file_size" (Text.natText 4096) ++
    writeHeader "output" ++ writeEntry "format" (writeString "yaml".toList)

def userTable : List (String × Value) :=
  [("analysis", .table [("exclude", .arr [.str "docs", .str "build"]),
      ("max_file_size", .int 4096)]),
    ("output", .table [("format", .str "yaml")])]

def workspaceDocument : List Char :=
  writeEntry "team" (writeString "core".toList) ++
    writeHeader "analysis" ++ writeEntry "exclude" (writeStrings ["dist"]) ++
    writeEntry "strict" (Json.boolText true)

def workspaceTable : List (String × Value) :=
  [("team", .str "core"),
    ("analysis", .table [("exclude", .arr [.str "dist"]), ("strict", .bool true)])]

def besideWorkspace : Disk where
  tree := (((((FileTree.empty.put [Text.bytesOf "xdg"] .directory).put
    [Text.bytesOf "xdg", Text.bytesOf "pyweave"] .directory).put
      [Text.bytesOf "xdg", Text.bytesOf "pyweave", Text.bytesOf "config.toml"]
      (.file (String.ofList userDocument).toUTF8)).put [Text.bytesOf "ws"] .directory).put
    [Text.bytesOf "ws", Text.bytesOf ".pyweave"] .directory).put
      [Text.bytesOf "ws", Text.bytesOf ".pyweave", Text.bytesOf "config.toml"]
      (.file (String.ofList workspaceDocument).toUTF8)
  workingDirectory := []

theorem textLayer_userDocument : textLayer (String.ofList userDocument) = .ok userTable := by
  have exclude := Document.entry "exclude" rfl (.strings ["docs", "build"])
  have size := Document.entry "max_file_size" rfl (.nat 4096)
  have format := Document.entry "format" rfl (.str "yaml")
  have analysis := ((Document.header "analysis" rfl).append exclude).append size
  exact textLayer_of_document ((analysis.append (.header "output" rfl)).append format) rfl rfl rfl

theorem textLayer_workspaceDocument :
    textLayer (String.ofList workspaceDocument) = .ok workspaceTable := by
  have team := Document.entry "team" rfl (.str "core")
  have exclude := Document.entry "exclude" rfl (.strings ["dist"])
  have strict := Document.entry "strict" rfl (.bool true)
  have analysis := (team.append (.header "analysis" rfl)).append exclude
  exact textLayer_of_document (analysis.append strict) rfl rfl rfl

theorem fileGives_userTable : FileGives besideWorkspace (userPath? userEnvironment) userTable := by
  have entry : besideWorkspace.entry (.ofText "xdg/pyweave/config.toml") =
      .ok (.file (String.ofList userDocument).toUTF8) := rfl
  exact .document entry textLayer_userDocument

theorem fileGives_workspaceTable :
    FileGives besideWorkspace (some (projectPath (.ofText "ws"))) workspaceTable := by
  have entry : besideWorkspace.entry (projectPath (.ofText "ws")) =
      .ok (.file (String.ofList workspaceDocument).toUTF8) := rfl
  exact .document entry textLayer_workspaceDocument

theorem typed_userTable : Typed userTable where
  tables := by
    intro group value found
    cases group <;> cases found <;> exact ⟨_, rfl⟩
  settings := by
    intro s value found
    cases s <;> cases found <;> rfl

theorem typed_workspaceTable : Typed workspaceTable where
  tables := by
    intro group value found
    cases group <;> cases found
    exact ⟨_, rfl⟩
  settings := by
    intro s value found
    cases s <;> cases found
    rfl

def workspaceSettings : Config :=
  { Config.default with
    analysis := { AnalysisSettings.default with exclude := ["dist"], maxFileSize := 4096 }
    output := { OutputSettings.default with format := .yaml } }

theorem load_combines_besideWorkspace :
    userEnvironment.HasNoSettings ∧
    FileGives besideWorkspace (userPath? userEnvironment) userTable ∧
    FileGives besideWorkspace (some (projectPath (.ofText "ws"))) workspaceTable ∧
    Typed userTable ∧ Typed workspaceTable ∧
    load besideWorkspace userEnvironment (.ofText "ws") = .ok workspaceSettings := by
  obtain ⟨c, each, loaded⟩ := load_combines userEnvironment_hasNoSettings fileGives_userTable
    fileGives_workspaceTable typed_userTable typed_workspaceTable
  have whole : c = workspaceSettings := by
    apply Setting.ext
    intro s
    rw [each s]
    cases s <;> rfl
  refine ⟨userEnvironment_hasNoSettings, fileGives_userTable, fileGives_workspaceTable,
    typed_userTable, typed_workspaceTable, ?_⟩
  rw [loaded, whole]
  rfl

end BesideWorkspace

end Config

end Outline
