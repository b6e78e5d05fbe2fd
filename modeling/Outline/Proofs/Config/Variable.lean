import Outline.Proofs.Config.Layers

namespace Outline

open Outline.Toml

namespace Setting

def path (s : Setting) : List String :=
  match s.group? with
  | none => [s.key]
  | some group => [group.key, s.key]

/-- The name of the variable for a setting: its keys in upper case with underscores between them. -/
def variableName (s : Setting) : String :=
  String.ofList (Variable.namePrefix ++
    (['_'].intercalate (s.path.map String.toList)).map Char.toUpper)

def variableKeys (s : Setting) : List (List Char) := s.path.flatMap (·.toList.splitOn '_')

def nested (s : Setting) (value : Value) : List (String × Value) :=
  match s.variableKeys with
  | [] => []
  | key :: keys => [(String.ofList key, Variable.nest value keys)]

theorem keys?_variableName (s : Setting) :
    Variable.keys? s.variableName = some s.variableKeys := by
  cases s <;> decide +kernel

theorem nest_variableKeys (s : Setting) (value : Value) :
    Variable.nest value s.variableKeys = .table (s.nested value) := by
  cases s <;> rfl

theorem variableName_ne (s : Setting) :
    s.variableName ≠ "XDG_CONFIG_HOME" ∧ s.variableName ≠ "HOME" := by
  cases s <;> decide +kernel

theorem layer_variableName (s : Setting) (text : String) :
    Variable.layer [(s.variableName, text)] = s.nested (Variable.value text) := by
  rw [Variable.layer, List.foldl_cons, List.foldl_nil]
  dsimp only
  rw [keys?_variableName, Option.map_some, nest_variableKeys, nested]
  cases s.variableKeys <;> rfl

section Nested

variable {s t : Setting} {value : Value}

theorem keysDistinct_nest (leaf : value.KeysDistinct) (keys : List (List Char)) :
    (Variable.nest value keys).KeysDistinct := by
  cases keys with
  | nil => exact leaf
  | cons key keys => simp [Variable.nest, Value.KeysDistinct]

theorem keysDistinct_nested (typed : (s.read? value).isSome = true) :
    KeysDistinct (s.nested value) := by
  have leaf : value.KeysDistinct := by
    cases value with
    | table fields => cases s <;> cases typed
    | _ => trivial
  unfold nested
  split
  · exact .nil
  · exact .singleton (keysDistinct_nest leaf _)

theorem typed_nested (typed : (s.read? value).isSome = true) :
    Config.Typed (s.nested value) where
  tables := by
    intro group other found
    cases s <;> cases group <;> cases found <;> exact ⟨_, rfl⟩
  settings := by
    intro t other found
    cases s <;> cases t <;> cases found <;> exact typed

theorem value?_nested (s : Setting) (value : Value) :
    s.value? (s.nested value) = if '_' ∈ s.key.toList then none else s.read? value := by
  cases s <;> rfl

theorem value?_nested_of_ne (different : t ≠ s) (value : Value) :
    t.value? (s.nested value) = none := by
  cases s <;> cases t <;> first | rfl | exact absurd rfl different

theorem isHidden_nested (s t : Setting) (base : List (String × Value)) (value : Value) :
    t.isHidden base (s.nested value) = (decide (t.group? = s.group?) && s.isListed base) := by
  cases s <;> cases t <;> rfl

end Nested

def Group.clear : Group → Config → Config
  | analysis, c => { c with analysis := .default }
  | output, c => { c with output := .default }
  | logging, c => { c with logging := .default }

theorem Group.get_clear (group : Group) (c : Config) (t : Setting) :
    t.get (group.clear c) = if t.group? = some group then t.get .default else t.get c := by
  cases group <;> cases t <;> rfl

/-- What the settings of the files are under a variable for a setting. A group that is an array is
hidden as a whole. -/
def exposed (s : Setting) (files : List (String × Value)) (c : Config) : Config :=
  if s.isListed files then s.group?.elim c (·.clear c) else c

theorem get_exposed (s t : Setting) (files : List (String × Value)) (c : Config) :
    t.get (s.exposed files c) =
      if decide (t.group? = s.group?) && s.isListed files then t.get .default else t.get c := by
  unfold exposed isListed
  cases s.group? with
  | none => simp
  | some group =>
    dsimp only
    split
    · rename_i listed
      simp [Group.get_clear, listed]
    · rename_i plain
      simp [plain]

theorem overlaid_nested {s : Setting} {value : Value} {v : s.Content}
    (read : s.read? value = some v) (files : List (String × Value)) (c : Config) :
    c.overlaid files (s.nested value) =
      if '_' ∈ s.key.toList then s.exposed files c else s.set (s.exposed files c) v := by
  apply ext
  intro t
  rw [Config.overlaid, get_ofSettings, isHidden_nested, ← get_exposed]
  by_cases same : t = s
  · subst same
    rw [value?_nested]
    split
    · rfl
    · rw [read, Option.getD_some, get_set_self]
  · rw [value?_nested_of_ne same, Option.getD_none]
    split
    · rfl
    · rw [get_set_of_ne same]

theorem validate_exposed {c : Config} (valid : c.validate = .ok ()) (s : Setting)
    (files : List (String × Value)) : (s.exposed files c).validate = .ok () := by
  rw [Config.validate_eq_ok_iff] at valid ⊢
  intro t
  rw [get_exposed]
  split
  · exact t.accepts_default
  · exact valid t

theorem validate_set {s : Setting} {v : s.Content} {c d : Config}
    (fits : (s.set c v).validate = .ok ()) (valid : d.validate = .ok ()) :
    (s.set d v).validate = .ok () := by
  rw [Config.validate_eq_ok_iff] at fits valid ⊢
  intro t
  by_cases same : t = s
  · subst same
    have accepted := fits t
    rwa [get_set_self] at accepted ⊢
  · rw [get_set_of_ne same]
    exact valid t

end Setting

section Insert

variable {before after : List (String × String)} {name text : String}

theorem Environment.get?_insert {other : String} (different : name ≠ other) :
    get? ⟨before ++ (name, text) :: after⟩ other = get? ⟨before ++ after⟩ other := by
  simp [get?, List.find?_append, different]

theorem Config.userPath?_insert (configured : name ≠ "XDG_CONFIG_HOME") (home : name ≠ "HOME") :
    userPath? ⟨before ++ (name, text) :: after⟩ = userPath? ⟨before ++ after⟩ := by
  rw [userPath?, userPath?, Environment.userDirectory?, Environment.userDirectory?,
    Environment.get?_insert configured, Environment.get?_insert home]

theorem Variable.layer_filter (bindings : List (String × String)) :
    layer (bindings.filter fun binding => (keys? binding.1).isSome) = layer bindings := by
  rw [layer, layer, List.foldl_filter]
  congr 1
  funext fields ⟨name, text⟩
  dsimp only
  cases keys? name <;> rfl

theorem Variable.layer_insert (free : Environment.HasNoSettings ⟨before ++ after⟩)
    {keys : List (List Char)} (known : keys? name = some keys) :
    layer (before ++ (name, text) :: after) = layer [(name, text)] := by
  obtain ⟨first, later⟩ := List.forall_mem_append.mp free
  rw [← layer_filter, List.filter_append, List.filter_cons_of_pos (by simp [known]),
    List.filter_eq_nil_iff.mpr (by simpa using first),
    List.filter_eq_nil_iff.mpr (by simpa using later), List.nil_append]

end Insert

namespace Config

def ofFields (fields : List (String × Value)) : Except Error Config :=
  match ofTable? fields with
  | none => .error (.config .unreadable)
  | some config => config.validate.map fun _ => config

theorem ofFields_eq_ok_iff {fields : List (String × Value)} {c : Config} :
    ofFields fields = .ok c ↔ ofTable? fields = some c ∧ c.validate = .ok () := by
  unfold ofFields
  cases read : ofTable? fields with
  | none => simp
  | some found =>
    cases checked : found.validate with
    | error e =>
      have other : found = c → c.validate ≠ .ok () := by
        rintro rfl
        simp [checked]
      simpa [checked, Except.map] using other
    | ok =>
      have same : found = c → c.validate = .ok () := by
        rintro rfl
        exact checked
      simpa [checked, Except.map] using same

def filesLayer (disk : Disk) (env : Environment) (workspace : Path) :
    Except Error (List (String × Value)) :=
  userLayer disk env >>= fun user =>
    optionalLayer disk (projectPath workspace) >>= fun project =>
      .ok (overlayFields (overlayFields [] user) project)

theorem load_eq_filesLayer (disk : Disk) (env : Environment) (workspace : Path) :
    load disk env workspace =
      filesLayer disk env workspace >>= fun files =>
        ofFields (overlayFields files (Variable.layer env.bindings)) := by
  rw [load_eq, filesLayer]
  cases userLayer disk env with
  | error e => rfl
  | ok user => cases optionalLayer disk (projectPath workspace) <;> rfl

section Load

variable {disk : Disk} {before after : List (String × String)} {workspace : Path} {c : Config}
  {s : Setting} {text : String} {v : s.Content}

theorem load_of_filesLayer {files : List (String × Value)}
    (free : Environment.HasNoSettings ⟨before ++ after⟩)
    (given : filesLayer disk ⟨before ++ after⟩ workspace = .ok files)
    (bare : ofTable? files = some c) (valid : c.validate = .ok ())
    (read : s.read? (Variable.value text) = some v) (fits : (s.set c v).validate = .ok ()) :
    load disk ⟨before ++ (s.variableName, text) :: after⟩ workspace =
      .ok (if '_' ∈ s.key.toList then s.exposed files c else s.set (s.exposed files c) v) := by
  have typed : (s.read? (Variable.value text)).isSome = true := by rw [read]; rfl
  have merged := ofTable?_overlaid bare (Setting.keysDistinct_nested typed)
    (Setting.typed_nested typed)
  have layer : Variable.layer (before ++ (s.variableName, text) :: after) =
      s.nested (Variable.value text) := by
    rw [Variable.layer_insert free s.keys?_variableName, s.layer_variableName]
  have same : filesLayer disk ⟨before ++ (s.variableName, text) :: after⟩ workspace = .ok files := by
    rw [← given, filesLayer, filesLayer, userLayer, userLayer,
      userPath?_insert s.variableName_ne.1 s.variableName_ne.2]
  rw [load_eq_filesLayer, same]
  change ofFields _ = _
  rw [layer, ofFields_eq_ok_iff, merged, Setting.overlaid_nested read]
  refine ⟨rfl, ?_⟩
  -- Defaults are valid, so what the variable hides does no harm.
  have below := Setting.validate_exposed valid s files
  split
  · exact below
  · exact Setting.validate_set fits below

/-- A variable for a setting has its effect exactly if the key of the setting has no underscore. The
other settings stay as they are, but for those of a group that a file gives as an array. -/
theorem load_with_variable (free : Environment.HasNoSettings ⟨before ++ after⟩)
    (loaded : load disk ⟨before ++ after⟩ workspace = .ok c)
    (read : s.read? (Variable.value text) = some v) (fits : (s.set c v).validate = .ok ()) :
    ∃ files, filesLayer disk ⟨before ++ after⟩ workspace = .ok files ∧
      load disk ⟨before ++ (s.variableName, text) :: after⟩ workspace =
        .ok (if '_' ∈ s.key.toList then s.exposed files c else s.set (s.exposed files c) v) := by
  rw [load_eq_filesLayer] at loaded
  obtain ⟨files, given, loaded⟩ := bind_eq_ok loaded
  rw [free.layer, overlayFields, ofFields_eq_ok_iff] at loaded
  obtain ⟨bare, valid⟩ := loaded
  exact ⟨files, given, load_of_filesLayer free given bare valid read fits⟩

end Load

section BesideWorkspace

open SettingsStore (userEnvironment userEnvironment_hasNoSettings)

theorem load_besideWorkspace :
    load besideWorkspace userEnvironment (.ofText "ws") = .ok workspaceSettings :=
  load_eq_combined userEnvironment_hasNoSettings fileGives_userTable fileGives_workspaceTable
    typed_userTable typed_workspaceTable

theorem filesLayer_besideWorkspace :
    filesLayer besideWorkspace userEnvironment (.ofText "ws") =
      .ok (overlayFields (overlayFields [] userTable) workspaceTable) := by
  rw [filesLayer, fileGives_userTable.userLayer_eq, fileGives_workspaceTable.optionalLayer_eq]
  rfl

theorem load_with_variable_besideWorkspace :
    userEnvironment.HasNoSettings ∧
    load besideWorkspace userEnvironment (.ofText "ws") = .ok workspaceSettings ∧
    Setting.extensions.read? (Variable.value "[pyx]") = some ["pyx"] ∧
    (Setting.extensions.set workspaceSettings ["pyx"]).validate = .ok () ∧
    load besideWorkspace
      ⟨[("XDG_CONFIG_HOME", "xdg"), ("PYWEAVE_ANALYSIS_EXTENSIONS", "[pyx]")]⟩ (.ofText "ws") =
        .ok (Setting.extensions.set workspaceSettings ["pyx"]) := by
  have read : Setting.extensions.read? (Variable.value "[pyx]") = some ["pyx"] := rfl
  have fits : (Setting.extensions.set workspaceSettings ["pyx"]).validate = .ok () := rfl
  have free : Environment.HasNoSettings ⟨[("XDG_CONFIG_HOME", "xdg")] ++ []⟩ :=
    userEnvironment_hasNoSettings
  obtain ⟨files, given, loaded⟩ := load_with_variable free load_besideWorkspace read fits
  have known : files = overlayFields (overlayFields [] userTable) workspaceTable :=
    Except.ok.inj (given.symm.trans filesLayer_besideWorkspace)
  subst known
  exact ⟨free, load_besideWorkspace, read, fits, loaded⟩

end BesideWorkspace

def withDocument (document : List Char) : Disk where
  tree := ((FileTree.empty.put [Text.bytesOf "ws"] .directory).put
    [Text.bytesOf "ws", Text.bytesOf ".pyweave"] .directory).put
      [Text.bytesOf "ws", Text.bytesOf ".pyweave", Text.bytesOf "config.toml"]
      (.file (String.ofList document).toUTF8)
  workingDirectory := []

def listedOutput : List Char := writeEntry "output" (writeStrings ["out"])

theorem optionalLayer_listedOutput :
    optionalLayer (withDocument listedOutput) (projectPath (.ofText "ws")) =
      .ok [("output", .arr [.str "out"])] := by
  have entry : (withDocument listedOutput).entry (projectPath (.ofText "ws")) =
      .ok (.file (String.ofList listedOutput).toUTF8) := rfl
  rw [optionalLayer_of_entry entry]
  exact textLayer_of_document (.entry "output" rfl (.strings ["out"])) rfl rfl rfl

def outSettings : Config := Setting.directory.set .default "out"

/-- A variable for a key with an underscore changes nothing, and one for a group that is an array
resets the rest of the group. -/
theorem setting_is_not_overridden :
    (load (withDocument []) ⟨[]⟩ (.ofText "ws") = .ok .default ∧
      Setting.callGraph.read? (Variable.value "false") = some false ∧
      (Setting.callGraph.set .default false).validate = .ok () ∧
      load (withDocument []) ⟨[("PYWEAVE_OUTPUT_CALL_GRAPH", "false")]⟩ (.ofText "ws") =
        .ok .default ∧
      Config.default ≠ Setting.callGraph.set .default false) ∧
    load (withDocument listedOutput) ⟨[]⟩ (.ofText "ws") = .ok outSettings ∧
      Setting.format.read? (Variable.value "yaml") = some .yaml ∧
      (Setting.format.set outSettings .yaml).validate = .ok () ∧
      load (withDocument listedOutput) ⟨[("PYWEAVE_OUTPUT_FORMAT", "yaml")]⟩ (.ofText "ws") =
        .ok (Setting.format.set .default .yaml) ∧
      Setting.format.set .default .yaml ≠ Setting.format.set outSettings .yaml := by
  have free : Environment.HasNoSettings ⟨[] ++ []⟩ := fun _ member => nomatch member
  constructor
  · have read : Setting.callGraph.read? (Variable.value "false") = some false := rfl
    have fits : (Setting.callGraph.set .default false).validate = .ok () := rfl
    have files : filesLayer (withDocument []) ⟨[] ++ []⟩ (.ofText "ws") = .ok [] := rfl
    have lost := load_of_filesLayer free files rfl rfl read fits
    exact ⟨rfl, read, fits, lost, by decide⟩
  · have read : Setting.format.read? (Variable.value "yaml") = some .yaml := rfl
    have fits : (Setting.format.set outSettings .yaml).validate = .ok () := rfl
    have files : filesLayer (withDocument listedOutput) ⟨[] ++ []⟩ (.ofText "ws") =
        .ok [("output", .arr [.str "out"])] := by
      rw [filesLayer, optionalLayer_listedOutput]
      rfl
    have reset := load_of_filesLayer (c := outSettings) free files rfl rfl read fits
    refine ⟨?_, read, fits, reset, by decide⟩
    rw [load_eq, optionalLayer_listedOutput]
    rfl

end Config

end Outline
