import Outline.Config.Draft
import Outline.Config.Load

namespace Outline

structure Log where
  place : Location
  /-- The line for a message, with the time and the level, or nothing if the level is filtered. -/
  record : String → String

def Disk.note (disk : Disk) (log : Option Log) (message : String) : Disk :=
  match log with
  | none => disk
  | some log => disk.append log.place (log.record message).toUTF8

structure SettingsStore where
  workspace : Path
  current : Config
  /-- How often settings were published since the store was opened. -/
  version : Nat
deriving Repr, DecidableEq

namespace SettingsStore

def new (workspace : Path) (config : Config) : SettingsStore := ⟨workspace, config, 0⟩

def load (disk : Disk) (env : Environment) (workspace : Path) : Except Error SettingsStore :=
  (Config.load disk env workspace).map (new workspace)

def configPath (store : SettingsStore) : Path := Config.projectPath store.workspace

def publish (store : SettingsStore) (config : Config) : SettingsStore :=
  { store with current := config, version := store.version + 1 }

def savedMessage (store : SettingsStore) : String := "Saved settings: " ++ store.configPath.shown

def save (store : SettingsStore) (disk : Disk) (draft : Draft) (log : Option Log := none) :
    Disk × Except Error SettingsStore :=
  match draft.validate with
  | .error e => (disk, .error e)
  | .ok () =>
    match disk.makeDirectories (Config.projectDirectory store.workspace) with
    | (disk, .error fault) => (disk, .error (.disk fault))
    | (disk, .ok ()) =>
      match draft.config? with
      | none => (disk, .error (.config .pathNotText))
      | some config =>
        match disk.writeText store.configPath (String.ofList config.toToml) with
        | (disk, .error fault) => (disk, .error (.disk fault))
        | (disk, .ok ()) => (disk.note log store.savedMessage, .ok (store.publish config))

def update (store : SettingsStore) (disk : Disk) (change : Config → Draft)
    (log : Option Log := none) : Disk × Except Error SettingsStore :=
  store.save disk (change store.current) log

/-- Writes the default settings of a workspace, over those that are there only if forced to. The
outcome is the path of the file. -/
def init (disk : Disk) (workspace : Path) (force : Bool) (log : Option Log := none) :
    Disk × Except Error Path :=
  let store := new workspace .default
  if disk.hasEntry store.configPath && !force then
    (disk.note log ("Project config exists: " ++ store.configPath.shown), .ok store.configPath)
  else
    match store.save disk Config.default log with
    | (disk, .error e) => (disk, .error e)
    | (disk, .ok _) => (disk, .ok store.configPath)

end SettingsStore

/-- A workspace has to be a directory. Without a path it is the working directory. -/
def resolveWorkspace (disk : Disk) (path : Option Path) : Except Error Path :=
  let workspace := path.getD disk.workingPath
  if disk.isDirectory workspace then .ok workspace
  else .error (.invalidPath workspace.shown .notDirectory)

structure Context where
  workspace : Path
  settings : SettingsStore
deriving Repr, DecidableEq

namespace Context

def new (workspace : Path) (config : Config) : Context := ⟨workspace, .new workspace config⟩

def load (disk : Disk) (env : Environment) (path : Option Path) : Except Error Context := do
  let workspace ← resolveWorkspace disk path
  let settings ← SettingsStore.load disk env workspace
  return { workspace, settings }

def config (context : Context) : Config := context.settings.current

def outputDirectory (context : Context) (given : Option Path) : Path :=
  given.getD (context.workspace.join (.ofText context.config.output.directory))

end Context

end Outline
