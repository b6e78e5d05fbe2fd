import Outline.Config.Document
import Outline.Config.Validate
import Outline.Config.Variable
import Outline.Disk.Basic
import Outline.Environment

namespace Outline

open Outline.Toml

namespace Config

def userPath? (env : Environment) : Option Path :=
  env.userDirectory?.map fun directory =>
    (directory.join (.ofText "pyweave")).join (.ofText "config.toml")

def projectDirectory (workspace : Path) : Path := workspace.join (.ofText ".pyweave")

def projectPath (workspace : Path) : Path :=
  (projectDirectory workspace).join (.ofText "config.toml")

/-- The settings that a document gives. Its whole numbers have to be of 64 bits with sign. -/
def textLayer (text : String) : Except Error (List (String × Value)) :=
  match Toml.parse? text.toList with
  | some fields =>
    if fieldsBounded fields then .ok fields else .error (.config .unreadable)
  | none => .error (.config .unreadable)

def fileLayer (disk : Disk) (path : Path) : Except Error (List (String × Value)) :=
  match disk.readNearest? path with
  | none => .ok []
  | some (.error _) => .error (.config .unreadable)
  | some (.ok text) => textLayer text

def optionalLayer (disk : Disk) (path : Path) : Except Error (List (String × Value)) :=
  if disk.hasEntry path then fileLayer disk path else .ok []

def ofLayers (layers : List (List (String × Value))) : Except Error Config :=
  match ofTable? (layers.foldl overlayFields []) with
  | none => .error (.config .unreadable)
  | some config => config.validate.map fun _ => config

def load (disk : Disk) (env : Environment) (workspace : Path) : Except Error Config := do
  let user ← match userPath? env with
    | some path => optionalLayer disk path
    | none => .ok []
  let project ← optionalLayer disk (projectPath workspace)
  ofLayers [user, project, Variable.layer env.bindings]

def loadFile (disk : Disk) (path : Path) : Except Error Config := do
  let layer ← fileLayer disk path
  ofLayers [layer]

end Config

end Outline
