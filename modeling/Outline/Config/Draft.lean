import Outline.Config.Validate
import Outline.Disk.Path

namespace Outline

/-- Settings as a caller hands them over. A path need not be text, and then no document holds them. -/
structure Draft where
  version : String
  analysis : AnalysisSettings
  directory : Path
  format : Format
  callGraph : Bool
  level : String
  logFile : Option Path
deriving Repr, DecidableEq

def Config.draft (c : Config) : Draft where
  version := c.version
  analysis := c.analysis
  directory := .ofText c.output.directory
  format := c.output.format
  callGraph := c.output.callGraph
  level := c.logging.level
  logFile := c.logging.file.map .ofText

instance : Coe Config Draft := ⟨Config.draft⟩

namespace Draft

def withPaths (draft : Draft) (directory : String) (file : Option String) : Config where
  version := draft.version
  analysis := draft.analysis
  output := { directory, format := draft.format, callGraph := draft.callGraph }
  logging := { level := draft.level, file }

def config? (draft : Draft) : Option Config :=
  match draft.directory.text?, draft.logFile.map Path.text? with
  | some directory, none => some (draft.withPaths directory none)
  | some directory, some (some file) => some (draft.withPaths directory (some file))
  | _, _ => none

/-- No path is looked at. -/
def validate (draft : Draft) : Except Error Unit :=
  (draft.withPaths draft.directory.shown (draft.logFile.map Path.shown)).validate

end Draft

end Outline
