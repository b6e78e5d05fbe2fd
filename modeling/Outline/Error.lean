import Outline.Disk.Fault
import Outline.Scan.Exclude

namespace Outline

inductive PathFlaw where
  | absent
  | notDirectory
  | notText
  | other (text : String)
deriving Repr, DecidableEq

def PathFlaw.message : PathFlaw → String
  | .absent => "does not exist"
  | .notDirectory => "not a directory"
  | .notText => "not UTF-8"
  | .other text => text

inductive ConfigFault where
  | zeroFileSize
  | noExtensions
  | badGlob (pattern : String)
  | badFilter (level : String)
  | badExclude (pattern : String) (fault : Exclude.Fault)
  /-- A file or variable that cannot be read as settings. -/
  | unreadable
  /-- Settings that no document can hold. -/
  | pathNotText
  | other (text : String)
deriving Repr, DecidableEq

def ConfigFault.message : ConfigFault → String
  | .zeroFileSize => "analysis.max_file_size must be greater than 0"
  | .noExtensions => "analysis.extensions must list at least one extension"
  | .badGlob pattern => "analysis.exclude contains an invalid glob: " ++ pattern
  | .badFilter level => "logging.level is not a valid filter: " ++ level
  | .badExclude pattern fault =>
    "Invalid exclude pattern '" ++ pattern ++ "': " ++ fault.message
  | .unreadable => "Configuration error: settings have a wrong form"
  | .pathNotText => "path contains invalid UTF-8 characters"
  | .other text => text

inductive Error where
  | disk (fault : DiskFault)
  | read (path : String) (fault : DiskFault)
  | invalidPath (path : String) (flaw : PathFlaw)
  | config (fault : ConfigFault)
  | output (text : String)
deriving Repr, DecidableEq

def Error.message : Error → String
  | .disk fault => "IO error: " ++ fault.message
  | .read path fault => "Failed to read " ++ path ++ ": " ++ fault.message
  | .invalidPath path flaw => "Invalid path " ++ path ++ ": " ++ flaw.message
  | .config .pathNotText => "TOML error: " ++ ConfigFault.pathNotText.message
  | .config fault => "Config error: " ++ fault.message
  | .output text => "Output error: " ++ text

/-- An error that concerns one file only, so that the others can still be analysed. -/
def Error.isPerFile : Error → Bool
  | .read _ _ => true
  | .invalidPath _ _ => true
  | _ => false

def Error.during (context text : String) : Error := .output (context ++ ": " ++ text)

def Error.within (e : Error) (context : String) : Error := during context e.message

end Outline
