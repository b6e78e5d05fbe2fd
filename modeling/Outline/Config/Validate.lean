import Outline.Config.Basic
import Outline.Config.Filter
import Outline.Error

namespace Outline

def isGlob (pattern : String) : Bool := (Exclude.Pattern.parse pattern).isOk

def Config.fault? (c : Config) : Option ConfigFault :=
  if c.analysis.maxFileSize = 0 then some .zeroFileSize
  else if c.analysis.extensions.isEmpty then some .noExtensions
  else match c.analysis.exclude.find? (!isGlob ·) with
    | some pattern => some (.badGlob pattern)
    | none => if Filter.isValid c.logging.level then none else some (.badFilter c.logging.level)

def Config.validate (c : Config) : Except Error Unit :=
  match c.fault? with
  | some fault => .error (.config fault)
  | none => .ok ()

end Outline
