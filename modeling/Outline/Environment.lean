import Outline.Disk.Path

namespace Outline

structure Environment where
  bindings : List (String × String)
deriving Repr, DecidableEq

namespace Environment

def get? (env : Environment) (name : String) : Option String :=
  (env.bindings.find? (·.1 == name)).map (·.2)

def settingsDirectory? (configured home : Option String) : Option Path :=
  match configured with
  | some directory => some (.ofText directory)
  | none => home.map fun home => (Path.ofText home).join (.ofText ".config")

def userDirectory? (env : Environment) : Option Path :=
  settingsDirectory? (env.get? "XDG_CONFIG_HOME") (env.get? "HOME")

end Environment

end Outline
