import Outline.Count

namespace Outline

inductive Role where
  | unknown
  | test
  | view
  | model
  | controller
  | service
  | repository
  | config
deriving Repr, DecidableEq, Inhabited

def Role.all : List Role :=
  [.unknown, .test, .view, .model, .controller, .service, .repository, .config]

def Role.label : Role → String
  | .unknown => "unknown"
  | .test => "test"
  | .view => "view"
  | .model => "model"
  | .controller => "controller"
  | .service => "service"
  | .repository => "repository"
  | .config => "config"

inductive ContainerKind where
  | classKind
  | moduleKind
deriving Repr, DecidableEq

def ContainerKind.all : List ContainerKind := [.classKind, .moduleKind]

def ContainerKind.label : ContainerKind → String
  | .classKind => "class"
  | .moduleKind => "module"

inductive MemberKind where
  | method
  | function
deriving Repr, DecidableEq

def MemberKind.all : List MemberKind := [.method, .function]

def MemberKind.label : MemberKind → String
  | .method => "method"
  | .function => "function"

inductive Visibility where
  | «public»
  | «private»
deriving Repr, DecidableEq

def Visibility.all : List Visibility := [.public, .private]

def Visibility.label : Visibility → String
  | .public => "public"
  | .private => "private"

def Visibility.ofName (name : List Char) : Visibility :=
  match name with
  | '_' :: _ => .private
  | _ => .public

/-- A function or method. Lines are counted from 1 and `endLine` is the last one. -/
structure Member where
  name : String
  kind : MemberKind
  /-- The annotation, or `None` without one. -/
  returnType : String
  isAsync : Bool
  isStatic : Bool
  visibility : Visibility
  decorators : List String
  parameters : List String
  signature : String
  startLine : Nat
  endLine : Nat
  docstring : Option String
deriving Repr, DecidableEq

structure Container where
  name : String
  fullName : String
  kind : ContainerKind
  baseType : Option String
  /-- The bases behind the first. -/
  interfaces : List String
  startLine : Nat
  endLine : Nat
  docstring : Option String
  members : List Member
deriving Repr, DecidableEq

structure CallSite where
  filePath : String
  callerType : String
  callerMember : String
  /-- What stands before the last dot of the call, or the type of the caller. -/
  calledType : String
  calledMember : String
  line : Nat
deriving Repr, DecidableEq

structure Inventory where
  path : String
  relativePath : String
  fileName : String
  sizeBytes : Nat
  tokenEstimate : Nat
  /-- The containers in the order of discovery, the file's own first. -/
  types : List Container
  imports : List String
  dependencies : List String
  role : Role
deriving Repr, DecidableEq

def Inventory.module? (inventory : Inventory) : Option Container :=
  inventory.types.head?.filter (·.kind = .moduleKind)

def Inventory.classes (inventory : Inventory) : List Container :=
  inventory.types.filter (·.kind = .classKind)

def Inventory.memberCount (inventory : Inventory) : Nat :=
  total (inventory.types.map (·.members.length))

end Outline
