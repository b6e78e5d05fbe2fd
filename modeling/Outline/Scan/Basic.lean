import Outline.Error
import Outline.Scan.IgnoreFiles

namespace Outline

open Outline.Text

structure ScanSettings where
  exclude : List Exclude.Pattern
  /-- Extensions without the dot before them. -/
  extensions : List String
  maxFileSize : Nat
deriving Repr, DecidableEq

structure ScannedFile where
  path : Path
  size : Nat
deriving Repr, DecidableEq

namespace Scan

def skippedDirectories : List String :=
  ["__pycache__", ".venv", "venv", ".tox", ".git", "build", "dist", "node_modules", ".mypy_cache"]

def isSkipped (name : Name) : Bool := skippedDirectories.any (bytesOf · == name)

def patterns (texts : List String) : Except Error (List Exclude.Pattern) :=
  texts.mapM fun text =>
    match Exclude.Pattern.parse text with
    | .ok pattern => .ok pattern
    | .error fault => .error (.config (.badExclude text fault))

def plainExtension (extension : String) : String :=
  String.ofList (extension.toList.dropWhile (· == '.'))

def hasExtension (extensions : List String) (name : Name) : Bool :=
  match name.extension? with
  | some extension => extensions.any (bytesOf · == extension)
  | none => false

def relativeText (names : List Name) : List Char :=
  (shownBytes ([Path.slash].intercalate names)).toList.map fun c => if c = '\\' then '/' else c

def isExcluded (patterns : List Exclude.Pattern) (names : List Name) : Bool :=
  patterns.any (·.fits (relativeText names))

def isWanted (settings : ScanSettings) (lastName : Name) (names : List Name)
    (content : ByteArray) : Bool :=
  hasExtension settings.extensions lastName && !isExcluded settings.exclude names &&
    content.size ≤ settings.maxFileSize

def pathBelow (root : Path) (names : List Name) : Path :=
  names.foldl (fun path name => path.join ⟨name⟩) root

def visit (disk : Disk) (env : Environment) (root : Path) (top : Location)
    (enter : List Name → List (List Name × ByteArray)) (names : List Name) :
    Name × Entry → List (List Name × ByteArray)
  | (name, .directory) =>
    let place := names ++ [name]
    if isSkipped name || Ignore.ignores disk env (pathBelow root place) (top ++ place) true then []
    else enter place
  | (name, .file content) =>
    let place := names ++ [name]
    if Ignore.ignores disk env (pathBelow root place) (top ++ place) false then []
    else [(place, content)]

def walk (disk : Disk) (env : Environment) (root : Path) (top : Location) :
    Nat → List Name → List (List Name × ByteArray)
  | 0, _ => []
  | depth + 1, names =>
    (disk.tree.children (top ++ names)).flatMap
      (visit disk env root top (walk disk env root top depth) names)

/-- The wanted files below the directory at `top`, with their names from there. A file whose path
leads nowhere, as one that is too long does, is passed over. -/
def filesBelow (disk : Disk) (env : Environment) (root : Path) (top : Location)
    (settings : ScanSettings) : List (List Name × Nat) :=
  (walk disk env root top disk.tree.depth []).filterMap fun (names, content) =>
    if disk.isFile (pathBelow root names) &&
        isWanted settings (names.getLastD []) names content then
      some (names, content.size)
    else none

def comesBefore (a b : List Name × Nat) : Bool := a.1 ≤ b.1

/-- A path that stands for the standard input instead of a place. -/
def isStandardInput (path : Path) : Bool :=
  Path.dropTrivialEnd path.segments == [bytesOf "-"]

end Scan

/-- The files that settings ask for below a root, in the order of their paths name by name. A root
that is a file is found itself. -/
def scan (disk : Disk) (env : Environment) (root : Path) (settings : ScanSettings) :
    Except Error (List ScannedFile) :=
  match disk.entry root, disk.locate root with
  | .ok entry, .ok top =>
    if Scan.isStandardInput root then .ok []
    else match entry with
      | .file content =>
        if Scan.isWanted settings (root.fileName?.getD []) [] content then
          .ok [{ path := root, size := content.size }]
        else .ok []
      | .directory =>
        let files := Scan.filesBelow disk env root top settings
        .ok ((files.mergeSort Scan.comesBefore).map fun (names, size) =>
          { path := Scan.pathBelow root names, size })
  | _, _ => .error (.invalidPath root.shown .absent)

end Outline
