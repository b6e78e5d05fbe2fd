import Outline.Disk.Basic
import Outline.Environment
import Outline.Scan.IgnoreRule

namespace Outline.Ignore

open Outline.Text

def gitName : Name := bytesOf ".git"

def rulesAt (tree : FileTree) (location : Location) : List Rule :=
  match tree.find? location with
  | some (.file content) => rulesOf content
  | _ => []

def isRepository (tree : FileTree) (directory : Location) : Bool :=
  (tree.find? (directory ++ [gitName])).isSome

def firstLine? (disk : Disk) (path : Path) : Option (List Char) :=
  match disk.readBytes path with
  | .ok content => (textLines content).head?
  | .error _ => none

/-- The directory with the data of a repository, when a file names another one that names it in
turn. -/
def commonDirectory? (disk : Disk) (content : ByteArray) : Option Path := do
  let line ← (textLines content).head?
  let named ← after? "gitdir: ".toList line
  let directory := Path.ofText (String.ofList named)
  let common ← firstLine? disk (directory.join (.ofText "commondir"))
  let path := Path.ofText (String.ofList common)
  return if common.head? = some '.' then directory.join path else path

def repositoryRules (disk : Disk) (directory : Location) : List Rule :=
  match disk.tree.find? (directory ++ [gitName]) with
  | some .directory => rulesAt disk.tree (directory ++ [gitName, bytesOf "info", bytesOf "exclude"])
  | some (.file content) =>
    match (commonDirectory? disk content).map fun common =>
      disk.readBytes (common.join (.ofText "info/exclude")) with
    | some (.ok content) => rulesOf content
    | _ => []
  | none => []

/-- The rules for all repositories of a user. A configured directory without a name does not count.
Another file that the user's settings of git name as `core.excludesFile` is not read. -/
def userRules (disk : Disk) (env : Environment) : List Rule :=
  let configured := (env.get? "XDG_CONFIG_HOME").filter (· ≠ "")
  match (Environment.settingsDirectory? configured (env.get? "HOME")).map fun directory =>
    disk.readBytes (directory.join (.ofText "git/ignore")) with
  | some (.ok content) => rulesOf content
  | _ => []

def insideRepository (tree : FileTree) (directories : List Location) : List Location :=
  match directories.span (!isRepository tree ·) with
  | (_, []) => []
  | (inner, top :: _) => inner ++ [top]

def relativeBytes (directory location : Location) : List UInt8 :=
  [Path.slash].intercalate (location.drop directory.length)

def closestVerdict? (rules : Location → List Rule) (directories : List Location)
    (location : Location) (isDirectory : Bool) : Option Bool :=
  directories.findSome? fun directory =>
    verdict? (rules directory) (relativeBytes directory location) isDirectory

def rulesIn (tree : FileTree) (name : String) (directory : Location) : List Rule :=
  rulesAt tree (directory ++ [bytesOf name])

/-- A path without a leading dot segment, as the rules of a user see it. -/
def userView (path : Path) : List UInt8 :=
  match path.bytes with
  | a :: b :: rest => if a == Path.dot && b == Path.slash then rest else
      if a == Path.slash then b :: rest else a :: b :: rest
  | bytes => bytes

def ignores (disk : Disk) (env : Environment) (path : Path) (location : Location)
    (isDirectory : Bool) : Bool :=
  let above := Location.above location
  let inside := insideRepository disk.tree above
  let closest := fun rules directories => closestVerdict? rules directories location isDirectory
  let verdict := (closest (rulesIn disk.tree ".pyweaveignore") above)
    <|> closest (rulesIn disk.tree ".ignore") above
    <|> closest (rulesIn disk.tree ".gitignore") inside
    <|> closest (repositoryRules disk) inside
    <|> (if inside.isEmpty then none else verdict? (userRules disk env) (userView path) isDirectory)
  verdict.getD false

end Outline.Ignore
