import Outline.Clock
import Outline.Command.Run
import Std.Time.DateTime.Timestamp

namespace Outline.Host

open Outline.Text

def locationOf (path : String) : Location :=
  (bytesOf path).splitOn Path.slash |>.filter (· ≠ [])

def pathText (location : Location) : String :=
  "/" ++ shownBytes ([Path.slash].intercalate location)

def readFile? (path : String) : IO (Option ByteArray) := do
  try return some (← IO.FS.readBinFile path) catch _ => return none

def addFile (tree : FileTree) (path : String) : IO FileTree := do
  match ← readFile? path with
  | some content => return tree.put (locationOf path) (.file content)
  | none => return tree

def namesIn? (path : String) : IO (Option (List String)) := do
  try
    let place ← IO.FS.realPath path
    if ← place.isDir then return some ((← place.readDir).toList.map (·.fileName)) else return none
  catch _ => return none

def ignoreFiles : List String := [".pyweaveignore", ".ignore", ".gitignore", ".git/info/exclude"]

def addOutline (tree : FileTree) (path : String) : IO FileTree := do
  let mut tree := tree.put (locationOf path) .directory
  for name in [".git", ".git/info"] do
    if (← namesIn? (path ++ "/" ++ name)).isSome then
      tree := tree.put (locationOf (path ++ "/" ++ name)) .directory
  for name in ".git" :: ignoreFiles do
    tree ← addFile tree (path ++ "/" ++ name)
  return tree

partial def addAll (tree : FileTree) (path : String) : IO FileTree := do
  match ← namesIn? path with
  | none => addFile tree path
  | some names =>
    let mut tree ← addOutline tree path
    for name in names do
      let below := path ++ "/" ++ name
      if Scan.isSkipped (bytesOf name) && (← namesIn? below).isSome then
        tree := tree.put (locationOf below) .directory
      else
        tree ← addAll tree below
    return tree

def addSource (tree : FileTree) (path : String) : IO FileTree := do
  try
    let real := (← IO.FS.realPath path).toString
    let mut tree := tree
    for above in Location.above (locationOf real) do
      if above ≠ [] then
        tree ← addOutline tree (pathText above)
    addAll tree real
  catch _ => return tree

def moment : IO String := do
  let now ← Std.Time.Timestamp.now
  let nanoseconds := now.toNanosecondsSinceUnixEpoch.val.toNat
  return Clock.utcText (nanoseconds / 1000000000) (nanoseconds % 1000000000)

def environment : IO Environment := do
  let content := (← readFile? "/proc/self/environ").getD .empty
  let entries := content.data.toList.splitOn 0 |>.filterMap textOf?
  return { bindings := entries.filterMap fun entry =>
    match entry.toList.span (· != '=') with
    | (_, []) => none
    | (name, _ :: value) => some (String.ofList name, String.ofList value) }

/-- Writes what a run changed. A file that a run left empty is made only where there is none. -/
def store (before after : FileTree) : IO Unit := do
  for (location, entry) in after.entries do
    if !((before.find? location).map entry.same).getD false then
      let path := pathText location
      match entry with
      | .directory => IO.FS.createDirAll path
      | .file content =>
        if !content.isEmpty || (← readFile? path).isNone then
          IO.FS.writeBinFile path content

end Outline.Host

open Outline Outline.Host in
def main (words : List String) : IO UInt32 := do
  let directory := (← IO.currentDir).toString
  let env ← environment
  let user := (env.userDirectory?.map fun d =>
    [d.join (.ofText "pyweave"), d.join (.ofText "git")]).getD []
  let sources := directory :: words ++ user.map Path.shown
  let tree ← sources.foldlM addSource FileTree.empty
  let disk : Disk := { tree, workingDirectory := locationOf directory }
  let (after, outcome) := runWords disk env (← moment) words
  store tree after.tree
  IO.print outcome.printed.out
  IO.eprint outcome.printed.err
  return outcome.exitCode.toUInt32
