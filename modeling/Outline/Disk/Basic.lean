import Outline.Disk.Fault
import Outline.Disk.Tree

namespace Outline

structure Disk where
  tree : FileTree
  workingDirectory : Location
  /-- Where a place does not take all of a content, as on a full disk: how many of the bytes it
  takes, and the words of the failure. -/
  outage : Location → (content : ByteArray) → Option (Fin content.size × String) := fun _ _ => none

namespace Disk

def maxNameLength : Nat := 255

def maxPathLength : Nat := 4096

def step (tree : FileTree) (here : Location) (segment : Name) : Except DiskFault Location :=
  match tree.find? here with
  | none => .error .missing
  | some (.file _) => .error .notDirectory
  | some .directory =>
    if Path.isTrivial segment then .ok here
    else if segment = [Path.dot, Path.dot] then .ok here.dropLast
    else if maxNameLength < segment.length then .error .nameTooLong
    else .ok (here ++ [segment])

def pathFault? (path : Path) : Option DiskFault :=
  if path.bytes.contains 0 then some .zeroByte
  else if path.bytes.isEmpty then some .missing
  else if maxPathLength ≤ path.bytes.length then some .nameTooLong
  else none

def start (disk : Disk) (path : Path) : Location :=
  if path.isAbsolute then [] else disk.workingDirectory

def locate (disk : Disk) (path : Path) : Except DiskFault Location :=
  match pathFault? path with
  | some fault => .error fault
  | none => path.segments.foldlM (step disk.tree) (disk.start path)

def entry (disk : Disk) (path : Path) : Except DiskFault Entry :=
  match disk.locate path with
  | .error fault => .error fault
  | .ok location =>
    match disk.tree.find? location with
    | some entry => .ok entry
    | none => .error .missing

def hasEntry (disk : Disk) (path : Path) : Bool := (disk.entry path).isOk

def isDirectory (disk : Disk) (path : Path) : Bool :=
  match disk.entry path with
  | .ok .directory => true
  | _ => false

def isFile (disk : Disk) (path : Path) : Bool :=
  match disk.entry path with
  | .ok (.file _) => true
  | _ => false

def readBytes (disk : Disk) (path : Path) : Except DiskFault ByteArray :=
  match disk.entry path with
  | .ok (.file content) => .ok content
  | .ok .directory => .error .isDirectory
  | .error fault => .error fault

def readText (disk : Disk) (path : Path) : Except DiskFault String :=
  match disk.readBytes path with
  | .error fault => .error fault
  | .ok content =>
    match String.fromUTF8? content with
    | some text => .ok text
    | none => .error .notText

def workingPath (disk : Disk) : Path :=
  ⟨Path.slash :: [Path.slash].intercalate disk.workingDirectory⟩

/-- The text of the file that a path leads to from the working directory or else from the closest
directory above it. There is none without such a file. -/
def readNearest? (disk : Disk) (path : Path) : Option (Except DiskFault String) :=
  let views := disk :: (Location.above disk.workingDirectory).map fun directory =>
    { disk with workingDirectory := directory }
  (views.find? (·.isFile path)).map (·.readText path)

def namedSegments (path : Path) : List Name :=
  (path.segments.reverse.dropWhile (· == [])).reverse

/-- The place that the last name of a path stands for, in a directory that is there. The fault
`unnamed` is for paths that do not end in a name. -/
def locateNew (disk : Disk) (path : Path) (unnamed : DiskFault) : Except DiskFault Location :=
  match pathFault? path with
  | some fault => .error fault
  | none =>
    match (namedSegments path).getLast? with
    | none => .error unnamed
    | some last => do
      let above ← (namedSegments path).dropLast.foldlM (step disk.tree) (disk.start path)
      let location ← step disk.tree above last
      if Path.isTrivial last || last = [Path.dot, Path.dot] then .error unnamed else .ok location

def makeDirectory (disk : Disk) (path : Path) : Disk × Except DiskFault Unit :=
  match disk.locateNew path .exists with
  | .error fault => (disk, .error fault)
  | .ok location =>
    match disk.tree.find? location with
    | some _ => (disk, .error .exists)
    | none => ({ disk with tree := disk.tree.put location .directory }, .ok ())

def makeDirectoriesAlong (disk : Disk) : List Path → Disk × Except DiskFault Unit
  | [] => (disk, .ok ())
  | path :: above =>
    match disk.makeDirectory path with
    | (made, .ok ()) => (made, .ok ())
    | (disk, .error .missing) =>
      match makeDirectoriesAlong disk above with
      | (disk, .error fault) => (disk, .error fault)
      | (disk, .ok ()) =>
        match disk.makeDirectory path with
        | (made, .ok ()) => (made, .ok ())
        | (disk, .error fault) =>
          if disk.isDirectory path then (disk, .ok ()) else (disk, .error fault)
    | (disk, .error fault) =>
      if disk.isDirectory path then (disk, .ok ()) else (disk, .error fault)

def makeDirectories (disk : Disk) (path : Path) : Disk × Except DiskFault Unit :=
  disk.makeDirectoriesAlong path.selfAndAbove

def fileAt? (disk : Disk) (location : Location) : Option ByteArray :=
  match disk.tree.find? location with
  | some (.file content) => some content
  | _ => none

def putFile (disk : Disk) (location : Location) (content : ByteArray) : Disk :=
  { disk with tree := disk.tree.put location (.file content) }

def locateFile (disk : Disk) (path : Path) : Except DiskFault Location :=
  match disk.locateNew path .isDirectory with
  | .error fault => .error fault
  | .ok location =>
    if path.bytes.getLast? == some Path.slash then .error .isDirectory
    else match disk.tree.find? location with
      | some .directory => .error .isDirectory
      | _ => .ok location

def taken (disk : Disk) (location : Location) (content : ByteArray) :
    ByteArray × Except DiskFault Unit :=
  match disk.outage location content with
  | none => (content, .ok ())
  | some (count, words) => (content.extract 0 count, .error (.other words))

/-- Writes a file. Once it is open it has lost what it held, so a failure from then on leaves it
with the beginning of the new content. -/
def write (disk : Disk) (path : Path) (content : ByteArray) : Disk × Except DiskFault Unit :=
  match disk.locateFile path with
  | .error fault => (disk, .error fault)
  | .ok location =>
    let (part, outcome) := disk.taken location content
    (disk.putFile location part, outcome)

def writeText (disk : Disk) (path : Path) (text : String) : Disk × Except DiskFault Unit :=
  disk.write path text.toUTF8

def touch (disk : Disk) (path : Path) : Disk × Except DiskFault Location :=
  match disk.locateFile path with
  | .error fault => (disk, .error fault)
  | .ok location => (disk.putFile location ((disk.fileAt? location).getD .empty), .ok location)

/-- Writes at the end of a file that is open. Nobody learns of a failure. -/
def append (disk : Disk) (location : Location) (content : ByteArray) : Disk :=
  match disk.fileAt? location with
  | none => disk
  | some held => disk.putFile location (held ++ (disk.taken location content).1)

end Disk

end Outline
