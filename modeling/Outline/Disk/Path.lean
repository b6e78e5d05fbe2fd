import Outline.Text.Utf8

namespace Outline

abbrev Name := List UInt8

structure Path where
  bytes : List UInt8
deriving Repr, DecidableEq

namespace Path

def slash : UInt8 := 0x2F

def dot : UInt8 := 0x2E

def ofText (text : String) : Path := ⟨Text.bytesOf text⟩

def text? (path : Path) : Option String := Text.textOf? path.bytes

def shown (path : Path) : String := Text.shownBytes path.bytes

def segments (path : Path) : List Name := path.bytes.splitOn slash

def ofSegments (segments : List Name) : Path := ⟨[slash].intercalate segments⟩

def isAbsolute (path : Path) : Bool := path.bytes.head? == some slash

def join (path other : Path) : Path :=
  if other.isAbsolute || path.bytes.isEmpty then other
  else if path.bytes.getLast? == some slash then ⟨path.bytes ++ other.bytes⟩
  else ⟨path.bytes ++ slash :: other.bytes⟩

def isTrivial (segment : Name) : Bool := segment == [] || segment == [dot]

def dropTrivialEnd (segments : List Name) : List Name :=
  (segments.reverse.dropWhile isTrivial).reverse

/-- The path without its last name. The root and the empty path have none. -/
def parent? (path : Path) : Option Path :=
  match path.segments with
  | [] => none
  | first :: others =>
    match dropTrivialEnd others with
    | [] => if first == [] then none else some ⟨[]⟩
    | others =>
      match dropTrivialEnd others.dropLast with
      | [] => some (if path.isAbsolute then ⟨[slash]⟩ else ⟨first⟩)
      | others => some (ofSegments (first :: others))

def selfAndAboveWithin : Nat → Path → List Path
  | 0, _ => []
  | fuel + 1, path =>
    match path.parent? with
    | none => []
    | some parent => path :: selfAndAboveWithin fuel parent

def selfAndAbove (path : Path) : List Path := selfAndAboveWithin (path.bytes.length + 1) path

/-- The last name of a path, if it ends in one. -/
def fileName? (path : Path) : Option Name :=
  match (dropTrivialEnd path.segments).getLast? with
  | some name => if name == [dot, dot] then none else some name
  | none => none

end Path

/-- What follows the last dot of a name, not counting a dot at its front. -/
def Name.extension? (name : Name) : Option Name :=
  match name.reverse.span (· != Path.dot) with
  | (_, []) => none
  | (_, [_]) => none
  | (behind, _ :: _ :: _) => some behind.reverse

end Outline
