import Outline.Source.Member

namespace Outline.Source

open Outline.Text

structure ExtractedClass where
  info : Container
  calls : List CallSite
deriving Repr

def ExtractedClass.ofHeader (lines : List Line) (filePath : String) (idx : Nat)
    (header : ClassHeader) : ExtractedClass :=
  let last := blockEnd lines idx 0
  let bases := (commaList header.bases).map String.ofList
  let name := String.ofList header.name
  let methods := classMembers lines (idx + 1) last { typeName := name, filePath }
  { info :=
      { name
        fullName := name
        kind := .classKind
        baseType := bases.head?
        interfaces := bases.tail
        startLine := idx + 1
        endLine := last + 1
        docstring := (docstring? lines (idx + 1)).map String.ofList
        members := methods.map (·.info) }
    calls := methods.flatMap (·.calls) }

def classes (lines : List Line) (filePath : String) : List ExtractedClass :=
  lines.zipIdx.filterMap fun (line, idx) =>
    (ClassHeader.parse? line).map (ExtractedClass.ofHeader lines filePath idx)

end Outline.Source
