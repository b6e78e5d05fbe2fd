import Outline.PathText
import Outline.Role.Rules
import Outline.Source.Class
import Outline.Source.Import

namespace Outline

open Outline.Text Outline.Source

structure Analyzed where
  inventory : Inventory
  calls : List CallSite
deriving Repr

def dropByteOrderMark : List Char → List Char
  | [] => []
  | c :: rest => if c = '\ufeff' then rest else c :: rest

def estimateTokens (bytes : Nat) : Nat := bytes / 4

def fileDocstring? (lines : List Line) : Option (List Char) :=
  (lines.findIdx? fun line => !allBlank line).bind (docstring? lines)

def fileContainer? (lines : List Line) (name : String) (functions : List Extracted) :
    Option Container :=
  if functions.isEmpty then none
  else some
    { name
      fullName := name
      kind := .moduleKind
      baseType := none
      interfaces := []
      startLine := 1
      endLine := max 1 lines.length
      docstring := (fileDocstring? lines).map String.ofList
      members := functions.map (·.info) }

def analyze (path base content : String) : Analyzed :=
  let source := dropByteOrderMark content.toList
  let lines := (LineIndex.ofText source).lines
  let modules := imports source
  let declared := classes lines path
  let stem := String.ofList (PathText.fileStem path.toList)
  let functions := fileFunctions lines { typeName := stem, filePath := path }
  let inventory : Inventory :=
    { path
      relativePath := String.ofList (PathText.relativeTo path.toList base.toList)
      fileName := String.ofList (PathText.fileName path.toList)
      sizeBytes := content.utf8ByteSize
      tokenEstimate := estimateTokens content.utf8ByteSize
      types := (fileContainer? lines stem functions).toList ++ declared.map (·.info)
      imports := modules.map String.ofList
      dependencies := (dependencyRoots modules).map String.ofList
      role := .unknown }
  { inventory := { inventory with role := Role.ofInventory inventory }
    calls := declared.flatMap (·.calls) ++ functions.flatMap (·.calls) }

end Outline
