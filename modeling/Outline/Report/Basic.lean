import Outline.CallGraph
import Outline.Json.Printer
import Outline.Report.Format
import Outline.Yaml.Printer

namespace Outline

structure FailedFile where
  path : String
  error : String
deriving Repr, DecidableEq

structure Report where
  generatedAt : String
  root : String
  files : List Inventory
  failed : List FailedFile
deriving Repr, DecidableEq

def FailedFile.fieldNames : List String := ["path", "error"]

def FailedFile.toJson (f : FailedFile) : Json :=
  .obj (fieldNames.zip [.str f.path, .str f.error])

def FailedFile.ofJson? (value : Json) : Option FailedFile :=
  match value.record? fieldNames with
  | some [path, error] => do
    return {
      path := ← Json.required? Json.text? path
      error := ← Json.required? Json.text? error }
  | _ => none

namespace Report

def fieldNames : List String := ["generated_at", "root", "files", "failed_files"]

def toFields (r : Report) : List (String × Json) :=
  fieldNames.zip
    [.str r.generatedAt, .str r.root, .arr (r.files.map Inventory.toJson),
      .arr (r.failed.map FailedFile.toJson)]

def toJson (r : Report) : Json := .obj r.toFields

def ofJson? (value : Json) : Option Report :=
  match value.record? fieldNames with
  | some [generatedAt, root, files, failed] => do
    return {
      generatedAt := ← Json.required? Json.text? generatedAt
      root := ← Json.required? Json.text? root
      files := ← Json.required? (Json.list? Inventory.ofJson?) files
      failed := ← Json.required? (Json.list? FailedFile.ofJson?) failed }
  | _ => none

/-- How many files have each role; a role without files is left out. -/
def roleCounts (r : Report) : List (Role × Nat) :=
  (Role.all.map fun role => (role, r.files.countP (·.role == role))).filter (0 < ·.2)

def memberLine (m : Member) : String :=
  "    " ++ (if m.isAsync then "async " else "") ++ m.signature ++ " -> " ++ m.returnType ++
    " L" ++ toString m.startLine ++ "-" ++ toString m.endLine ++ "\n"

def containerLines (t : Container) : String :=
  "  " ++ t.kind.label ++ " " ++ t.name ++ ((t.baseType.map (" (" ++ · ++ ")")).getD "") ++
    " L" ++ toString t.startLine ++ "-" ++ toString t.endLine ++ "\n" ++
    String.join (t.members.map memberLine)

def fileLines (i : Inventory) : String :=
  "\n" ++ i.relativePath ++ " [" ++ i.role.label ++ "] " ++ toString i.sizeBytes ++ " bytes, ~" ++
    toString i.tokenEstimate ++ " tokens\n" ++
    (if i.dependencies.isEmpty then ""
      else "  depends on: " ++ ", ".intercalate i.dependencies ++ "\n") ++
    String.join (i.types.map containerLines)

def failureLines (failed : List FailedFile) : String :=
  if failed.isEmpty then ""
  else "\nFailed files:\n" ++
    String.join (failed.map fun f => "  " ++ f.path ++ ": " ++ f.error ++ "\n")

def plainText (r : Report) : String :=
  "Analysis of " ++ r.root ++ " (" ++ r.generatedAt ++ ")\n" ++ toString r.files.length ++
    " files analyzed\n" ++ String.join (r.files.map fileLines) ++ failureLines r.failed

def render (r : Report) : Format → String
  | .json => String.ofList r.toJson.pretty
  | .yaml => String.ofList (Yaml.document r.toFields)
  | .text => r.plainText

end Report

structure GraphReport where
  generatedAt : String
  summary : CallGraph.Summary
  graph : CallGraph
deriving Repr, DecidableEq

namespace GraphReport

def topTargets : Nat := 10

def ofGraph (generatedAt : String) (graph : CallGraph) : GraphReport :=
  { generatedAt, summary := graph.summary topTargets, graph }

def toFields (r : GraphReport) : List (String × Json) :=
  [("generated_at", .str r.generatedAt), ("summary", r.summary.toJson), ("calls", r.graph.toJson)]

def countColumn (n : Nat) : String :=
  let text := toString n
  "".pushn ' ' (5 - text.length) ++ text

def plainText (r : GraphReport) : String :=
  let s := r.summary
  toString s.totalCalls ++ " calls from " ++ toString s.distinctCallers ++ " callers in " ++
    toString s.files ++ " files (" ++ toString s.distinctTargets ++ " distinct targets)\n" ++
    String.join (s.topTargets.map fun (name, count) =>
      "  " ++ countColumn count ++ "  " ++ name ++ "\n")

def render (r : GraphReport) : Format → String
  | .json => String.ofList (Json.obj r.toFields).pretty
  | .yaml => String.ofList (Yaml.document r.toFields)
  | .text => r.plainText

end GraphReport

end Outline
