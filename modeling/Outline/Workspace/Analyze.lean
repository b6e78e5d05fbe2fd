import Outline.Config.Basic
import Outline.Inventory.Analyze
import Outline.Report.Basic
import Outline.Scan.Basic

namespace Outline

def analyzeFile (disk : Disk) (path base : Path) : Except Error Analyzed :=
  match path.text?, base.text? with
  | none, _ => .error (.invalidPath path.shown .notText)
  | _, none => .error (.invalidPath base.shown .notText)
  | some pathText, some baseText =>
    match disk.readText path with
    | .ok content => .ok (analyze pathText baseText content)
    | .error fault => .error (.read path.shown fault)

theorem isPerFile_of_analyzeFile_error {disk : Disk} {path base : Path} {e : Error}
    (failed : analyzeFile disk path base = .error e) : e.isPerFile = true := by
  unfold analyzeFile at failed
  split at failed
  · cases failed; rfl
  · cases failed; rfl
  · split at failed
    · cases failed
    · cases failed; rfl

/-- The inventory of one file, which is reported relative to its directory unless another base is
given. -/
def analyzeOne (disk : Disk) (path : Path) (base : Option Path) : Except Error Inventory :=
  (analyzeFile disk path ((base <|> path.parent?).getD ⟨[]⟩)).map (·.inventory)

def Config.scanSettings (config : Config) : Except Error ScanSettings := do
  let exclude ← Scan.patterns config.analysis.exclude
  return {
    exclude
    extensions := config.analysis.extensions.map Scan.plainExtension
    maxFileSize := config.analysis.maxFileSize }

/-- Adds a scanned file to what is reported so far: its inventory and its calls, or why it could not
be read. An error that concerns more than that file ends the analysis. -/
def includeFile (disk : Disk) (root : Path) (sofar : Report × CallGraph) (file : ScannedFile) :
    Except Error (Report × CallGraph) :=
  let (report, graph) := sofar
  match analyzeFile disk file.path root with
  | .ok analyzed =>
    .ok ({ report with files := report.files ++ [analyzed.inventory] }, graph.merge analyzed.calls)
  | .error e =>
    if e.isPerFile then
      .ok ({ report with
        failed := report.failed ++ [{ path := file.path.shown, error := e.message }] }, graph)
    else .error e

def analyzeWorkspace (disk : Disk) (env : Environment) (now : String) (root : Path)
    (config : Config) : Except Error (Report × CallGraph) := do
  let settings ← config.scanSettings
  let files ← scan disk env root settings
  let report : Report := { generatedAt := now, root := root.shown, files := [], failed := [] }
  files.foldlM (includeFile disk root) (report, .empty)

end Outline
