import Outline.Proofs.Scan.Walk
import Outline.Workspace.Analyze

namespace Outline

theorem scan_of_isDirectory {disk : Disk} {root : Path} (env : Environment)
    (settings : ScanSettings) (directory : disk.isDirectory root = true) :
    ∃ files, scan disk env root settings = .ok files ∧
      ∀ file ∈ files, ∃ content, disk.entry file.path = .ok (.file content) := by
  obtain ⟨top, located, -⟩ := Disk.locate_of_entry (Disk.entry_of_isDirectory directory)
  have scanned := Scan.scan_eq env settings located directory
  refine ⟨_, scanned, fun file member => ?_⟩
  exact Disk.entry_of_isFile (Scan.isFile_of_mem_scan located directory scanned member)

theorem patterns_of_isGlob {texts : List String} (globs : ∀ text ∈ texts, isGlob text = true) :
    ∃ patterns, Scan.patterns texts = .ok patterns := by
  unfold Scan.patterns
  induction texts with
  | nil => exact ⟨[], rfl⟩
  | cons text texts ih =>
    have glob := globs text (by simp)
    obtain ⟨patterns, rest⟩ := ih fun other member => globs other (by simp [member])
    unfold isGlob at glob
    cases parsed : Exclude.Pattern.parse text with
    | error fault =>
      rw [parsed] at glob
      cases glob
    | ok pattern =>
      refine ⟨pattern :: patterns, ?_⟩
      rw [List.mapM_cons, parsed, rest]
      rfl

theorem Config.isGlob_of_validate {config : Config} (valid : config.validate = .ok ()) :
    ∀ text ∈ config.analysis.exclude, isGlob text = true := by
  have faultless : config.fault? = none := by
    unfold Config.validate at valid
    split at valid
    · cases valid
    · assumption
  intro text member
  unfold Config.fault? at faultless
  split at faultless
  · cases faultless
  · split at faultless
    · cases faultless
    · split at faultless
      · cases faultless
      · rename_i none
        simpa using List.find?_eq_none.mp none text member

theorem Config.scanSettings_of_validate {config : Config} (valid : config.validate = .ok ()) :
    ∃ settings, config.scanSettings = .ok settings := by
  obtain ⟨patterns, read⟩ := patterns_of_isGlob (isGlob_of_validate valid)
  unfold Config.scanSettings
  rw [read]
  exact ⟨_, rfl⟩

/-- Why a file that is there cannot be analysed. -/
inductive Failure (disk : Disk) (root : Path) (file : ScannedFile) : Error → Prop where
  | path (noText : file.path.text? = none) :
    Failure disk root file (.invalidPath file.path.shown .notText)
  | root {path : String} (pathText : file.path.text? = some path) (noText : root.text? = none) :
    Failure disk root file (.invalidPath root.shown .notText)
  | content {path base : String} {content : ByteArray} (pathText : file.path.text? = some path)
    (rootText : root.text? = some base) (stored : disk.entry file.path = .ok (.file content))
    (noText : String.fromUTF8? content = none) :
    Failure disk root file (.read file.path.shown .notText)

inductive Success (disk : Disk) (root : Path) (file : ScannedFile) : Analyzed → Prop where
  | intro {path base text : String} {content : ByteArray} (pathText : file.path.text? = some path)
    (rootText : root.text? = some base) (stored : disk.entry file.path = .ok (.file content))
    (contentText : String.fromUTF8? content = some text) :
    Success disk root file (analyze path base text)

theorem analyzeFile_cases {disk : Disk} {file : ScannedFile} {content : ByteArray} (root : Path)
    (stored : disk.entry file.path = .ok (.file content)) :
    (∃ analyzed, Success disk root file analyzed ∧
      analyzeFile disk file.path root = .ok analyzed) ∨
    ∃ e, Failure disk root file e ∧ analyzeFile disk file.path root = .error e := by
  unfold analyzeFile
  cases pathText : file.path.text? with
  | none => exact .inr ⟨_, .path pathText, rfl⟩
  | some path =>
    cases rootText : root.text? with
    | none => exact .inr ⟨_, .root pathText rootText, rfl⟩
    | some base =>
      dsimp only
      rw [Disk.readText, Disk.readBytes, stored]
      dsimp only
      cases contentText : String.fromUTF8? content with
      | none => exact .inr ⟨_, .content pathText rootText stored contentText, rfl⟩
      | some text => exact .inl ⟨_, ⟨pathText, rootText, stored, contentText⟩, rfl⟩

theorem Success.analyzeFile_eq {disk : Disk} {root : Path} {file : ScannedFile}
    {analyzed : Analyzed} (success : Success disk root file analyzed) :
    analyzeFile disk file.path root = .ok analyzed := by
  obtain ⟨pathText, rootText, stored, contentText⟩ := success
  simp [analyzeFile, pathText, rootText, Disk.readText, Disk.readBytes, stored, contentText]

theorem Failure.analyzeFile_eq {disk : Disk} {root : Path} {file : ScannedFile} {e : Error}
    (failure : Failure disk root file e) : analyzeFile disk file.path root = .error e := by
  cases failure with
  | path noText => simp [analyzeFile, noText]
  | root pathText noText => simp [analyzeFile, pathText, noText]
  | content pathText rootText stored noText =>
    simp [analyzeFile, pathText, rootText, Disk.readText, Disk.readBytes, stored, noText]

/-- The files of a scan, split between inventories and failures in the order of the scan, with the
calls of those that are analysed. -/
inductive Splits (disk : Disk) (root : Path) :
    List ScannedFile → List Inventory → List FailedFile → List CallSite → Prop where
  | nil : Splits disk root [] [] [] []
  | analyzed {file : ScannedFile} {analyzed : Analyzed} {files : List ScannedFile}
    {inventories : List Inventory} {failed : List FailedFile} {calls : List CallSite}
    (success : Success disk root file analyzed)
    (rest : Splits disk root files inventories failed calls) :
    Splits disk root (file :: files) (analyzed.inventory :: inventories) failed
      (analyzed.calls ++ calls)
  | failed {file : ScannedFile} {e : Error} {files : List ScannedFile}
    {inventories : List Inventory} {failed : List FailedFile} {calls : List CallSite}
    (failure : Failure disk root file e)
    (rest : Splits disk root files inventories failed calls) :
    Splits disk root (file :: files) inventories
      ({ path := file.path.shown, error := e.message } :: failed) calls

def reportedWith (sofar : Report × CallGraph) (inventories : List Inventory)
    (failed : List FailedFile) (calls : List CallSite) : Report × CallGraph :=
  ({ sofar.1 with files := sofar.1.files ++ inventories, failed := sofar.1.failed ++ failed },
    sofar.2.merge calls)

theorem reportedWith_nil (sofar : Report × CallGraph) : reportedWith sofar [] [] [] = sofar := by
  simp [reportedWith, CallGraph.merge]

theorem reportedWith_reportedWith (sofar : Report × CallGraph) (first rest : List Inventory)
    (failed later : List FailedFile) (calls more : List CallSite) :
    reportedWith (reportedWith sofar first failed calls) rest later more =
      reportedWith sofar (first ++ rest) (failed ++ later) (calls ++ more) := by
  simp [reportedWith, CallGraph.merge]

theorem includeFile_step {disk : Disk} {file : ScannedFile} {content : ByteArray} (root : Path)
    (sofar : Report × CallGraph) (stored : disk.entry file.path = .ok (.file content)) :
    (∃ analyzed, Success disk root file analyzed ∧
      includeFile disk root sofar file =
        .ok (reportedWith sofar [analyzed.inventory] [] analyzed.calls)) ∨
    ∃ e, Failure disk root file e ∧
      includeFile disk root sofar file =
        .ok (reportedWith sofar [] [{ path := file.path.shown, error := e.message }] []) := by
  rcases analyzeFile_cases root stored with ⟨analyzed, success, done⟩ | ⟨e, failure, failed⟩
  · refine .inl ⟨analyzed, success, ?_⟩
    simp [includeFile, done, reportedWith]
  · refine .inr ⟨e, failure, ?_⟩
    have perFile := isPerFile_of_analyzeFile_error failed
    simp [includeFile, failed, perFile, reportedWith, CallGraph.merge]

theorem foldlM_includeFile {disk : Disk} {files : List ScannedFile} (root : Path)
    (stored : ∀ file ∈ files, ∃ content, disk.entry file.path = .ok (.file content))
    (sofar : Report × CallGraph) :
    ∃ inventories failed calls, Splits disk root files inventories failed calls ∧
      files.foldlM (includeFile disk root) sofar =
        .ok (reportedWith sofar inventories failed calls) := by
  induction files generalizing sofar with
  | nil => exact ⟨[], [], [], .nil, by rw [reportedWith_nil]; rfl⟩
  | cons file files ih =>
    obtain ⟨content, here⟩ := stored file (by simp)
    have later := ih fun other member => stored other (by simp [member])
    rcases includeFile_step root sofar here with ⟨analyzed, success, step⟩ | ⟨e, failure, step⟩
    · obtain ⟨inventories, failed, calls, rest, run⟩ :=
        later (reportedWith sofar [analyzed.inventory] [] analyzed.calls)
      refine ⟨_, _, _, .analyzed success rest, ?_⟩
      rw [List.foldlM_cons, step]
      rw [reportedWith_reportedWith] at run
      exact run
    · obtain ⟨inventories, failed, calls, rest, run⟩ :=
        later (reportedWith sofar [] [{ path := file.path.shown, error := e.message }] [])
      refine ⟨_, _, _, .failed failure rest, ?_⟩
      rw [List.foldlM_cons, step]
      rw [reportedWith_reportedWith] at run
      exact run

/-- The analysis of a workspace returns a report in which every scanned file has its place. -/
theorem analyzeWorkspace_splits {disk : Disk} {root : Path} {config : Config} (env : Environment)
    (now : String) (directory : disk.isDirectory root = true)
    (valid : config.validate = .ok ()) :
    ∃ settings files report graph, config.scanSettings = .ok settings ∧
      scan disk env root settings = .ok files ∧
      analyzeWorkspace disk env now root config = .ok (report, graph) ∧
      report.generatedAt = now ∧ report.root = root.shown ∧
      Splits disk root files report.files report.failed graph.calls := by
  obtain ⟨settings, usable⟩ := Config.scanSettings_of_validate valid
  obtain ⟨files, scanned, stored⟩ := scan_of_isDirectory env settings directory
  let start : Report := { generatedAt := now, root := root.shown, files := [], failed := [] }
  obtain ⟨inventories, failed, calls, splits, run⟩ :=
    foldlM_includeFile root stored (start, .empty)
  refine ⟨settings, files, { start with files := inventories, failed }, ⟨calls⟩, usable, scanned,
    ?_, rfl, rfl, splits⟩
  unfold analyzeWorkspace
  rw [usable]
  change scan disk env root settings >>= _ = _
  rw [scanned]
  exact run

def unreadableBeside : Disk where
  tree := ((FileTree.empty.put [Text.bytesOf "ws"] .directory).put
    [Text.bytesOf "ws", Text.bytesOf "a.py"] (.file "def f(): g()".toUTF8)).put
      [Text.bytesOf "ws", Text.bytesOf "b.py"] (.file ⟨#[0xFF]⟩)
  workingDirectory := []

theorem scan_unreadableBeside {settings : ScanSettings}
    (usable : Config.default.scanSettings = .ok settings) :
    scan unreadableBeside ⟨[]⟩ (.ofText "ws") settings =
      .ok [⟨.ofText "ws/a.py", 12⟩, ⟨.ofText "ws/b.py", 1⟩] := by
  have below : (Config.default.scanSettings.map
      (Scan.filesBelow unreadableBeside ⟨[]⟩ (.ofText "ws") [Text.bytesOf "ws"])) =
      .ok [([Text.bytesOf "a.py"], 12), ([Text.bytesOf "b.py"], 1)] := by decide +kernel
  rw [usable] at below
  have files : Scan.filesBelow unreadableBeside ⟨[]⟩ (.ofText "ws") [Text.bytesOf "ws"] settings =
      [([Text.bytesOf "a.py"], 12), ([Text.bytesOf "b.py"], 1)] := Except.ok.inj below
  have located : unreadableBeside.locate (.ofText "ws") = .ok [Text.bytesOf "ws"] := rfl
  rw [Scan.scan_eq ⟨[]⟩ settings located (by decide +kernel), files,
    List.mergeSort_of_pairwise (by decide +kernel)]
  rfl

theorem analyzeWorkspace_splits_unreadable :
    unreadableBeside.isDirectory (.ofText "ws") = true ∧ Config.default.validate = .ok () ∧
    ∃ report graph,
      analyzeWorkspace unreadableBeside ⟨[]⟩ "now" (.ofText "ws") .default = .ok (report, graph) ∧
      report.files = [(analyze "ws/a.py" "ws" "def f(): g()").inventory] ∧
      report.failed = [{ path := "ws/b.py"
                         error := "Failed to read ws/b.py: stream did not contain valid UTF-8" }] ∧
      graph.calls = (analyze "ws/a.py" "ws" "def f(): g()").calls := by
  have directory : unreadableBeside.isDirectory (.ofText "ws") = true := by decide +kernel
  have valid : Config.default.validate = .ok () := rfl
  obtain ⟨settings, files, report, graph, usable, scanned, done, -, -, splits⟩ :=
    analyzeWorkspace_splits ⟨[]⟩ "now" directory valid
  rw [scan_unreadableBeside usable] at scanned
  cases scanned
  have read : analyzeFile unreadableBeside (.ofText "ws/a.py") (.ofText "ws") =
      .ok (analyze "ws/a.py" "ws" "def f(): g()") := rfl
  have unread : analyzeFile unreadableBeside (.ofText "ws/b.py") (.ofText "ws") =
      .error (.read "ws/b.py" .notText) := rfl
  refine ⟨directory, valid, report, graph, done, ?_⟩
  generalize report.files = inventories, report.failed = failed, graph.calls = calls at splits ⊢
  cases splits with
  | failed failure _ => cases read.symm.trans failure.analyzeFile_eq
  | analyzed success rest =>
    cases read.symm.trans success.analyzeFile_eq
    cases rest with
    | analyzed success _ => cases unread.symm.trans success.analyzeFile_eq
    | failed failure rest =>
      cases unread.symm.trans failure.analyzeFile_eq
      cases rest
      exact ⟨rfl, rfl, List.append_nil _⟩

end Outline
