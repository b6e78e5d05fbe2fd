import Outline.Command.Args
import Outline.Count
import Outline.Report.Write
import Outline.Settings.Store
import Outline.Workspace.Analyze

namespace Outline

structure Printed where
  out : String
  err : String
deriving Repr, DecidableEq

namespace Printed

def nothing : Printed := ⟨"", ""⟩

def result (text : String) : Printed := ⟨text, ""⟩

def messages (quiet : Bool) (lines : List String) : Printed :=
  if quiet then nothing else ⟨"", String.join (lines.map (· ++ "\n"))⟩

end Printed

def detailLine (label value : String) : String :=
  let shown := label ++ ":"
  "  " ++ shown ++ "".pushn ' ' (14 - shown.length) ++ " " ++ value

def countLine (label : String) (count : Nat) : String := detailLine label (toString count)

def successLine (text : String) : String := "✓ " ++ text

def analysisLines (report : Report) (graph : CallGraph) (written : List Path) : List String :=
  ["", "Analysis complete", countLine "Files" report.files.length,
    countLine "Types" (total (report.files.map (·.classes.length))),
    countLine "Members" (total (report.files.map (·.memberCount))),
    countLine "Call sites" graph.calls.length] ++
    (report.roleCounts.map fun (role, count) => countLine role.label count) ++
    (if report.failed.isEmpty then []
      else ["⚠ " ++ toString report.failed.length ++ " file(s) could not be read"]) ++
    written.map fun path => successLine ("Wrote " ++ path.shown)

def runAnalyze (disk : Disk) (env : Environment) (now : String) (context : Context)
    (options : AnalyzeOptions) (quiet : Bool) : Disk × Except Error Printed :=
  let config := context.config
  let format := options.format.getD config.output.format
  match analyzeWorkspace disk env now context.workspace config with
  | .error e => (disk, .error e)
  | .ok (report, graph) =>
    if options.toConsole then (disk, .ok (.result (report.render format)))
    else
      let withGraph := config.output.callGraph && !options.noCallGraph
      let directory := context.outputDirectory options.output
      match writeReports disk now directory format report (if withGraph then some graph else none) with
      | (disk, .error e) => (disk, .error e)
      | (disk, .ok written) =>
        (disk, .ok (.messages quiet (analysisLines report graph written)))

def runFile (disk : Disk) (path : Path) (base : Option Path) : Except Error Printed :=
  (analyzeOne disk path base).map fun inventory =>
    .result (String.ofList inventory.toJson.pretty ++ "\n")

def runShow (disk : Disk) (env : Environment) (workspace : Path) (format : String) :
    Except Error Printed :=
  (Config.load disk env workspace).map fun config =>
    let text := if format = "json" then config.toJson.pretty else config.toToml
    .result (String.ofList text ++ "\n")

def markedPath (disk : Disk) (path : Path) : String :=
  (if disk.hasEntry path then "✓" else "✗") ++ " " ++ path.shown

def runPaths (disk : Disk) (env : Environment) (workspace : Path) : Printed :=
  let user := ((Config.userPath? env).map (markedPath disk)).getD "(not available)"
  .result ("Configuration paths:\n\n  Global:  " ++ user ++ "\n  Project: " ++
    markedPath disk (Config.projectPath workspace) ++ "\n")

def runInit (disk : Disk) (workspace : Path) (force quiet : Bool) (log : Option Log) :
    Disk × Except Error Printed :=
  match SettingsStore.init disk workspace force log with
  | (disk, .error e) => (disk, .error e)
  | (disk, .ok path) =>
    (disk, .ok (.messages quiet
      [successLine "Initialized project configuration", detailLine "Config" path.shown]))

def openLog (disk : Disk) (logging : LoggingSettings) :
    Disk × Except DiskFault (Option Location) :=
  match logging.file with
  | none => (disk, .ok none)
  | some file =>
    let path := Path.ofText file
    match (path.parent?.map disk.makeDirectories).getD (disk, .ok ()) with
    | (disk, .error fault) => (disk, .error fault)
    | (disk, .ok ()) =>
      let (disk, place) := disk.touch path
      (disk, place.map some)

def inWorkingDirectory (disk : Disk) (work : Path → Disk × Except Error Printed) :
    Disk × Except Error Printed :=
  match resolveWorkspace disk none with
  | .ok workspace => work workspace
  | .error e => (disk, .error e)

/-- Runs a command in the context that was loaded for it, which only the analysis of a workspace
needs. -/
def runCommand (disk : Disk) (env : Environment) (now : String) (context : Except Error Context)
    (log : Option Log) (quiet : Bool) : Command → Disk × Except Error Printed
  | .analyze _ options =>
    match context with
    | .ok context => runAnalyze disk env now context options (quiet || options.toConsole)
    | .error e => (disk, .error e)
  | .file path base => (disk, runFile disk path base)
  | .showConfig format =>
    inWorkingDirectory disk fun workspace => (disk, runShow disk env workspace format)
  | .showPaths => inWorkingDirectory disk fun workspace => (disk, .ok (runPaths disk env workspace))
  | .initConfig force =>
    inWorkingDirectory disk fun workspace => runInit disk workspace force quiet log

structure Outcome where
  exitCode : Nat
  printed : Printed
deriving Repr, DecidableEq

namespace Outcome

def success (printed : Printed) : Outcome := ⟨0, printed⟩

def failure (message : String) : Outcome :=
  ⟨1, ⟨"", "\x1b[31mError:\x1b[0m " ++ message ++ "\n"⟩⟩

def usageText : String := "Usage: pyweave [--verbose] [-q] <analyze|file|config>\n"

def ofStop : Stop → Outcome
  | .usage => ⟨2, ⟨"", usageText⟩⟩
  | .help => ⟨0, .result usageText⟩
  | .version => ⟨0, .result "pyweave 0.1.0\n"⟩

end Outcome

def Invocation.workspace? (invocation : Invocation) : Option Path :=
  match invocation.command with
  | .analyze path _ => path
  | _ => none

def loggingOf (context : Except Error Context) : LoggingSettings :=
  match context with
  | .ok context => context.config.logging
  | .error _ => .default

/-- Runs an invocation. The log file comes first, and settings that cannot be loaded do not hinder
commands that do without them. Only the messages about settings go to the log. -/
def Invocation.run (invocation : Invocation) (disk : Disk) (env : Environment) (now : String)
    (record : String → String) : Disk × Outcome :=
  let context := Context.load disk env invocation.workspace?
  match openLog disk (loggingOf context) with
  | (disk, .error fault) => (disk, .failure fault.message)
  | (disk, .ok place) =>
    let log := place.map (Log.mk · record)
    match runCommand disk env now context log invocation.quiet invocation.command with
    | (disk, .ok printed) => (disk, .success printed)
    | (disk, .error e) => (disk, .failure e.message)

/-- Runs a command line. `record` is what the log writes for a message. -/
def runWords (disk : Disk) (env : Environment) (now : String) (words : List String)
    (record : String → String := fun _ => "") : Disk × Outcome :=
  match Args.read words with
  | .ok invocation => invocation.run disk env now record
  | .error stop => (disk, .ofStop stop)

end Outline
