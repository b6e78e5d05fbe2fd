import Outline.Disk.Basic
import Outline.Error
import Outline.Report.Basic

namespace Outline

def writeReport (disk : Disk) (path : Path) (text : String) : Disk × Except Error Unit :=
  match disk.writeText path text with
  | (disk, .ok ()) => (disk, .ok ())
  | (disk, .error fault) => (disk, .error (.during ("writing " ++ path.shown) fault.message))

def reportPath (directory : Path) (stem : String) (format : Format) : Path :=
  directory.join (.ofText (stem ++ "." ++ format.extension))

def writeReportsTo (disk : Disk) : List (Path × String) → Disk × Except Error (List Path)
  | [] => (disk, .ok [])
  | (path, text) :: rest =>
    match writeReport disk path text with
    | (disk, .error e) => (disk, .error e)
    | (disk, .ok ()) =>
      match writeReportsTo disk rest with
      | (disk, .error e) => (disk, .error e)
      | (disk, .ok paths) => (disk, .ok (path :: paths))

def writeReports (disk : Disk) (now : String) (directory : Path) (format : Format)
    (report : Report) (graph : Option CallGraph) : Disk × Except Error (List Path) :=
  match disk.makeDirectories directory with
  | (disk, .error fault) =>
    (disk, .error (.during ("creating output directory " ++ directory.shown) fault.message))
  | (disk, .ok ()) =>
    writeReportsTo disk
      ((reportPath directory "analysis" format, report.render format) ::
        graph.toList.map fun graph =>
          (reportPath directory "call_graph" format, (GraphReport.ofGraph now graph).render format))

end Outline
