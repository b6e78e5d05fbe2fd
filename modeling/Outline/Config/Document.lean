import Outline.Config.Basic
import Outline.Count
import Outline.Json.Printer
import Outline.Toml.Reader
import Outline.Toml.Writer

namespace Outline

open Outline.Toml

def AnalysisSettings.toToml (s : AnalysisSettings) : List Char :=
  writeHeader "analysis" ++ writeEntry "exclude" (writeStrings s.exclude) ++
    writeEntry "max_file_size" (Text.natText s.maxFileSize) ++
    writeEntry "extensions" (writeStrings s.extensions)

def OutputSettings.toToml (s : OutputSettings) : List Char :=
  writeHeader "output" ++ writeEntry "directory" (writeString s.directory.toList) ++
    writeEntry "format" (writeString s.format.label.toList) ++
    writeEntry "call_graph" (Json.boolText s.callGraph)

def LoggingSettings.toToml (s : LoggingSettings) : List Char :=
  writeHeader "logging" ++ writeEntry "level" (writeString s.level.toList) ++
    match s.file with
    | some file => writeEntry "file" (writeString file.toList)
    | none => []

def Config.toToml (c : Config) : List Char :=
  writeEntry "version" (writeString c.version.toList) ++ c.analysis.toToml ++ c.output.toToml ++
    c.logging.toToml

namespace Toml.Value

def text? : Value → Option String
  | .str value => some value
  | _ => none

def flag? : Value → Option Bool
  | .bool value => some value
  | _ => none

def word? : Value → Option Nat
  | .int (.ofNat n) => if n < wordCount 64 then some n else none
  | _ => none

def texts? : Value → Option (List String)
  | .arr items => items.mapM text?
  | _ => none

def format? : Value → Option Format
  | .str name => Format.all.find? (·.label == name)
  | _ => none

/-- The fields of a record in the order of `names`, from a table or from an array. Other fields and
further items do not count, and a date has none of the fields. -/
def record? (names : List String) : Value → Option (List (Option Value))
  | .table fields => some (names.map fun name => (fields.find? (·.1 == name)).map (·.2))
  | .arr items => some ((items.map some ++ names.map fun _ => none).take names.length)
  | .datetime => some (names.map fun _ => none)
  | _ => none

def withDefault? {α : Type} (item? : Value → Option α) (fallback : α) : Option Value → Option α
  | none => some fallback
  | some value => item? value

end Toml.Value

def AnalysisSettings.ofToml? (value : Value) : Option AnalysisSettings :=
  match value.record? fieldNames with
  | some [exclude, maxFileSize, extensions] => do
    return {
      exclude := ← Value.withDefault? Value.texts? default.exclude exclude
      maxFileSize := ← Value.withDefault? Value.word? default.maxFileSize maxFileSize
      extensions := ← Value.withDefault? Value.texts? default.extensions extensions }
  | _ => none

def OutputSettings.ofToml? (value : Value) : Option OutputSettings :=
  match value.record? fieldNames with
  | some [directory, format, callGraph] => do
    return {
      directory := ← Value.withDefault? Value.text? default.directory directory
      format := ← Value.withDefault? Value.format? default.format format
      callGraph := ← Value.withDefault? Value.flag? default.callGraph callGraph }
  | _ => none

def LoggingSettings.ofToml? (value : Value) : Option LoggingSettings :=
  match value.record? fieldNames with
  | some [level, file] => do
    return {
      level := ← Value.withDefault? Value.text? default.level level
      file := ← Value.withDefault? (fun v => v.text?.map some) default.file file }
  | _ => none

def Config.ofTable? (fields : List (String × Value)) : Option Config :=
  match (Value.table fields).record? fieldNames with
  | some [version, analysis, output, logging] => do
    return {
      version := ← Value.withDefault? Value.text? default.version version
      analysis := ← Value.withDefault? AnalysisSettings.ofToml? default.analysis analysis
      output := ← Value.withDefault? OutputSettings.ofToml? default.output output
      logging := ← Value.withDefault? LoggingSettings.ofToml? default.logging logging }
  | _ => none

def Config.ofToml? (text : List Char) : Option Config := (Toml.parse? text).bind Config.ofTable?

end Outline
