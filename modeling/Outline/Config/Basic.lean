import Outline.Json.Basic
import Outline.Report.Format

namespace Outline

structure AnalysisSettings where
  exclude : List String
  maxFileSize : Nat
  extensions : List String
deriving Repr, DecidableEq

structure OutputSettings where
  directory : String
  format : Format
  callGraph : Bool
deriving Repr, DecidableEq

structure LoggingSettings where
  level : String
  file : Option String
deriving Repr, DecidableEq

structure Config where
  version : String
  analysis : AnalysisSettings
  output : OutputSettings
  logging : LoggingSettings
deriving Repr, DecidableEq

def AnalysisSettings.default : AnalysisSettings where
  exclude := ["**/migrations/**"]
  maxFileSize := 1048576
  extensions := ["py", "pyi"]

def OutputSettings.default : OutputSettings where
  directory := ".pyweave/out"
  format := .json
  callGraph := true

def LoggingSettings.default : LoggingSettings where
  level := "info"
  file := none

def Config.default : Config where
  version := "1.0"
  analysis := .default
  output := .default
  logging := .default

def AnalysisSettings.fieldNames : List String := ["exclude", "max_file_size", "extensions"]

def OutputSettings.fieldNames : List String := ["directory", "format", "call_graph"]

def LoggingSettings.fieldNames : List String := ["level", "file"]

def Config.fieldNames : List String := ["version", "analysis", "output", "logging"]

def AnalysisSettings.toJson (s : AnalysisSettings) : Json :=
  .obj (fieldNames.zip [.ofStrings s.exclude, .nat s.maxFileSize, .ofStrings s.extensions])

def OutputSettings.toJson (s : OutputSettings) : Json :=
  .obj (fieldNames.zip [.str s.directory, .str s.format.label, .bool s.callGraph])

def LoggingSettings.toJson (s : LoggingSettings) : Json :=
  .obj (fieldNames.zip [.str s.level, .ofOption .str s.file])

def Config.toJson (c : Config) : Json :=
  .obj (fieldNames.zip [.str c.version, c.analysis.toJson, c.output.toJson, c.logging.toJson])

def AnalysisSettings.ofJson? (value : Json) : Option AnalysisSettings :=
  match value.partialRecord? fieldNames with
  | some [exclude, maxFileSize, extensions] => do
    return {
      exclude := ← Json.withDefault? (Json.list? Json.text?) default.exclude exclude
      maxFileSize := ← Json.withDefault? Json.word? default.maxFileSize maxFileSize
      extensions := ← Json.withDefault? (Json.list? Json.text?) default.extensions extensions }
  | _ => none

def OutputSettings.ofJson? (value : Json) : Option OutputSettings :=
  match value.partialRecord? fieldNames with
  | some [directory, format, callGraph] => do
    return {
      directory := ← Json.withDefault? Json.text? default.directory directory
      format := ← Json.withDefault? (Json.named? Format.all Format.label) default.format format
      callGraph := ← Json.withDefault? Json.flag? default.callGraph callGraph }
  | _ => none

def LoggingSettings.ofJson? (value : Json) : Option LoggingSettings :=
  match value.partialRecord? fieldNames with
  | some [level, file] => do
    return {
      level := ← Json.withDefault? Json.text? default.level level
      file := ← Json.withDefault? (Json.optional? Json.text?) default.file file }
  | _ => none

def Config.ofJson? (value : Json) : Option Config :=
  match value.partialRecord? fieldNames with
  | some [version, analysis, output, logging] => do
    return {
      version := ← Json.withDefault? Json.text? default.version version
      analysis := ← Json.withDefault? AnalysisSettings.ofJson? default.analysis analysis
      output := ← Json.withDefault? OutputSettings.ofJson? default.output output
      logging := ← Json.withDefault? LoggingSettings.ofJson? default.logging logging }
  | _ => none

end Outline
