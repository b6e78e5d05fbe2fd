import Outline.Config.Load
import Outline.Proofs.Toml.Overlay

namespace Outline

open Outline.Toml

inductive Setting where
  | version
  | exclude
  | maxFileSize
  | extensions
  | directory
  | format
  | callGraph
  | level
  | file
deriving Repr, DecidableEq

namespace Setting

inductive Group where
  | analysis
  | output
  | logging
deriving Repr, DecidableEq

def Group.key : Group → String
  | analysis => "analysis"
  | output => "output"
  | logging => "logging"

def Group.names : Group → List String
  | analysis => AnalysisSettings.fieldNames
  | output => OutputSettings.fieldNames
  | logging => LoggingSettings.fieldNames

def group? : Setting → Option Group
  | version => none
  | exclude | maxFileSize | extensions => some .analysis
  | directory | format | callGraph => some .output
  | level | file => some .logging

def key : Setting → String
  | version => "version"
  | exclude => "exclude"
  | maxFileSize => "max_file_size"
  | extensions => "extensions"
  | directory => "directory"
  | format => "format"
  | callGraph => "call_graph"
  | level => "level"
  | file => "file"

abbrev Content : Setting → Type
  | version | directory | level => String
  | exclude | extensions => List String
  | maxFileSize => Nat
  | format => Format
  | callGraph => Bool
  | file => Option String

def get : (s : Setting) → Config → s.Content
  | version, c => c.version
  | exclude, c => c.analysis.exclude
  | maxFileSize, c => c.analysis.maxFileSize
  | extensions, c => c.analysis.extensions
  | directory, c => c.output.directory
  | format, c => c.output.format
  | callGraph, c => c.output.callGraph
  | level, c => c.logging.level
  | file, c => c.logging.file

def set : (s : Setting) → Config → s.Content → Config
  | version, c, v => { c with version := v }
  | exclude, c, v => { c with analysis := { c.analysis with exclude := v } }
  | maxFileSize, c, v => { c with analysis := { c.analysis with maxFileSize := v } }
  | extensions, c, v => { c with analysis := { c.analysis with extensions := v } }
  | directory, c, v => { c with output := { c.output with directory := v } }
  | format, c, v => { c with output := { c.output with format := v } }
  | callGraph, c, v => { c with output := { c.output with callGraph := v } }
  | level, c, v => { c with logging := { c.logging with level := v } }
  | file, c, v => { c with logging := { c.logging with file := v } }

def read? : (s : Setting) → Value → Option s.Content
  | version => Value.text?
  | exclude => Value.texts?
  | maxFileSize => Value.word?
  | extensions => Value.texts?
  | directory => Value.text?
  | format => Value.format?
  | callGraph => Value.flag?
  | level => Value.text?
  | file => fun value => value.text?.map some

theorem forall_iff {holds : Setting → Prop} :
    (∀ s, holds s) ↔ holds version ∧ (holds exclude ∧ holds maxFileSize ∧ holds extensions) ∧
      (holds directory ∧ holds format ∧ holds callGraph) ∧ holds level ∧ holds file := by
  constructor
  · intro all
    exact ⟨all _, ⟨all _, all _, all _⟩, ⟨all _, all _, all _⟩, all _, all _⟩
  · rintro ⟨_, ⟨_, _, _⟩, ⟨_, _, _⟩, _, _⟩ s
    cases s <;> assumption

theorem get_set_self (s : Setting) (c : Config) (v : s.Content) : s.get (s.set c v) = v := by
  cases s <;> rfl

theorem get_set_of_ne {s other : Setting} (different : other ≠ s) (c : Config) (v : s.Content) :
    other.get (s.set c v) = other.get c := by
  cases s <;> cases other <;> first | rfl | exact absurd rfl different

theorem ext {c d : Config} (same : ∀ s : Setting, s.get c = s.get d) : c = d := by
  obtain ⟨version, ⟨exclude, size, extensions⟩, ⟨directory, format, callGraph⟩, ⟨level, file⟩⟩ := c
  obtain ⟨_, ⟨_, _, _⟩, ⟨_, _, _⟩, ⟨_, _⟩⟩ := d
  have each := forall_iff.mp same
  simp only [get] at each
  obtain ⟨rfl, ⟨rfl, rfl, rfl⟩, ⟨rfl, rfl, rfl⟩, rfl, rfl⟩ := each
  rfl

end Setting

def Config.ofSettings (f : (s : Setting) → s.Content) : Config where
  version := f .version
  analysis :=
    { exclude := f .exclude, maxFileSize := f .maxFileSize, extensions := f .extensions }
  output := { directory := f .directory, format := f .format, callGraph := f .callGraph }
  logging := { level := f .level, file := f .file }

theorem Setting.get_ofSettings (f : (s : Setting) → s.Content) (s : Setting) :
    s.get (Config.ofSettings f) = f s := by
  cases s <;> rfl

namespace Toml

def Value.isRecord : Value → Bool
  | .table _ => true
  | .arr _ => true
  | .datetime => true
  | _ => false

/-- The fields of a record: an array gives its items the names in their order. -/
def recordFields (names : List String) : Option Value → List (String × Value)
  | some (.table fields) => fields
  | some (.arr items) => names.zip items
  | _ => []

theorem map_lookup_zip {names : List String} (distinct : names.Nodup) (items : List Value)
    {count : Nat} (enough : names.length ≤ count) :
    names.map (lookup (names.zip items)) =
      (items.map some ++ List.replicate count none).take names.length := by
  induction names generalizing items with
  | nil => simp
  | cons name names ih =>
    obtain ⟨fresh, distinct⟩ := List.nodup_cons.mp distinct
    rw [List.length_cons] at enough
    cases items with
    | nil =>
      have none : lookup [] = fun _ => none := rfl
      rw [List.zip_nil_right, none, List.map_nil, List.nil_append, List.take_replicate,
        List.map_const', List.length_cons, Nat.min_eq_left enough]
    | cons item items =>
      have later : ∀ other ∈ names,
          lookup ((name, item) :: names.zip items) other = lookup (names.zip items) other := by
        intro other member
        rw [lookup_cons, if_neg (ne_of_mem_of_not_mem member fresh).symm]
      rw [List.zip_cons_cons, List.map_cons, List.map_congr_left later, ih distinct items (by omega)]
      simp [lookup_cons]

theorem Value.record?_eq {names : List String} (distinct : names.Nodup) (value : Value) :
    value.record? names =
      if value.isRecord then some (names.map (lookup (recordFields names (some value))))
      else none := by
  cases value with
  | table fields => rfl
  | arr items =>
    simp [Value.record?, Value.isRecord, recordFields, List.map_const',
      map_lookup_zip distinct items (Nat.le_refl _)]
  | datetime => rfl
  | _ => rfl

theorem Value.withDefault?_record_iff {α : Type} {names : List String} {item? : Value → Option α}
    (tables : ∀ value, item? value =
      if value.isRecord then item? (.table (recordFields names (some value))) else none)
    {fallback : α} (bare : item? (.table []) = some fallback) {under : Option Value} {a : α} :
    withDefault? item? fallback under = some a ↔
      (∀ value, under = some value → value.isRecord = true) ∧
        item? (.table (recordFields names under)) = some a := by
  cases under with
  | none => simp [withDefault?, recordFields, bare]
  | some value =>
    rw [withDefault?, tables]
    cases record : value.isRecord <;> simp [record]

end Toml

theorem AnalysisSettings.read_iff {under : Option Value} {a : AnalysisSettings} :
    Value.withDefault? ofToml? default under = some a ↔
      (∀ value, under = some value → value.isRecord = true) ∧
      Value.withDefault? Value.texts? default.exclude
        (lookup (recordFields fieldNames under) "exclude") = some a.exclude ∧
      Value.withDefault? Value.word? default.maxFileSize
        (lookup (recordFields fieldNames under) "max_file_size") = some a.maxFileSize ∧
      Value.withDefault? Value.texts? default.extensions
        (lookup (recordFields fieldNames under) "extensions") = some a.extensions := by
  have tables (value : Value) : ofToml? value =
      if value.isRecord then ofToml? (.table (recordFields fieldNames (some value))) else none := by
    rw [ofToml?, Value.record?_eq (by decide)]
    cases value.isRecord <;> rfl
  rw [Value.withDefault?_record_iff tables rfl]
  apply and_congr_right
  intro _
  simp only [ofToml?, Value.record?, fieldNames, List.map_cons, List.map_nil, Option.bind_eq_bind,
    Option.bind_eq_some_iff]
  constructor
  · rintro ⟨_, first, _, second, _, third, ⟨⟩⟩
    exact ⟨first, second, third⟩
  · rintro ⟨first, second, third⟩
    exact ⟨_, first, _, second, _, third, rfl⟩

theorem OutputSettings.read_iff {under : Option Value} {o : OutputSettings} :
    Value.withDefault? ofToml? default under = some o ↔
      (∀ value, under = some value → value.isRecord = true) ∧
      Value.withDefault? Value.text? default.directory
        (lookup (recordFields fieldNames under) "directory") = some o.directory ∧
      Value.withDefault? Value.format? default.format
        (lookup (recordFields fieldNames under) "format") = some o.format ∧
      Value.withDefault? Value.flag? default.callGraph
        (lookup (recordFields fieldNames under) "call_graph") = some o.callGraph := by
  have tables (value : Value) : ofToml? value =
      if value.isRecord then ofToml? (.table (recordFields fieldNames (some value))) else none := by
    rw [ofToml?, Value.record?_eq (by decide)]
    cases value.isRecord <;> rfl
  rw [Value.withDefault?_record_iff tables rfl]
  apply and_congr_right
  intro _
  simp only [ofToml?, Value.record?, fieldNames, List.map_cons, List.map_nil, Option.bind_eq_bind,
    Option.bind_eq_some_iff]
  constructor
  · rintro ⟨_, first, _, second, _, third, ⟨⟩⟩
    exact ⟨first, second, third⟩
  · rintro ⟨first, second, third⟩
    exact ⟨_, first, _, second, _, third, rfl⟩

theorem LoggingSettings.read_iff {under : Option Value} {l : LoggingSettings} :
    Value.withDefault? ofToml? default under = some l ↔
      (∀ value, under = some value → value.isRecord = true) ∧
      Value.withDefault? Value.text? default.level
        (lookup (recordFields fieldNames under) "level") = some l.level ∧
      Value.withDefault? (fun value => value.text?.map some) default.file
        (lookup (recordFields fieldNames under) "file") = some l.file := by
  have tables (value : Value) : ofToml? value =
      if value.isRecord then ofToml? (.table (recordFields fieldNames (some value))) else none := by
    rw [ofToml?, Value.record?_eq (by decide)]
    cases value.isRecord <;> rfl
  rw [Value.withDefault?_record_iff tables rfl]
  apply and_congr_right
  intro _
  simp only [ofToml?, Value.record?, fieldNames, List.map_cons, List.map_nil, Option.bind_eq_bind,
    Option.bind_eq_some_iff]
  constructor
  · rintro ⟨_, first, _, second, ⟨⟩⟩
    exact ⟨first, second⟩
  · rintro ⟨first, second⟩
    exact ⟨_, first, _, second, rfl⟩

namespace Setting

def table (s : Setting) (fields : List (String × Value)) : List (String × Value) :=
  match s.group? with
  | none => fields
  | some group => recordFields group.names (lookup fields group.key)

def given? (s : Setting) (fields : List (String × Value)) : Option Value :=
  lookup (s.table fields) s.key

end Setting

def Config.HasRecords (fields : List (String × Value)) : Prop :=
  ∀ (group : Setting.Group) (value : Value), lookup fields group.key = some value →
    value.isRecord = true

/-- Settings are read one by one; those that are not given have their defaults. -/
theorem Config.ofTable?_eq_some_iff {fields : List (String × Value)} {c : Config} :
    ofTable? fields = some c ↔ HasRecords fields ∧ ∀ s : Setting,
      Value.withDefault? s.read? (s.get .default) (s.given? fields) = some (s.get c) := by
  have names : (Value.table fields).record? fieldNames = some [lookup fields "version",
    lookup fields "analysis", lookup fields "output", lookup fields "logging"] := rfl
  have parts : ofTable? fields = some c ↔
      Value.withDefault? Value.text? default.version (lookup fields "version") = some c.version ∧
      Value.withDefault? AnalysisSettings.ofToml? .default (lookup fields "analysis") =
        some c.analysis ∧
      Value.withDefault? OutputSettings.ofToml? .default (lookup fields "output") =
        some c.output ∧
      Value.withDefault? LoggingSettings.ofToml? .default (lookup fields "logging") =
        some c.logging := by
    rw [ofTable?, names]
    simp only [Option.bind_eq_bind, Option.bind_eq_some_iff]
    constructor
    · rintro ⟨_, version, _, analysis, _, output, _, logging, ⟨⟩⟩
      exact ⟨version, analysis, output, logging⟩
    · rintro ⟨version, analysis, output, logging⟩
      exact ⟨_, version, _, analysis, _, output, _, logging, rfl⟩
  rw [parts, AnalysisSettings.read_iff, OutputSettings.read_iff, LoggingSettings.read_iff,
    Setting.forall_iff]
  constructor
  · rintro ⟨version, ⟨records, analysis⟩, ⟨records', output⟩, records'', logging⟩
    refine ⟨?_, version, analysis, output, logging⟩
    rintro (_ | _ | _)
    · exact records
    · exact records'
    · exact records''
  · rintro ⟨records, version, analysis, output, logging⟩
    exact ⟨version, ⟨records .analysis, analysis⟩, ⟨records .output, output⟩, records .logging,
      logging⟩

def Setting.Accepts : (s : Setting) → s.Content → Prop
  | exclude, patterns => ∀ pattern ∈ patterns, isGlob pattern = true
  | maxFileSize, size => size ≠ 0
  | extensions, names => names ≠ []
  | level, text => Filter.isValid text = true
  | _, _ => True

theorem Config.validate_eq_ok_iff {c : Config} :
    c.validate = .ok () ↔ ∀ s : Setting, s.Accepts (s.get c) := by
  have faultless : c.validate = .ok () ↔ c.fault? = none := by
    unfold validate
    cases c.fault? <;> simp
  rw [faultless, fault?, Setting.forall_iff]
  constructor
  · intro none
    split at none
    · cases none
    · rename_i size
      split at none
      · cases none
      · rename_i extensions
        split at none
        · cases none
        · rename_i globs
          split at none
          · rename_i level
            refine ⟨trivial, ⟨?_, size, ?_⟩, ⟨trivial, trivial, trivial⟩, level, trivial⟩
            · intro pattern member
              simpa using List.find?_eq_none.mp globs pattern member
            · exact fun empty => extensions (List.isEmpty_iff.mpr empty)
          · cases none
  · rintro ⟨-, ⟨globs, size, extensions⟩, -, level, -⟩
    have patterns : c.analysis.exclude.find? (!isGlob ·) = none := by
      rw [List.find?_eq_none]
      intro pattern member
      simp [globs pattern member]
    have positive : c.analysis.maxFileSize ≠ 0 := size
    have named : ¬ c.analysis.extensions.isEmpty = true := by
      rw [List.isEmpty_iff]
      exact extensions
    rw [if_neg positive, if_neg named, patterns]
    exact if_pos level

theorem Setting.accepts_default (s : Setting) : s.Accepts (s.get .default) :=
  Config.validate_eq_ok_iff.mp rfl s

end Outline
