import Outline.Config.Basic
import Outline.Proofs.Json.Record
import Outline.Report.Basic

namespace Outline

open Outline.Json

@[simp]
theorem MemberKind.named?_label (kind : MemberKind) :
    named? MemberKind.all MemberKind.label (.str kind.label) = some kind := by
  cases kind <;> rfl

@[simp]
theorem Visibility.named?_label (visibility : Visibility) :
    named? Visibility.all Visibility.label (.str visibility.label) = some visibility := by
  cases visibility <;> rfl

@[simp]
theorem ContainerKind.named?_label (kind : ContainerKind) :
    named? ContainerKind.all ContainerKind.label (.str kind.label) = some kind := by
  cases kind <;> rfl

@[simp]
theorem Role.named?_label (role : Role) :
    named? Role.all Role.label (.str role.label) = some role := by
  cases role <;> rfl

@[simp]
theorem Format.named?_label (format : Format) :
    named? Format.all Format.label (.str format.label) = some format := by
  cases format <;> rfl

structure Member.InRange (m : Member) : Prop where
  startLine : m.startLine < wordCount 64
  endLine : m.endLine < wordCount 64

structure Container.InRange (t : Container) : Prop where
  startLine : t.startLine < wordCount 64
  endLine : t.endLine < wordCount 64
  members : ∀ m ∈ t.members, m.InRange

structure Inventory.InRange (i : Inventory) : Prop where
  sizeBytes : i.sizeBytes < wordCount 64
  tokenEstimate : i.tokenEstimate < wordCount 64
  types : ∀ t ∈ i.types, t.InRange

def CallSite.InRange (c : CallSite) : Prop := c.line < wordCount 64

theorem Member.plain_toJson (m : Member) : Plain m.toJson := Plain.record _ (by simp)

theorem Member.ofJson?_toJson {m : Member} (inRange : m.InRange) : ofJson? m.toJson = some m := by
  rw [ofJson?, toJson, record?_zip (by decide) rfl]
  simp [required?, nullable?, word?_nat inRange.startLine, word?_nat inRange.endLine]

theorem Container.plain_toJson (t : Container) : Plain t.toJson := by
  have members := Plain.arr_map fun m (_ : m ∈ t.members) => m.plain_toJson
  exact Plain.record _ (by simpa using members)

theorem Container.ofJson?_toJson {t : Container} (inRange : t.InRange) :
    ofJson? t.toJson = some t := by
  have members := list?_arr_map fun m member => Member.ofJson?_toJson (inRange.members m member)
  rw [ofJson?, toJson, record?_zip (by decide) rfl]
  simp [required?, nullable?, word?_nat inRange.startLine, word?_nat inRange.endLine, members]

theorem Inventory.plain_toJson (i : Inventory) : Plain i.toJson := by
  have types := Plain.arr_map fun t (_ : t ∈ i.types) => t.plain_toJson
  exact Plain.record _ (by simpa using types)

theorem Inventory.ofJson?_toJson {i : Inventory} (inRange : i.InRange) :
    ofJson? i.toJson = some i := by
  have types := list?_arr_map fun t member => Container.ofJson?_toJson (inRange.types t member)
  rw [ofJson?, toJson, record?_zip (by decide) rfl]
  simp [required?, word?_nat inRange.sizeBytes, word?_nat inRange.tokenEstimate, types]

theorem CallSite.plain_toJson (c : CallSite) : Plain c.toJson := Plain.record _ (by simp)

theorem CallSite.ofJson?_toJson {c : CallSite} (inRange : c.InRange) :
    ofJson? c.toJson = some c := by
  rw [ofJson?, toJson, record?_zip (by decide) rfl]
  simp [required?, word?_nat inRange]

structure Report.InRange (r : Report) : Prop where
  files : ∀ i ∈ r.files, i.InRange

structure CallGraph.InRange (graph : CallGraph) : Prop where
  calls : ∀ c ∈ graph.calls, c.InRange

theorem FailedFile.plain_toJson (f : FailedFile) : Plain f.toJson := Plain.record _ (by simp)

theorem FailedFile.ofJson?_toJson (f : FailedFile) : ofJson? f.toJson = some f := by
  rw [ofJson?, toJson, record?_zip (by decide) rfl]
  simp [required?]

theorem Report.plain_toJson (r : Report) : Plain r.toJson := by
  have files := Plain.arr_map fun i (_ : i ∈ r.files) => i.plain_toJson
  have failed := Plain.arr_map fun f (_ : f ∈ r.failed) => f.plain_toJson
  exact Plain.record _ (by simp [files, failed])

theorem Report.ofJson?_toJson {r : Report} (inRange : r.InRange) : ofJson? r.toJson = some r := by
  have files := list?_arr_map fun i member => Inventory.ofJson?_toJson (inRange.files i member)
  have failed := list?_arr_map fun f (_ : f ∈ r.failed) => f.ofJson?_toJson
  rw [ofJson?, toJson, toFields, record?_zip (by decide) rfl]
  simp [required?, files, failed]

theorem CallGraph.toJson_eq (graph : CallGraph) :
    graph.toJson = .obj (["calls"].zip [.arr (graph.calls.map CallSite.toJson)]) := rfl

theorem CallGraph.plain_toJson (graph : CallGraph) : Plain graph.toJson := by
  have calls := Plain.arr_map fun c (_ : c ∈ graph.calls) => c.plain_toJson
  rw [toJson_eq]
  exact Plain.record _ (by simpa using calls)

theorem CallGraph.ofJson?_toJson {graph : CallGraph} (inRange : graph.InRange) :
    ofJson? graph.toJson = some graph := by
  have calls := list?_arr_map fun c member => CallSite.ofJson?_toJson (inRange.calls c member)
  rw [ofJson?, toJson_eq, record?_zip (by decide) rfl]
  simp [required?, calls]

def Config.InRange (c : Config) : Prop := c.analysis.maxFileSize < wordCount 64

theorem AnalysisSettings.plain_toJson (s : AnalysisSettings) : Plain s.toJson :=
  Plain.record _ (by simp)

theorem OutputSettings.plain_toJson (s : OutputSettings) : Plain s.toJson :=
  Plain.record _ (by simp)

theorem LoggingSettings.plain_toJson (s : LoggingSettings) : Plain s.toJson :=
  Plain.record _ (by simp)

theorem Config.plain_toJson (c : Config) : Plain c.toJson :=
  Plain.record _ (by
    simp [c.analysis.plain_toJson, c.output.plain_toJson, c.logging.plain_toJson])

theorem AnalysisSettings.ofJson?_toJson {s : AnalysisSettings}
    (inRange : s.maxFileSize < wordCount 64) : ofJson? s.toJson = some s := by
  rw [ofJson?, toJson, partialRecord?_zip (by decide) rfl]
  simp [withDefault?, word?_nat inRange]

theorem OutputSettings.ofJson?_toJson (s : OutputSettings) : ofJson? s.toJson = some s := by
  rw [ofJson?, toJson, partialRecord?_zip (by decide) rfl]
  simp [withDefault?]

theorem LoggingSettings.ofJson?_toJson (s : LoggingSettings) : ofJson? s.toJson = some s := by
  rw [ofJson?, toJson, partialRecord?_zip (by decide) rfl]
  simp [withDefault?]

theorem Config.ofJson?_toJson {c : Config} (inRange : c.InRange) : ofJson? c.toJson = some c := by
  rw [ofJson?, toJson, partialRecord?_zip (by decide) rfl]
  simp [withDefault?, AnalysisSettings.ofJson?_toJson inRange, OutputSettings.ofJson?_toJson,
    LoggingSettings.ofJson?_toJson]

end Outline
