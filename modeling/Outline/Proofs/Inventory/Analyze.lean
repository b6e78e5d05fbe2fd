import Outline.Inventory.Analyze
import Outline.Proofs.Source.Member
import Outline.Proofs.Text.Lines

namespace Outline

open Outline.Text Outline.Source

def sourceLines (content : String) : List Line :=
  (LineIndex.ofText (dropByteOrderMark content.toList)).lines

theorem sourceLines_no_feed (content : String) : ∀ line ∈ sourceLines content, '\n' ∉ line :=
  fun _ member => no_feed_of_mem_lines member

def fileOwner (path : String) : Owner where
  typeName := String.ofList (PathText.fileStem path.toList)
  filePath := path

theorem fileContainer?_eq_none_iff {lines : List Line} {name : String}
    {functions : List Extracted} : fileContainer? lines name functions = none ↔ functions = [] := by
  cases functions <;> simp [fileContainer?]

theorem fileContainer?_fields {lines : List Line} {name : String} {functions : List Extracted}
    {t : Container} (found : fileContainer? lines name functions = some t) :
    t.name = name ∧ t.kind = .moduleKind ∧ t.startLine = 1 ∧ t.endLine = max 1 lines.length ∧
      t.members = functions.map (·.info) := by
  unfold fileContainer? at found
  split at found
  · cases found
  · cases found
    exact ⟨rfl, rfl, rfl, rfl, rfl⟩

theorem fileContainer?_members (lines : List Line) (name : String) (functions : List Extracted) :
    (fileContainer? lines name functions).toList.flatMap (·.members) = functions.map (·.info) := by
  cases functions <;> simp [fileContainer?]

theorem mem_classes_iff {lines : List Line} {path : String} {c : ExtractedClass} :
    c ∈ Source.classes lines path ↔
      ∃ idx line header, lines[idx]? = some line ∧ ClassHeader.parse? line = some header ∧
        c = ExtractedClass.ofHeader lines path idx header := by
  unfold Source.classes
  rw [List.mem_filterMap]
  constructor
  · rintro ⟨⟨line, idx⟩, member, made⟩
    obtain ⟨header, found, rfl⟩ := Option.map_eq_some_iff.mp made
    exact ⟨idx, line, header, List.mk_mem_zipIdx_iff_getElem?.mp member, found, rfl⟩
  · rintro ⟨idx, line, header, member, found, rfl⟩
    exact ⟨(line, idx), List.mk_mem_zipIdx_iff_getElem?.mpr member, by simp [found]⟩

theorem classes_kind {lines : List Line} {path : String} {c : ExtractedClass}
    (member : c ∈ Source.classes lines path) : c.info.kind = .classKind := by
  obtain ⟨idx, line, header, -, -, rfl⟩ := mem_classes_iff.mp member
  rfl

def fileInventory (path base : String) (size : Nat) (modules : List (List Char))
    (types : List Container) : Inventory :=
  let inventory : Inventory :=
    { path
      relativePath := String.ofList (PathText.relativeTo path.toList base.toList)
      fileName := String.ofList (PathText.fileName path.toList)
      sizeBytes := size
      tokenEstimate := estimateTokens size
      types
      imports := modules.map String.ofList
      dependencies := (dependencyRoots modules).map String.ofList
      role := .unknown }
  { inventory with role := Role.ofInventory inventory }

theorem analyze_inventory (path base content : String) :
    (analyze path base content).inventory =
      fileInventory path base content.utf8ByteSize (imports (dropByteOrderMark content.toList))
        (analyze path base content).inventory.types := rfl

section Analysis

variable (path base content : String)

theorem analyze_types :
    (analyze path base content).inventory.types =
      (fileContainer? (sourceLines content) (fileOwner path).typeName
        (fileFunctions (sourceLines content) (fileOwner path))).toList ++
      (Source.classes (sourceLines content) path).map (·.info) := rfl

theorem analyze_calls :
    (analyze path base content).calls =
      (Source.classes (sourceLines content) path).flatMap (·.calls) ++
      (fileFunctions (sourceLines content) (fileOwner path)).flatMap (·.calls) := rfl

theorem analyze_classes :
    (analyze path base content).inventory.classes =
      (Source.classes (sourceLines content) path).map (·.info) := by
  have classes_kept : ((Source.classes (sourceLines content) path).map (·.info)).filter
      (·.kind = .classKind) = (Source.classes (sourceLines content) path).map (·.info) := by
    rw [List.filter_eq_self]
    intro t member
    obtain ⟨c, inside, rfl⟩ := List.mem_map.mp member
    simp [classes_kind inside]
  rw [Inventory.classes, analyze_types, List.filter_append, classes_kept]
  cases found : fileContainer? (sourceLines content) (fileOwner path).typeName
      (fileFunctions (sourceLines content) (fileOwner path)) with
  | none => rfl
  | some t => simp [(fileContainer?_fields found).2.1]

theorem analyze_module? :
    (analyze path base content).inventory.module? =
      fileContainer? (sourceLines content) (fileOwner path).typeName
        (fileFunctions (sourceLines content) (fileOwner path)) := by
  rw [Inventory.module?, analyze_types]
  cases found : fileContainer? (sourceLines content) (fileOwner path).typeName
      (fileFunctions (sourceLines content) (fileOwner path)) with
  | some t => simp [(fileContainer?_fields found).2.1]
  | none =>
    cases declared : Source.classes (sourceLines content) path with
    | nil => rfl
    | cons c rest =>
      have member : c ∈ Source.classes (sourceLines content) path := by
        rw [declared]
        simp
      simp [classes_kind member]

theorem analyze_types_split :
    (analyze path base content).inventory.types =
      (analyze path base content).inventory.module?.toList ++
        (analyze path base content).inventory.classes := by
  rw [analyze_types, analyze_module?, analyze_classes]

theorem mem_analyze_types {path base content : String} {t : Container} :
    t ∈ (analyze path base content).inventory.types ↔
      (analyze path base content).inventory.module? = some t ∨
      t ∈ (analyze path base content).inventory.classes := by
  rw [analyze_types_split, List.mem_append, Option.mem_toList]

theorem module?_of_kind {path base content : String} {t : Container}
    (member : t ∈ (analyze path base content).inventory.types) (kind : t.kind = .moduleKind) :
    (analyze path base content).inventory.module? = some t := by
  rcases mem_analyze_types.mp member with found | declared
  · exact found
  · exfalso
    have classKind := (List.mem_filter.mp declared).2
    simp [kind] at classKind

theorem exists_mem_members {path base content : String} {t : Container} {m : Member}
    (listed : t ∈ (analyze path base content).inventory.types) (inside : m ∈ t.members) :
    ∃ first last scope owner, ∃ extracted ∈ members (sourceLines content) first last scope owner,
      extracted.info = m := by
  rcases mem_analyze_types.mp listed with found | declared
  · rw [analyze_module?] at found
    rw [(fileContainer?_fields found).2.2.2.2] at inside
    obtain ⟨function, among, rfl⟩ := List.mem_map.mp inside
    exact ⟨_, _, _, _, function, among, rfl⟩
  · rw [analyze_classes] at declared
    obtain ⟨c, among, rfl⟩ := List.mem_map.mp declared
    obtain ⟨idx, line, header, -, -, rfl⟩ := mem_classes_iff.mp among
    obtain ⟨method, held, rfl⟩ := List.mem_map.mp inside
    exact ⟨_, _, _, _, method, held, rfl⟩

theorem exists_mem_of_mem_calls {path base content : String} {c : CallSite}
    (member : c ∈ (analyze path base content).calls) :
    ∃ first last scope owner, ∃ m ∈ members (sourceLines content) first last scope owner,
      c ∈ m.calls := by
  rw [analyze_calls] at member
  rcases List.mem_append.mp member with declared | function
  · obtain ⟨t, listed, among⟩ := List.mem_flatMap.mp declared
    obtain ⟨idx, line, header, -, -, rfl⟩ := mem_classes_iff.mp listed
    exact ⟨_, _, _, _, List.mem_flatMap.mp among⟩
  · exact ⟨_, _, _, _, List.mem_flatMap.mp function⟩

end Analysis

end Outline
