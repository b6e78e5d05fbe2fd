import Outline.Proofs.Inventory.Analyze
import Outline.Proofs.Source.Block
import Outline.Proofs.Source.Call

namespace Outline

open Outline.Text Outline.Source

def Member.caller (path : String) (t : Container) (m : Member) : Caller where
  filePath := path
  typeName := t.name
  member := m.name
  firstLine := m.startLine

/-- The calls of a member when every line of it is read by itself. -/
def Member.callsByLine (lines : List Line) (path : String) (t : Container) (m : Member) :
    List CallSite :=
  (List.range' m.startLine (m.endLine + 1 - m.startLine)).flatMap fun k =>
    (m.caller path t).lineSites k (lines.getD (k - 1) [])

theorem zipIdx_window {lines : List Line} {start count : Nat}
    (fits : start + count ≤ lines.length) :
    ((lines.drop start).take count).zipIdx (start + 1) =
      (List.range' (start + 1) count).map fun k => (lines.getD (k - 1) [], k) := by
  apply List.ext_getElem
  · simp
    omega
  · intro i inside _
    have bound : start + i < lines.length := by
      simp at inside
      omega
    have same : start + 1 + i - 1 = start + i := by omega
    simp [same, bound]

theorem ofHeader_calls {lines : List Line} (free : ∀ line ∈ lines, '\n' ∉ line) {idx : Nat}
    (inside : idx < lines.length) (header : FunctionHeader) (decorators : List (List Char))
    (scope : Scope) (owner : Owner) {t : Container} (named : t.name = owner.typeName) :
    (Extracted.ofHeader lines idx header decorators scope owner).calls =
      (Extracted.ofHeader lines idx header decorators scope owner).info.callsByLine lines
        owner.filePath t := by
  have front := le_blockEnd lines idx (indentWidth header.indent)
  have back := blockEnd_lt_length inside (indentWidth header.indent)
  have count : blockEnd lines idx (indentWidth header.indent) + 1 + 1 - (idx + 1) =
      blockEnd lines idx (indentWidth header.indent) + 1 - idx := by omega
  dsimp only [Extracted.ofHeader, Member.callsByLine, Member.caller]
  rw [callSites_bodyText free, zipIdx_window (by omega), List.flatMap_map, count, named]

theorem members_calls {lines : List Line} (free : ∀ line ∈ lines, '\n' ∉ line) (first last : Nat)
    (scope : Scope) (owner : Owner) {t : Container} (named : t.name = owner.typeName) :
    (members lines first last scope owner).flatMap (·.calls) =
      ((members lines first last scope owner).map (·.info)).flatMap fun m =>
        m.callsByLine lines owner.filePath t := by
  rw [List.flatMap_map]
  apply List.flatMap_congr
  intro m member
  obtain ⟨idx, line, header, -, -, found, -, -, rfl⟩ := exists_header_of_mem_members member
  have inside : idx < lines.length := (List.getElem?_eq_some_iff.mp found).1
  exact ofHeader_calls free inside header _ scope owner named

theorem classes_calls {lines : List Line} (free : ∀ line ∈ lines, '\n' ∉ line) (path : String) :
    (Source.classes lines path).flatMap (·.calls) =
      ((Source.classes lines path).map (·.info)).flatMap fun t =>
        t.members.flatMap fun m => m.callsByLine lines path t := by
  rw [List.flatMap_map]
  apply List.flatMap_congr
  intro c declared
  obtain ⟨idx, line, header, -, -, rfl⟩ := mem_classes_iff.mp declared
  exact members_calls free _ _ .classBody _ rfl

theorem fileContainer?_calls {lines : List Line} (free : ∀ line ∈ lines, '\n' ∉ line)
    (owner : Owner) :
    (fileFunctions lines owner).flatMap (·.calls) =
      (fileContainer? lines owner.typeName (fileFunctions lines owner)).toList.flatMap fun t =>
        t.members.flatMap fun m => m.callsByLine lines owner.filePath t := by
  cases found : fileContainer? lines owner.typeName (fileFunctions lines owner) with
  | none =>
    rw [fileContainer?_eq_none_iff.mp found]
    rfl
  | some t =>
    obtain ⟨named, -, -, -, functions⟩ := fileContainer?_fields found
    rw [Option.toList_some, List.flatMap_singleton, functions]
    exact members_calls free _ _ .file owner named

theorem analyze_calls_by_line (path base content : String) :
    (analyze path base content).calls =
      ((analyze path base content).inventory.classes ++
        (analyze path base content).inventory.module?.toList).flatMap fun t =>
          t.members.flatMap fun m => m.callsByLine (sourceLines content) path t := by
  have free := sourceLines_no_feed content
  rw [analyze_calls, analyze_classes, analyze_module?, List.flatMap_append, classes_calls free,
    fileContainer?_calls free (fileOwner path)]
  rfl

end Outline
