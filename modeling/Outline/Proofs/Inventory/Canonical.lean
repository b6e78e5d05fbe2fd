import Outline.Proofs.Inventory.Analyze
import Outline.Proofs.Source.Canonical

namespace Outline

open Outline.Text Outline.Source

def Member.headerLine (m : Member) : Line := ("def " ++ m.signature ++ ":").toList

def Container.headerLine (t : Container) : Line :=
  match t.baseType with
  | some base =>
    ("class " ++ t.name ++ "(" ++ ", ".intercalate (base :: t.interfaces) ++ ")" ++ ":").toList
  | none => ("class " ++ t.name ++ ":").toList

/-- The line of a member is a function header with its name and its parameters. -/
def Member.Reread (m : Member) : Prop :=
  ∃ header, FunctionHeader.parse? m.headerLine = some header ∧ String.ofList header.name = m.name ∧
    (commaList header.params).map String.ofList = m.parameters

def Container.Reread (t : Container) : Prop :=
  ∃ header, ClassHeader.parse? t.headerLine = some header ∧ String.ofList header.name = t.name ∧
    ((commaList header.bases).map String.ofList).head? = t.baseType ∧
    ((commaList header.bases).map String.ofList).tail = t.interfaces

/-- All headers of an inventory are read again as they are reported. -/
structure Inventory.Canonical (i : Inventory) : Prop where
  members : ∀ t ∈ i.types, ∀ m ∈ t.members, m.Reread
  classes : ∀ t ∈ i.classes, t.Reread

theorem member_reread {lines : List Line} {first last : Nat} {scope : Scope} {owner : Owner}
    {m : Extracted} (member : m ∈ members lines first last scope owner) : m.info.Reread := by
  obtain ⟨idx, line, header, -, -, -, parsed, -, rfl⟩ := exists_header_of_mem_members member
  have reported (decorators : List (List Char)) :
      (Extracted.ofHeader lines idx header decorators scope owner).info.headerLine =
        ['d', 'e', 'f', ' '] ++ signature header.name (commaList header.params) ++ [':'] := by
    simp [Member.headerLine, Extracted.ofHeader]
  have read := FunctionHeader.parse?_signature parsed
  rw [← reported] at read
  refine ⟨_, read, rfl, ?_⟩
  rw [commaList_joined_commaList]
  rfl

theorem headerLine_ofHeader (lines : List Line) (path : String) (idx : Nat) (header : ClassHeader) :
    (ExtractedClass.ofHeader lines path idx header).info.headerLine =
      classLine header.name (commaList header.bases) := by
  dsimp only [Container.headerLine, ExtractedClass.ofHeader]
  cases bases : commaList header.bases with
  | nil => simp [classLine]
  | cons first others =>
    have marks : ", ".toList = [',', ' '] := rfl
    simp [classLine, joined, String.toList_intercalate, marks]

theorem class_reread {lines : List Line} {path : String} {c : ExtractedClass}
    (declared : c ∈ Source.classes lines path) : c.info.Reread := by
  obtain ⟨idx, line, header, -, parsed, rfl⟩ := mem_classes_iff.mp declared
  have read := ClassHeader.parse?_classLine parsed
  rw [← headerLine_ofHeader lines path idx] at read
  refine ⟨_, read, rfl, ?_, ?_⟩
  all_goals
    rw [commaList_joined_commaList]
    rfl

theorem analyze_canonical (path base content : String) :
    (analyze path base content).inventory.Canonical where
  members := by
    intro t listed m inside
    rcases mem_analyze_types.mp listed with found | declared
    · rw [analyze_module?] at found
      rw [(fileContainer?_fields found).2.2.2.2] at inside
      obtain ⟨function, among, rfl⟩ := List.mem_map.mp inside
      exact member_reread among
    · rw [analyze_classes] at declared
      obtain ⟨c, among, rfl⟩ := List.mem_map.mp declared
      obtain ⟨idx, line, header, -, -, rfl⟩ := mem_classes_iff.mp among
      obtain ⟨method, held, rfl⟩ := List.mem_map.mp inside
      exact member_reread held
  classes := by
    intro t declared
    rw [analyze_classes] at declared
    obtain ⟨c, among, rfl⟩ := List.mem_map.mp declared
    exact class_reread among

end Outline
