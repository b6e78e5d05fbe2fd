import Outline.Proofs.Inventory.Analyze
import Outline.Proofs.Source.Parts

namespace Outline

open Outline.Text Outline.Source

/-- A text that says something: it is not empty, and white space is not around it. -/
structure IsFilled (s : String) : Prop where
  nonempty : s ≠ ""
  trimmed : IsTrimmed s.toList

theorem IsFilled.ofList {s : List Char} (filled : s ≠ []) (trimmed : IsTrimmed s) :
    IsFilled (String.ofList s) where
  nonempty := by simpa using filled
  trimmed := by rwa [String.toList_ofList]

def IsEntry (s : String) : Prop := IsFilled s ∧ ',' ∉ s.toList

theorem isEntry_of_mem_commaList {s : List Char} {entry : String}
    (member : entry ∈ (commaList s).map String.ofList) : IsEntry entry := by
  obtain ⟨text, listed, rfl⟩ := List.mem_map.mp member
  obtain ⟨filled, trimmed, whole⟩ := of_mem_commaList listed
  exact ⟨.ofList filled trimmed, by rwa [String.toList_ofList]⟩

theorem isFilled_of_docstring? {lines : List Line} {idx : Nat} {d : String}
    (found : (docstring? lines idx).map String.ofList = some d) : IsFilled d := by
  obtain ⟨text, read, rfl⟩ := Option.map_eq_some_iff.mp found
  obtain ⟨filled, trimmed⟩ := docstring?_parts read
  exact .ofList filled trimmed

structure Member.WellFormed (m : Member) : Prop where
  parameters : ∀ p ∈ m.parameters, IsEntry p
  returnType : IsFilled m.returnType ∧ ':' ∉ m.returnType.toList
  decorators : ∀ d ∈ m.decorators, d ≠ ""
  docstring : ∀ d, m.docstring = some d → IsFilled d
  signature : m.signature = m.name ++ "(" ++ ", ".intercalate m.parameters ++ ")"

theorem ofList_signature (name : List Char) (parameters : List (List Char)) :
    String.ofList (signature name parameters) =
      String.ofList name ++ "(" ++ ", ".intercalate (parameters.map String.ofList) ++ ")" := by
  rw [← String.toList_inj]
  have texts : (parameters.map String.ofList).map String.toList = parameters := by simp
  have marks : "(".toList = ['('] ∧ ", ".toList = [',', ' '] ∧ ")".toList = [')'] :=
    ⟨rfl, rfl, rfl⟩
  simp [signature, String.toList_intercalate, texts, marks]

theorem member_wellFormed {lines : List Line} {first last : Nat} {scope : Scope} {owner : Owner}
    {m : Extracted} (member : m ∈ members lines first last scope owner) :
    m.info.WellFormed ∧ m.info.kind = scope.memberKind := by
  obtain ⟨idx, line, header, -, -, -, parsed, -, rfl⟩ := exists_header_of_mem_members member
  obtain ⟨filled, trimmed, whole⟩ := returnType_parts parsed
  refine ⟨⟨?_, ?_, ?_, ?_, ?_⟩, rfl⟩
  · intro p listed
    exact isEntry_of_mem_commaList listed
  · exact ⟨.ofList filled trimmed, by rwa [Extracted.ofHeader, String.toList_ofList]⟩
  · intro d listed
    obtain ⟨name, among, rfl⟩ := List.mem_map.mp listed
    simpa using ne_nil_of_mem_decoratorNames among
  · intro d given
    exact isFilled_of_docstring? given
  · exact ofList_signature header.name (commaList header.params)

def ContainerKind.memberKind : ContainerKind → MemberKind
  | .classKind => .method
  | .moduleKind => .function

structure Container.WellFormed (t : Container) : Prop where
  fullName : t.fullName = t.name
  baseType : ∀ b, t.baseType = some b → IsEntry b
  interfaces : ∀ b ∈ t.interfaces, IsEntry b
  interfaces_nil : t.baseType = none → t.interfaces = []
  docstring : ∀ d, t.docstring = some d → IsFilled d
  members : ∀ m ∈ t.members, m.WellFormed ∧ m.kind = t.kind.memberKind

theorem class_wellFormed {lines : List Line} {path : String} {c : ExtractedClass}
    (declared : c ∈ Source.classes lines path) : c.info.WellFormed := by
  obtain ⟨idx, line, header, -, -, rfl⟩ := mem_classes_iff.mp declared
  constructor
  · rfl
  · intro b first
    exact isEntry_of_mem_commaList (List.mem_of_mem_head? first)
  · intro b later
    exact isEntry_of_mem_commaList (List.mem_of_mem_tail later)
  · intro none
    dsimp only [ExtractedClass.ofHeader] at none ⊢
    rw [List.head?_eq_none_iff.mp none, List.tail_nil]
  · intro d given
    exact isFilled_of_docstring? given
  · intro m listed
    obtain ⟨method, among, rfl⟩ := List.mem_map.mp listed
    exact member_wellFormed among

theorem fileContainer?_wellFormed {lines : List Line} {name : String} {owner : Owner}
    {t : Container} (found : fileContainer? lines name (fileFunctions lines owner) = some t) :
    t.WellFormed ∧ t.members ≠ [] ∧ t.baseType = none ∧ t.interfaces = [] := by
  unfold fileContainer? at found
  split at found
  · cases found
  · rename_i filled
    cases found
    refine ⟨⟨rfl, ?_, ?_, fun _ => rfl, ?_, ?_⟩, by simpa using filled, rfl, rfl⟩
    · rintro b ⟨⟩
    · rintro b ⟨⟩
    · intro d given
      obtain ⟨text, read, rfl⟩ := Option.map_eq_some_iff.mp given
      obtain ⟨idx, -, opened⟩ := Option.bind_eq_some_iff.mp read
      exact isFilled_of_docstring? (by rw [opened]; rfl)
    · intro m listed
      obtain ⟨function, among, rfl⟩ := List.mem_map.mp listed
      exact member_wellFormed among

/-- The form of an inventory. Only its first container may be that of the file, which then holds a
function and has no bases. -/
structure Inventory.WellFormed (i : Inventory) : Prop where
  containers : ∀ t ∈ i.types, t.WellFormed
  module_first : ∀ idx t, i.types[idx]? = some t → t.kind = .moduleKind → idx = 0
  module_plain : ∀ t ∈ i.types, t.kind = .moduleKind →
    t.members ≠ [] ∧ t.baseType = none ∧ t.interfaces = []
  imports_nodup : i.imports.Nodup
  imports : ∀ name ∈ i.imports, name ≠ "" ∧ ∀ c ∈ name.toList, IsModuleChar c
  dependencies_nodup : i.dependencies.Nodup
  dependencies : ∀ root ∈ i.dependencies, root ≠ "" ∧ '.' ∉ root.toList

theorem nodup_map_ofList {texts : List (List Char)} (distinct : texts.Nodup) :
    (texts.map String.ofList).Nodup :=
  List.Pairwise.map _ (fun _ _ other same => other (String.ofList_injective same)) distinct

theorem mem_classes_of_mem_tail {path base content : String} {t : Container}
    (later : t ∈ (analyze path base content).inventory.types.tail) :
    t ∈ (analyze path base content).inventory.classes := by
  rw [analyze_types_split] at later
  cases module : (analyze path base content).inventory.module? with
  | none =>
    rw [module] at later
    exact List.mem_of_mem_tail later
  | some m =>
    rw [module] at later
    exact later

theorem analyze_imports (path base content : String) :
    (analyze path base content).inventory.imports =
      (imports (dropByteOrderMark content.toList)).map String.ofList := rfl

theorem analyze_dependencies (path base content : String) :
    (analyze path base content).inventory.dependencies =
      (dependencyRoots (imports (dropByteOrderMark content.toList))).map String.ofList := rfl

theorem analyze_wellFormed (path base content : String) :
    (analyze path base content).inventory.WellFormed where
  containers := by
    intro t member
    rcases mem_analyze_types.mp member with found | declared
    · rw [analyze_module?] at found
      exact (fileContainer?_wellFormed found).1
    · rw [analyze_classes] at declared
      obtain ⟨c, listed, rfl⟩ := List.mem_map.mp declared
      exact class_wellFormed listed
  module_first := by
    intro idx t found kind
    cases idx with
    | zero => rfl
    | succ idx =>
      exfalso
      rw [← List.getElem?_tail] at found
      have declared := mem_classes_of_mem_tail (List.mem_of_getElem? found)
      have classKind := (List.mem_filter.mp declared).2
      simp [kind] at classKind
  module_plain := by
    intro t member kind
    have found := module?_of_kind member kind
    rw [analyze_module?] at found
    exact (fileContainer?_wellFormed found).2
  imports_nodup := by
    rw [analyze_imports]
    exact nodup_map_ofList (imports_nodup _)
  imports := by
    intro name member
    rw [analyze_imports] at member
    obtain ⟨text, listed, rfl⟩ := List.mem_map.mp member
    obtain ⟨filled, chars⟩ := of_mem_imports listed
    exact ⟨by simpa using filled, by rwa [String.toList_ofList]⟩
  dependencies_nodup := by
    rw [analyze_dependencies]
    exact nodup_map_ofList (dependencyRoots_nodup _)
  dependencies := by
    intro root member
    rw [analyze_dependencies] at member
    obtain ⟨text, listed, rfl⟩ := List.mem_map.mp member
    obtain ⟨filled, whole⟩ := of_mem_dependencyRoots listed
    exact ⟨by simpa using filled, by rwa [String.toList_ofList]⟩

end Outline
