import Outline.Proofs.Inventory.Analyze
import Outline.Proofs.Role.Folding

namespace Outline

open Outline.PathText Outline.Source Outline.Text

section Owner

variable (lines : List Line)

theorem members_info (first last : Nat) (scope : Scope) (owner other : Owner) :
    (members lines first last scope owner).map (·.info) =
      (members lines first last scope other).map (·.info) := by
  have same : ∀ entry, (memberAt? lines first scope owner entry).map (·.info) =
      (memberAt? lines first scope other entry).map (·.info) := by
    intro entry
    simp only [memberAt?, Option.map_map]
    rfl
  simp only [members_eq, List.map_filterMap, same]

theorem classes_info (path other : String) :
    (Source.classes lines path).map (·.info) = (Source.classes lines other).map (·.info) := by
  have same : ∀ idx header, (ExtractedClass.ofHeader lines path idx header).info =
      (ExtractedClass.ofHeader lines other idx header).info := by
    intro idx header
    simp only [ExtractedClass.ofHeader, classMembers]
    rw [members_info]
  simp only [Source.classes, List.map_filterMap, Option.map_map, Function.comp_def, same]

theorem fileContainer?_congr (name : String) {functions others : List Extracted}
    (same : functions.map (·.info) = others.map (·.info)) :
    fileContainer? lines name functions = fileContainer? lines name others := by
  have empty : functions.isEmpty = others.isEmpty := by
    rw [← List.isEmpty_map (f := Extracted.info), same, List.isEmpty_map]
  simp only [fileContainer?, empty, same]

end Owner

theorem analyze_types_congr {path other : String} (base beside content : String)
    (same : fileStem path.toList = fileStem other.toList) :
    (analyze path base content).inventory.types = (analyze other beside content).inventory.types := by
  have name : (fileOwner path).typeName = (fileOwner other).typeName := by
    simp only [fileOwner, same]
  have functions : (fileFunctions (sourceLines content) (fileOwner path)).map (·.info) =
      (fileFunctions (sourceLines content) (fileOwner other)).map (·.info) := members_info ..
  rw [analyze_types, analyze_types, name, classes_info _ path other,
    fileContainer?_congr _ _ functions]

def forwardSlashes (path : String) : String := String.ofList (normalize path.toList)

theorem fileInventory_forwardSlashes {path base : String}
    (alike : SpeltAlike path.toList base.toList) (size : Nat) (modules : List (List Char))
    (types : List Container) :
    fileInventory (forwardSlashes path) (forwardSlashes base) size modules types =
      { fileInventory path base size modules types with
        path := forwardSlashes path
        relativePath := forwardSlashes (fileInventory path base size modules types).relativePath } := by
  have relative := relativeTo_normalize alike
  have name := fileName_normalize path.toList
  simp only [fileInventory, forwardSlashes, Role.ofInventory, Role.Facts.ofInventory,
    String.toList_ofList, relative, name, Role.Facts.of_normalize]

theorem analyze_forwardSlashes (path base content : String) :
    let original := (analyze path base content).inventory
    let rewritten := (analyze (forwardSlashes path) (forwardSlashes base) content).inventory
    rewritten.fileName = original.fileName ∧
    rewritten.module?.map (·.name) = original.module?.map (·.name) ∧
    (SpeltAlike path.toList base.toList →
      rewritten =
        { original with
          path := forwardSlashes path
          relativePath := forwardSlashes original.relativePath }) ∧
    (¬ SpeltAlike path.toList base.toList →
      original.relativePath = path ∧ rewritten.relativePath.length < path.length) := by
  intro original rewritten
  have stem : fileStem (forwardSlashes path).toList = fileStem path.toList := by
    rw [forwardSlashes, String.toList_ofList, fileStem_normalize]
  have types : rewritten.types = original.types := analyze_types_congr _ _ _ stem
  refine ⟨?_, ?_, ?_, ?_⟩
  · change String.ofList (fileName (forwardSlashes path).toList) =
      String.ofList (fileName path.toList)
    rw [forwardSlashes, String.toList_ofList, fileName_normalize]
  · unfold Inventory.module?
    rw [types]
  · intro alike
    dsimp only [rewritten, original]
    rw [analyze_inventory, analyze_inventory path base content, types]
    exact fileInventory_forwardSlashes alike _ _ _
  · intro differs
    obtain ⟨whole, shorter⟩ := relativeTo_of_not_speltAlike differs
    constructor
    · change String.ofList (relativeTo path.toList base.toList) = path
      rw [whole, String.ofList_toList]
    · change (String.ofList (relativeTo (forwardSlashes path).toList
        (forwardSlashes base).toList)).length < path.length
      rw [forwardSlashes, forwardSlashes, String.toList_ofList, String.toList_ofList,
        String.length_ofList, ← String.length_toList]
      exact shorter

theorem analyze_forwardSlashes_mixed :
    SpeltAlike "C:\\repo\\tests/a.py".toList "C:\\repo".toList ∧
    (analyze "C:/repo/tests/a.py" "C:/repo" "def f(): g()").inventory =
      { (analyze "C:\\repo\\tests/a.py" "C:\\repo" "def f(): g()").inventory with
        path := "C:/repo/tests/a.py"
        relativePath := "tests/a.py" } := by
  have alike : SpeltAlike "C:\\repo\\tests/a.py".toList "C:\\repo".toList :=
    fun _ => ⟨"\\tests/a.py".toList, rfl, .inr (.inl rfl)⟩
  exact ⟨alike, (analyze_forwardSlashes "C:\\repo\\tests/a.py" "C:\\repo" "def f(): g()").2.2.1 alike⟩

/-- A path and a base with different slashes: the base is not recognised, so its directories count
for the role. -/
theorem slashes_are_not_interchangeable :
    forwardSlashes "C:\\tests\\util.py" = "C:/tests/util.py" ∧
    forwardSlashes "C:/tests" = "C:/tests" ∧
    (analyze "C:\\tests\\util.py" "C:/tests" "").inventory.relativePath =
      "C:\\tests\\util.py" ∧
    (analyze "C:/tests/util.py" "C:/tests" "").inventory.relativePath = "util.py" ∧
    (analyze "C:\\tests\\util.py" "C:/tests" "").inventory.role = .test ∧
    (analyze "C:/tests/util.py" "C:/tests" "").inventory.role = .unknown := by
  decide +kernel

end Outline
