import Outline.Proofs.Source.Parts
import Outline.Proofs.Source.Trimmed

namespace Outline.Source

open Outline.Text

theorem flatMap_pieces_append {α : Type} {read : Line → List α} (ignores : IgnoresPadding [] read)
    (a b : List Char) :
    (pieces (a ++ '\n' :: b)).flatMap read = (pieces a).flatMap read ++ (pieces b).flatMap read := by
  have feed : allBlank ['\n'] = true := by decide
  induction a using lines_induction with
  | nil =>
    rw [pieces_line (by simp), List.flatMap_cons, ignores.padded [] ['\n'] feed, ignores.empty]
    rfl
  | last line filled free =>
    rw [pieces_line free, pieces_last free filled, List.flatMap_cons, List.flatMap_singleton,
      ignores.padded line ['\n'] feed]
  | line line rest free ih =>
    rw [List.append_assoc, List.cons_append, pieces_line free, pieces_line free, List.flatMap_cons,
      List.flatMap_cons, ih, List.append_assoc]

theorem imports_eq (text : List Char) : imports text = importsOfLines (pieces text) := by
  rw [imports, ← importsOfLines_trimmed, importLines_trimmed, importsOfLines_trimmed]

theorem importsOfLines_lines (text : List Char) :
    importsOfLines (LineIndex.ofText text).lines = imports text := by
  rw [← importsOfLines_trimmed, lines_trimmed, importsOfLines_trimmed, imports_eq]

theorem imports_append (a b : List Char) :
    imports (a ++ '\n' :: b) = imports a ++ (imports b).filter (· ∉ imports a) := by
  simp only [imports_eq, importsOfLines, flatMap_pieces_append firstModules_ignoresPadding,
    eraseDups_append]

theorem dependencyRoots_append (xs ys : List (List Char)) :
    dependencyRoots (xs ++ ys) =
      dependencyRoots xs ++ (dependencyRoots ys).filter (· ∉ dependencyRoots xs) := by
  rw [dependencyRoots, List.map_append, List.filter_append, eraseDups_append]
  rfl

theorem rootOf_of_no_dot {root : List Char} (undotted : '.' ∉ root) : rootOf root = root := by
  rw [rootOf, List.takeWhile_eq_self_iff]
  intro c member
  simpa using ne_of_mem_of_not_mem member undotted

theorem dependencyRoots_dependencyRoots (xs : List (List Char)) :
    dependencyRoots (dependencyRoots xs) = dependencyRoots xs := by
  have roots : (dependencyRoots xs).map rootOf = dependencyRoots xs := by
    nth_rewrite 2 [← List.map_id (dependencyRoots xs)]
    apply List.map_congr_left
    intro root member
    exact rootOf_of_no_dot (of_mem_dependencyRoots member).2
  have filled : (dependencyRoots xs).filter (· ≠ []) = dependencyRoots xs := by
    rw [List.filter_eq_self]
    intro root member
    simpa using (of_mem_dependencyRoots member).1
  rw [dependencyRoots, roots, filled, eraseDups_of_nodup (dependencyRoots_nodup xs)]

theorem imports_compose :
    (∀ a b : List Char,
      imports (a ++ '\n' :: b) = imports a ++ (imports b).filter (· ∉ imports a)) ∧
    (∀ xs ys : List (List Char),
      dependencyRoots (xs ++ ys) =
        dependencyRoots xs ++ (dependencyRoots ys).filter (· ∉ dependencyRoots xs)) ∧
    (∀ xs : List (List Char), dependencyRoots (dependencyRoots xs) = dependencyRoots xs) ∧
    ∀ text : List Char, importsOfLines (LineIndex.ofText text).lines = imports text :=
  ⟨imports_append, dependencyRoots_append, dependencyRoots_dependencyRoots, importsOfLines_lines⟩

end Outline.Source
