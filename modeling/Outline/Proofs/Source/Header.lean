import Mathlib.Data.List.TakeWhile
import Outline.Proofs.Text.Basic
import Outline.Source.Header

namespace Outline.Source

open Outline.Text

theorem definition?_starts {s : List Char} {parts : List Char × List Char × Option (List Char)}
    (found : definition? s = some parts) : ∃ rest, s = 'd' :: rest := by
  unfold definition? at found
  obtain ⟨rest, starts, -⟩ := Option.bind_eq_some_iff.mp found
  exact ⟨_, after?_eq_some_iff.mp starts⟩

theorem async?_starts {s behind : List Char} (found : async? s = some behind) :
    ∃ rest, s = 'a' :: rest := by
  unfold async? at found
  obtain ⟨rest, starts, -⟩ := Option.bind_eq_some_iff.mp found
  exact ⟨_, after?_eq_some_iff.mp starts⟩

theorem isIndent_isBlank {c : Char} (indent : isIndent c = true) : isBlank c = true := by
  simp only [isIndent, Bool.or_eq_true, beq_iff_eq] at indent
  rcases indent with rfl | rfl <;> decide

theorem indentWidth_takeWhile (line : Line) :
    indentWidth (line.takeWhile isIndent) = indentWidth line := by
  simp only [indentWidth, List.takeWhile_idem]

section Function

variable {line : Line} {header : FunctionHeader}

theorem FunctionHeader.parse?_indent (found : FunctionHeader.parse? line = some header) :
    header.indent = line.takeWhile isIndent := by
  unfold FunctionHeader.parse? at found
  obtain ⟨⟨name, params, returns⟩, -, rfl⟩ := Option.map_eq_some_iff.mp found
  rfl

theorem FunctionHeader.parse?_code (found : FunctionHeader.parse? line = some header) :
    ∃ c rest, line.dropWhile isIndent = c :: rest ∧ (c = 'a' ∨ c = 'd') := by
  unfold FunctionHeader.parse? at found
  obtain ⟨parts, defined, -⟩ := Option.map_eq_some_iff.mp found
  cases asynchronous : async? (line.dropWhile isIndent) with
  | some behind =>
    obtain ⟨rest, same⟩ := async?_starts asynchronous
    exact ⟨'a', rest, same, .inl rfl⟩
  | none =>
    rw [asynchronous] at defined
    obtain ⟨rest, same⟩ := definition?_starts defined
    exact ⟨'d', rest, same, .inr rfl⟩

theorem FunctionHeader.not_allBlank (found : FunctionHeader.parse? line = some header) :
    allBlank line = false := by
  obtain ⟨c, rest, same, first⟩ := FunctionHeader.parse?_code found
  have member : c ∈ line := (List.dropWhile_suffix isIndent).subset (by rw [same]; simp)
  apply allBlank_eq_false_of_mem member
  rcases first with rfl | rfl <;> decide

theorem FunctionHeader.not_decorator (found : FunctionHeader.parse? line = some header) :
    Decorator.parse? line = none := by
  obtain ⟨c, rest, same, first⟩ := FunctionHeader.parse?_code found
  unfold Decorator.parse?
  rw [same]
  rcases first with rfl | rfl <;> rfl

theorem FunctionHeader.indentWidth_indent (found : FunctionHeader.parse? line = some header) :
    indentWidth header.indent = indentWidth line := by
  rw [FunctionHeader.parse?_indent found, indentWidth_takeWhile]

theorem FunctionHeader.closesBlock_iff (found : FunctionHeader.parse? line = some header)
    (indent : Nat) : closesBlock indent line = true ↔ indentWidth header.indent ≤ indent := by
  simp [closesBlock, FunctionHeader.not_allBlank found, FunctionHeader.indentWidth_indent found]

end Function

section Class

variable {line : Line} {header : ClassHeader}

theorem ClassHeader.parse?_starts (found : ClassHeader.parse? line = some header) :
    ∃ rest, line = 'c' :: rest := by
  unfold ClassHeader.parse? at found
  obtain ⟨rest, starts, -⟩ := Option.bind_eq_some_iff.mp found
  exact ⟨_, after?_eq_some_iff.mp starts⟩

theorem ClassHeader.not_function (found : ClassHeader.parse? line = some header) :
    FunctionHeader.parse? line = none := by
  cases other : FunctionHeader.parse? line with
  | none => rfl
  | some function =>
    exfalso
    obtain ⟨rest, rfl⟩ := ClassHeader.parse?_starts found
    obtain ⟨c, tail, same, first⟩ := FunctionHeader.parse?_code other
    have flush : ('c' :: rest).dropWhile isIndent = 'c' :: rest := rfl
    rw [flush] at same
    cases same
    simp at first

theorem ClassHeader.indentWidth_eq_zero (found : ClassHeader.parse? line = some header) :
    indentWidth line = 0 := by
  obtain ⟨rest, rfl⟩ := ClassHeader.parse?_starts found
  have flush : isIndent 'c' = false := by decide
  simp [indentWidth, flush, total]

theorem ClassHeader.closesBlock (found : ClassHeader.parse? line = some header) (indent : Nat) :
    closesBlock indent line = true := by
  have flush := ClassHeader.indentWidth_eq_zero found
  obtain ⟨rest, rfl⟩ := ClassHeader.parse?_starts found
  have solid : allBlank ('c' :: rest) = false :=
    allBlank_eq_false_of_mem List.mem_cons_self (by decide)
  simp [Source.closesBlock, solid, flush]

end Class

end Outline.Source
