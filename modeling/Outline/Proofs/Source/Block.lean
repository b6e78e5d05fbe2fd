import Mathlib.Data.List.TakeWhile
import Outline.Source.Block

namespace Outline.Source

open Outline.Text

theorem blockEnd_of_lt {lines : List Line} {start : Nat} (inside : start < lines.length)
    (indent : Nat) :
    blockEnd lines start indent =
      start + (lines.drop (start + 1)).findIdx (closesBlock indent) := by
  simp only [blockEnd, inside, if_true, List.takeWhile_eq_take_findIdx_not, Bool.not_not,
    List.length_take]
  rw [Nat.min_eq_left List.findIdx_le_length]

theorem le_blockEnd (lines : List Line) (start indent : Nat) :
    start ≤ blockEnd lines start indent := by
  unfold blockEnd
  split <;> omega

theorem blockEnd_lt_length {lines : List Line} {start : Nat} (inside : start < lines.length)
    (indent : Nat) : blockEnd lines start indent < lines.length := by
  have bound : (lines.drop (start + 1)).findIdx (closesBlock indent) ≤
      (lines.drop (start + 1)).length := List.findIdx_le_length
  rw [List.length_drop] at bound
  rw [blockEnd_of_lt inside]
  omega

theorem not_closesBlock_of_le_blockEnd {lines : List Line} {start indent k : Nat} {line : Line}
    (found : lines[k]? = some line) (after : start < k) (within : k ≤ blockEnd lines start indent) :
    closesBlock indent line = false := by
  have bound : k < lines.length := (List.getElem?_eq_some_iff.mp found).1
  rw [blockEnd_of_lt (by omega)] at within
  have before : k - (start + 1) < (lines.drop (start + 1)).findIdx (closesBlock indent) := by omega
  have unclosed := List.not_of_lt_findIdx before
  have same : start + 1 + (k - (start + 1)) = k := by omega
  simp only [List.getElem_drop, same] at unclosed
  rw [(List.getElem?_eq_some_iff.mp found).2] at unclosed
  simpa using unclosed

theorem closesBlock_after_blockEnd {lines : List Line} {start indent : Nat} {line : Line}
    (inside : start < lines.length)
    (found : lines[blockEnd lines start indent + 1]? = some line) :
    closesBlock indent line = true := by
  obtain ⟨bound, same⟩ := List.getElem?_eq_some_iff.mp found
  rw [blockEnd_of_lt inside] at bound
  have stops : (lines.drop (start + 1)).findIdx (closesBlock indent) <
      (lines.drop (start + 1)).length := by
    rw [List.length_drop]
    omega
  have closes := List.findIdx_getElem (w := stops)
  simp only [List.getElem_drop] at closes
  simp only [blockEnd_of_lt inside] at same
  rw [← same]
  convert closes using 3
  omega

theorem blockEnd_lt_of_closesBlock {lines : List Line} {start indent k : Nat} {line : Line}
    (found : lines[k]? = some line) (after : start < k) (closes : closesBlock indent line = true) :
    blockEnd lines start indent < k := by
  by_contra beyond
  have still := not_closesBlock_of_le_blockEnd found after (Nat.le_of_not_lt beyond)
  simp [closes] at still

theorem closesBlock_mono {indent width : Nat} {line : Line} (le : indent ≤ width)
    (closes : closesBlock indent line = true) : closesBlock width line = true := by
  simp only [closesBlock, Bool.and_eq_true, decide_eq_true_eq] at closes ⊢
  exact ⟨closes.1, by omega⟩

theorem blockEnd_le_blockEnd {lines : List Line} {start inner indent width : Nat}
    (below : inner < lines.length) (after : start ≤ inner)
    (within : inner ≤ blockEnd lines start indent) (deeper : indent ≤ width) :
    blockEnd lines inner width ≤ blockEnd lines start indent := by
  have last := blockEnd_lt_length below width
  cases found : lines[blockEnd lines start indent + 1]? with
  | none =>
    have short := List.getElem?_eq_none_iff.mp found
    omega
  | some line =>
    have closes := closesBlock_mono deeper (closesBlock_after_blockEnd (by omega) found)
    have ends : blockEnd lines inner width < blockEnd lines start indent + 1 :=
      blockEnd_lt_of_closesBlock found (by omega) closes
    omega

def lineAt (lines : List Line) (number : Nat) : Line := lines.getD (number - 1) []

/-- The lines from `start` to `last`, counted from 1, are a header and its block: each line behind
the header is blank or indented deeper, and the line behind the last one, if there is one, is
neither. -/
structure IsExtent (lines : List Line) (start last : Nat) : Prop where
  bounds : 1 ≤ start ∧ start ≤ last ∧ last ≤ lines.length
  body : ∀ k, start < k → k ≤ last →
    allBlank (lineAt lines k) = true ∨
      indentWidth (lineAt lines start) < indentWidth (lineAt lines k)
  stop : last = lines.length ∨
    allBlank (lineAt lines (last + 1)) = false ∧
      indentWidth (lineAt lines (last + 1)) ≤ indentWidth (lineAt lines start)

theorem lineAt_eq {lines : List Line} {k : Nat} {line : Line} (found : lines[k]? = some line) :
    lineAt lines (k + 1) = line := by
  rw [lineAt, Nat.add_sub_cancel, List.getD_eq_getElem?_getD, found, Option.getD_some]

theorem IsExtent.not_lt {lines : List Line} {start last other : Nat}
    (first : IsExtent lines start last) (second : IsExtent lines start other) :
    ¬ last < other := by
  intro shorter
  have inside := second.bounds
  have reached := first.bounds
  rcases first.stop with whole | ⟨solid, shallow⟩
  · omega
  · rcases second.body (last + 1) (by omega) (by omega) with blank | deeper
    · rw [solid] at blank
      cases blank
    · omega

theorem IsExtent.unique {lines : List Line} {start last other : Nat}
    (first : IsExtent lines start last) (second : IsExtent lines start other) : last = other := by
  have notShorter := first.not_lt second
  have notLonger := second.not_lt first
  omega

theorem isExtent_blockEnd {lines : List Line} {start : Nat} {header : Line}
    (found : lines[start]? = some header) :
    IsExtent lines (start + 1) (blockEnd lines start (indentWidth header) + 1) := by
  have inside : start < lines.length := (List.getElem?_eq_some_iff.mp found).1
  have front := le_blockEnd lines start (indentWidth header)
  have back := blockEnd_lt_length inside (indentWidth header)
  refine ⟨by omega, ?_, ?_⟩
  · intro k after within
    have listed : k - 1 < lines.length := by omega
    have next : lines[k - 1]? = some lines[k - 1] := List.getElem?_eq_getElem listed
    have unclosed := not_closesBlock_of_le_blockEnd next (by omega)
      (show k - 1 ≤ blockEnd lines start (indentWidth header) by omega)
    have number : k - 1 + 1 = k := by omega
    have same := lineAt_eq next
    rw [number] at same
    rw [same, lineAt_eq found]
    rw [closesBlock, Bool.and_eq_false_iff, Bool.not_eq_false', decide_eq_false_iff_not] at unclosed
    rcases unclosed with blank | deeper
    · exact .inl blank
    · exact .inr (Nat.lt_of_not_le deeper)
  · cases behind : lines[blockEnd lines start (indentWidth header) + 1]? with
    | none =>
      have short := List.getElem?_eq_none_iff.mp behind
      left
      omega
    | some line =>
      have closes := closesBlock_after_blockEnd inside behind
      rw [closesBlock, Bool.and_eq_true, Bool.not_eq_true', decide_eq_true_eq] at closes
      right
      rw [lineAt_eq behind, lineAt_eq found]
      exact closes

theorem isExtent_iff {lines : List Line} {start : Nat} {header : Line}
    (found : lines[start]? = some header) (last : Nat) :
    IsExtent lines (start + 1) last ↔ last = blockEnd lines start (indentWidth header) + 1 := by
  have extent := isExtent_blockEnd found
  constructor
  · intro other
    exact other.unique extent
  · rintro rfl
    exact extent

theorem blockEnd_eq_self_iff {lines : List Line} {start : Nat} {next : Line}
    (found : lines[start + 1]? = some next) (solid : allBlank next = false) (indent : Nat) :
    blockEnd lines start indent = start ↔ indentWidth next ≤ indent := by
  have closes : closesBlock indent next = true ↔ indentWidth next ≤ indent := by
    simp [closesBlock, solid]
  rw [← closes]
  constructor
  · intro alone
    have inside := (List.getElem?_eq_some_iff.mp found).1
    have behind : lines[blockEnd lines start indent + 1]? = some next := by
      rw [alone]
      exact found
    exact closesBlock_after_blockEnd (by omega) behind
  · intro stops
    have front := le_blockEnd lines start indent
    have back := blockEnd_lt_of_closesBlock found (Nat.lt_succ_self start) stops
    omega

end Outline.Source
