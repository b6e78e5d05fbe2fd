import Outline.Proofs.Source.Padding
import Outline.Source.Class

namespace Outline.Source

open Outline.Text

theorem blockEnd_trimmed (lines : List Line) (start indent : Nat) :
    blockEnd (lines.map trimEnd) start indent = blockEnd lines start indent := by
  have same : (fun line => !closesBlock indent line) ∘ trimEnd =
      fun line => !closesBlock indent line := by
    funext line
    rw [Function.comp_apply, (closesBlock_ignoresPadding indent).trimmed]
  simp only [blockEnd, List.length_map, ← List.map_drop, List.takeWhile_map, same]

theorem trim_trimEnd (line : Line) : trim (trimEnd line) = trim line :=
  trim_ignoresPadding.trimmed line

theorem docFragments_trimmed (delimiter : List Char) (lines : List Line) :
    docFragments delimiter (lines.map trimEnd) = docFragments delimiter lines := by
  induction lines with
  | nil => rfl
  | cons line later ih => rw [List.map_cons, docFragments, docFragments, trim_trimEnd, ih]

theorem docstring?_trimmed (lines : List Line) (idx : Nat) :
    docstring? (lines.map trimEnd) idx = docstring? lines idx := by
  unfold docstring?
  rw [← List.map_drop]
  cases lines.drop idx with
  | nil => rfl
  | cons line later => simp only [List.map_cons, trim_trimEnd, docFragments_trimmed]

theorem no_feed_trimEnd {line : Line} (free : '\n' ∉ line) : '\n' ∉ trimEnd line := by
  obtain ⟨pad, -, same⟩ := trimEnd_pad line
  intro member
  apply free
  rw [same]
  exact List.mem_append_left _ member

theorem callSites_trimmed {lines : List Line} (free : ∀ line ∈ lines, '\n' ∉ line)
    (first last : Nat) (caller : Caller) :
    callSites (bodyText (lines.map trimEnd) first last) caller =
      callSites (bodyText lines first last) caller := by
  have trimmed : ∀ line ∈ lines.map trimEnd, '\n' ∉ line := by
    intro line member
    obtain ⟨whole, inside, rfl⟩ := List.mem_map.mp member
    exact no_feed_trimEnd (free whole inside)
  rw [callSites_bodyText trimmed, callSites_bodyText free, ← List.map_drop, ← List.map_take,
    List.zipIdx_map, List.flatMap_map]
  apply List.flatMap_congr
  intro entry _
  exact caller.lineSites_trimEnd entry.2 entry.1

section Scan

variable {lines : List Line} (free : ∀ line ∈ lines, '\n' ∉ line)

include free

theorem ofHeader_trimmed (idx : Nat) (header : FunctionHeader) (decorators : List (List Char))
    (scope : Scope) (owner : Owner) :
    Extracted.ofHeader (lines.map trimEnd) idx header decorators scope owner =
      Extracted.ofHeader lines idx header decorators scope owner := by
  simp only [Extracted.ofHeader, blockEnd_trimmed, docstring?_trimmed, callSites_trimmed free]

theorem membersFrom_trimmed (scope : Scope) (owner : Owner) (pending : List Decorator) (idx : Nat)
    (block : List Line) :
    membersFrom (lines.map trimEnd) scope owner pending idx (block.map trimEnd) =
      membersFrom lines scope owner pending idx block := by
  induction block generalizing pending idx with
  | nil => rfl
  | cons line rest ih =>
    simp only [List.map_cons, membersFrom, ih, ofHeader_trimmed free,
      Decorator.parse?_ignoresPadding.trimmed,
      FunctionHeader.parse?_ignoresPadding.trimmed]

theorem members_trimmed (first last : Nat) (scope : Scope) (owner : Owner) :
    members (lines.map trimEnd) first last scope owner = members lines first last scope owner := by
  rw [members, ← List.map_take, ← List.map_drop, membersFrom_trimmed free, members]

theorem fileFunctions_trimmed (owner : Owner) :
    fileFunctions (lines.map trimEnd) owner = fileFunctions lines owner := by
  rw [fileFunctions, members_trimmed free, List.length_map, fileFunctions]

theorem classes_trimmed (filePath : String) :
    classes (lines.map trimEnd) filePath = classes lines filePath := by
  have same (idx : Nat) (header : ClassHeader) :
      ExtractedClass.ofHeader (lines.map trimEnd) filePath idx header =
        ExtractedClass.ofHeader lines filePath idx header := by
    simp only [ExtractedClass.ofHeader, classMembers, blockEnd_trimmed, docstring?_trimmed,
      members_trimmed free]
  unfold classes
  rw [List.zipIdx_map, List.filterMap_map]
  apply List.filterMap_congr
  intro entry _
  simp only [Function.comp_apply, Prod.map_fst, Prod.map_snd, id_eq, funext (same _),
    ClassHeader.parse?_ignoresPadding.trimmed]

end Scan

theorem firstModules_ignoresPadding :
    IgnoresPadding [] fun line => modulesOf (firstStatement line) :=
  modulesOf_ignoresPadding.takeWhile _

theorem importsOfLines_trimmed (lines : List Line) :
    importsOfLines (lines.map trimEnd) = importsOfLines lines := by
  simp only [importsOfLines, List.flatMap_map, firstModules_ignoresPadding.trimmed]

theorem trimEnd_dropEnd {mark : Char} (blank : isBlank mark = true) (s : List Char) :
    trimEnd (dropEnd mark s) = trimEnd s := by
  rcases dropEnd_cases mark s with same | longer
  · rw [same]
  · have one : allBlank [mark] = true := by simp [allBlank, blank]
    nth_rewrite 2 [longer]
    rw [trimEnd_append one]

theorem lines_trimmed (text : List Char) :
    (LineIndex.ofText text).lines.map trimEnd = (pieces text).map trimEnd := by
  have same (piece : List Char) : trimEnd (lineOfPiece piece) = trimEnd piece := by
    rw [lineOfPiece, trimEnd_dropEnd (by decide), trimEnd_dropEnd (by decide)]
  simp only [LineIndex.ofText, List.map_map, Function.comp_def, same]

theorem importLines_trimmed (text : List Char) :
    ((pieces text).map importLine).map trimEnd = (pieces text).map trimEnd := by
  have same (piece : List Char) : trimEnd (importLine piece) = trimEnd piece := by
    unfold importLine
    split
    · rfl
    · rw [trimEnd_dropEnd (by decide), trimEnd_dropEnd (by decide)]
  simp only [List.map_map, Function.comp_def, same]

end Outline.Source
