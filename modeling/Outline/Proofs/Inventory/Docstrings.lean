import Outline.Proofs.Inventory.Analyze
import Outline.Proofs.Source.Block
import Outline.Proofs.Source.Docstring

namespace Outline

open Outline.Text Outline.Source

/-- The documentation string `text` opens the line behind the header of a declaration. If that line
is indented deeper than the header, it lies in the range of the declaration; else the range is the
line of the header alone. -/
def Documents (lines : List Line) (startLine endLine : Nat) (text : String) : Prop :=
  ∃ header opening, lines[startLine - 1]? = some header ∧ lines[startLine]? = some opening ∧
    docstring? lines startLine = some text.toList ∧
    if indentWidth header < indentWidth opening then startLine < endLine
    else endLine = startLine

structure Inventory.Documented (lines : List Line) (inventory : Inventory) : Prop where
  classes : ∀ c ∈ inventory.classes, ∀ text, c.docstring = some text →
    Documents lines c.startLine c.endLine text
  members : ∀ t ∈ inventory.types, ∀ m ∈ t.members, ∀ text, m.docstring = some text →
    Documents lines m.startLine m.endLine text

theorem documents_of_header {lines : List Line} {start : Nat} {header : Line} {d : List Char}
    (found : lines[start]? = some header) (documented : docstring? lines (start + 1) = some d) :
    Documents lines (start + 1) (blockEnd lines start (indentWidth header) + 1)
      (String.ofList d) := by
  obtain ⟨opening, behind, quotes, listed, leads⟩ := docstring?_opens documented
  have alone := blockEnd_eq_self_iff behind (not_allBlank_of_opens listed leads)
    (indentWidth header)
  have front := le_blockEnd lines start (indentWidth header)
  refine ⟨header, opening, by simpa using found, behind, by simpa using documented, ?_⟩
  split <;> omega

theorem member_documents {lines : List Line} {first last : Nat} {scope : Scope} {owner : Owner}
    {m : Extracted} (member : m ∈ members lines first last scope owner) {text : String}
    (documented : m.info.docstring = some text) :
    Documents lines m.info.startLine m.info.endLine text := by
  obtain ⟨idx, line, header, -, -, found, parsed, -, rfl⟩ := exists_header_of_mem_members member
  obtain ⟨d, held, rfl⟩ := Option.map_eq_some_iff.mp documented
  dsimp only [Extracted.ofHeader]
  rw [FunctionHeader.indentWidth_indent parsed]
  exact documents_of_header found held

theorem class_documents {lines : List Line} {path : String} {c : ExtractedClass}
    (declared : c ∈ Source.classes lines path) {text : String}
    (documented : c.info.docstring = some text) :
    Documents lines c.info.startLine c.info.endLine text := by
  obtain ⟨idx, line, header, found, parsed, rfl⟩ := mem_classes_iff.mp declared
  obtain ⟨d, held, rfl⟩ := Option.map_eq_some_iff.mp documented
  have placed := documents_of_header found held
  rw [ClassHeader.indentWidth_eq_zero parsed] at placed
  exact placed

theorem analyze_documented (path base content : String) :
    (analyze path base content).inventory.Documented (sourceLines content) where
  classes := by
    intro t declared text documented
    rw [analyze_classes] at declared
    obtain ⟨c, among, rfl⟩ := List.mem_map.mp declared
    exact class_documents among documented
  members := by
    intro t listed m inside text documented
    obtain ⟨first, last, scope, owner, extracted, among, rfl⟩ := exists_mem_members listed inside
    exact member_documents among documented

/-- A string behind a body of one line is taken for the documentation of that body. -/
theorem docstring_outside_body :
    (∃ c ∈ (analyze "a.py" "" "class A: pass\n\"\"\"x\"\"\"\n").inventory.classes,
      c.docstring = some "x" ∧ c.startLine = 1 ∧ c.endLine = 1) ∧
    (∃ t ∈ (analyze "a.py" "" "def f(): pass\n\"\"\"x\"\"\"\n").inventory.types, ∃ m ∈ t.members,
      m.docstring = some "x" ∧ m.startLine = 1 ∧ m.endLine = 1) ∧
    ∃ t ∈ (analyze "a.py" "" "class A:\n    def f(self): pass\n    '''x'''\n").inventory.types,
      ∃ m ∈ t.members, m.docstring = some "x" ∧ m.startLine = 2 ∧ m.endLine = 2 := by
  decide +kernel

end Outline
