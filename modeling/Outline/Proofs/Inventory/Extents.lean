import Outline.Proofs.Inventory.Analyze
import Outline.Proofs.Source.Block

namespace Outline

open Outline.Text Outline.Source

structure Container.Encloses (count : Nat) (t : Container) : Prop where
  range : 1 ≤ t.startLine ∧ t.startLine ≤ t.endLine ∧ t.endLine ≤ count
  member_range : ∀ m ∈ t.members,
    1 ≤ m.startLine ∧ m.startLine ≤ m.endLine ∧ m.endLine ≤ count
  member_within : ∀ m ∈ t.members, t.startLine ≤ m.startLine ∧ m.endLine ≤ t.endLine

/-- The line ranges of an inventory, within the lines 1 to `count`, form a laminar family. -/
structure Inventory.Laminar (count : Nat) (inventory : Inventory) : Prop where
  containers_enclose : ∀ t ∈ inventory.types, t.Encloses count
  method_behind_header : ∀ c ∈ inventory.classes, ∀ m ∈ c.members, c.startLine < m.startLine
  classes_apart : inventory.classes.Pairwise fun a b => a.endLine < b.startLine
  functions_apart : ∀ t ∈ inventory.types, t.kind = .moduleKind →
    t.members.Pairwise fun a b => a.endLine < b.startLine
  functions_outside_classes : ∀ t ∈ inventory.types, t.kind = .moduleKind →
    ∀ m ∈ t.members, ∀ c ∈ inventory.classes, m.endLine < c.startLine ∨ c.endLine < m.startLine
  methods_nested : ∀ c ∈ inventory.classes, c.members.Pairwise fun a b =>
    a.startLine < b.startLine ∧ (a.endLine < b.startLine ∨ b.endLine ≤ a.endLine)

theorem member_extent {lines : List Line} {first last : Nat} {scope : Scope} {owner : Owner}
    {m : Extracted} (member : m ∈ members lines first last scope owner) :
    first < m.info.startLine ∧ m.info.startLine ≤ last + 1 ∧
      m.info.startLine ≤ m.info.endLine ∧ m.info.endLine ≤ lines.length := by
  obtain ⟨idx, line, header, low, high, found, -, -, rfl⟩ := exists_header_of_mem_members member
  have inside : idx < lines.length := (List.getElem?_eq_some_iff.mp found).1
  have front := le_blockEnd lines idx (indentWidth header.indent)
  have back := blockEnd_lt_length inside (indentWidth header.indent)
  dsimp only [Extracted.ofHeader]
  omega

theorem method_within {lines : List Line} {start : Nat} {owner : Owner} {m : Extracted}
    (member : m ∈ classMembers lines (start + 1) (blockEnd lines start 0) owner) :
    m.info.endLine ≤ blockEnd lines start 0 + 1 := by
  obtain ⟨idx, line, header, low, high, found, -, -, rfl⟩ := exists_header_of_mem_members member
  have inside : idx < lines.length := (List.getElem?_eq_some_iff.mp found).1
  have nested := blockEnd_le_blockEnd inside (Nat.le_of_succ_le low) high
    (Nat.zero_le (indentWidth header.indent))
  exact Nat.succ_le_succ nested

theorem header_blocks_nested {lines : List Line} {i j : Nat} {line : Line}
    {header : FunctionHeader} (width : Nat) (before : i < j) (found : lines[j]? = some line)
    (parsed : FunctionHeader.parse? line = some header) :
    blockEnd lines i width < j ∨
      blockEnd lines j (indentWidth header.indent) ≤ blockEnd lines i width := by
  -- A header inside a block does not close it, so it is indented deeper.
  by_cases within : j ≤ blockEnd lines i width
  · right
    have unclosed := not_closesBlock_of_le_blockEnd found before within
    have deeper : ¬ indentWidth header.indent ≤ width := by
      rw [← FunctionHeader.closesBlock_iff parsed, unclosed]
      exact Bool.false_ne_true
    exact blockEnd_le_blockEnd (List.getElem?_eq_some_iff.mp found).1 (Nat.le_of_lt before)
      within (Nat.le_of_not_le deeper)
  · left
    omega

theorem methods_nested (lines : List Line) (first last : Nat) (owner : Owner) :
    (classMembers lines first last owner).Pairwise fun a b =>
      a.info.startLine < b.info.startLine ∧
        (a.info.endLine < b.info.startLine ∨ b.info.endLine ≤ a.info.endLine) := by
  apply members_pairwise
  rintro ⟨lineI, i⟩ ⟨lineJ, j⟩ a b before - foundJ madeA madeB
  obtain ⟨headerI, decoratorsI, -, -, rfl⟩ := memberAt?_eq_some madeA
  obtain ⟨headerJ, decoratorsJ, parsed, -, rfl⟩ := memberAt?_eq_some madeB
  refine ⟨Nat.succ_lt_succ before, ?_⟩
  rcases header_blocks_nested (indentWidth headerI.indent) before foundJ parsed with
    apart | within
  · exact .inl (Nat.succ_lt_succ apart)
  · exact .inr (Nat.succ_le_succ within)

theorem file_header_closesBlock {lines : List Line} {owner : Owner} {first : Nat}
    {entry : Line × Nat} {m : Extracted}
    (made : memberAt? lines first .file owner entry = some m) (indent : Nat) :
    closesBlock indent entry.1 = true := by
  obtain ⟨header, decorators, parsed, accepted, -⟩ := memberAt?_eq_some made
  rw [FunctionHeader.closesBlock_iff parsed, Scope.accepts_file.mp accepted]
  exact Nat.zero_le indent

theorem functions_apart (lines : List Line) (owner : Owner) :
    (fileFunctions lines owner).Pairwise fun a b => a.info.endLine < b.info.startLine := by
  apply members_pairwise
  rintro ⟨lineI, i⟩ ⟨lineJ, j⟩ a b before - foundJ madeA madeB
  have closes := file_header_closesBlock madeB
  obtain ⟨headerI, decoratorsI, -, -, rfl⟩ := memberAt?_eq_some madeA
  obtain ⟨headerJ, decoratorsJ, -, -, rfl⟩ := memberAt?_eq_some madeB
  have ends := blockEnd_lt_of_closesBlock foundJ before (closes (indentWidth headerI.indent))
  exact Nat.succ_lt_succ ends

theorem classes_apart (lines : List Line) (path : String) :
    (Source.classes lines path).Pairwise fun a b => a.info.endLine < b.info.startLine := by
  unfold Source.classes
  rw [List.pairwise_filterMap]
  refine (zipIdx_increasing lines 0).imp_of_mem ?_
  rintro ⟨lineI, i⟩ ⟨lineJ, j⟩ - atJ before a madeA b madeB
  obtain ⟨headerI, -, rfl⟩ := Option.map_eq_some_iff.mp madeA
  obtain ⟨headerJ, parsed, rfl⟩ := Option.map_eq_some_iff.mp madeB
  have ends := blockEnd_lt_of_closesBlock (List.mk_mem_zipIdx_iff_getElem?.mp atJ) before
    (ClassHeader.closesBlock parsed 0)
  exact Nat.succ_lt_succ ends

theorem function_outside_class {lines : List Line} {path : String} {owner : Owner} {m : Extracted}
    {c : ExtractedClass} (member : m ∈ fileFunctions lines owner)
    (declared : c ∈ Source.classes lines path) :
    m.info.endLine < c.info.startLine ∨ c.info.endLine < m.info.startLine := by
  obtain ⟨⟨lineI, i⟩, -, -, foundI, made⟩ := mem_members member
  have closes := file_header_closesBlock made 0
  obtain ⟨header, decorators, parsed, accepted, rfl⟩ := memberAt?_eq_some made
  obtain ⟨j, lineJ, classHeader, foundJ, parsedClass, rfl⟩ := mem_classes_iff.mp declared
  rcases Nat.lt_trichotomy i j with before | same | after
  · left
    exact Nat.succ_lt_succ
      (blockEnd_lt_of_closesBlock foundJ before (ClassHeader.closesBlock parsedClass _))
  · exfalso
    subst same
    rw [foundI] at foundJ
    cases foundJ
    rw [ClassHeader.not_function parsedClass] at parsed
    cases parsed
  · right
    exact Nat.succ_lt_succ (blockEnd_lt_of_closesBlock foundI after closes)

theorem fileContainer?_encloses {lines : List Line} {name : String} {owner : Owner}
    {t : Container} (found : fileContainer? lines name (fileFunctions lines owner) = some t) :
    t.Encloses (max 1 lines.length) := by
  obtain ⟨-, -, starts, ends, functions⟩ := fileContainer?_fields found
  have inner : ∀ m ∈ t.members,
      1 ≤ m.startLine ∧ m.startLine ≤ m.endLine ∧ m.endLine ≤ lines.length := by
    rw [functions]
    intro m member
    obtain ⟨function, inside, rfl⟩ := List.mem_map.mp member
    have extent := member_extent inside
    omega
  refine ⟨by omega, ?_, ?_⟩
  · intro m member
    have extent := inner m member
    omega
  · intro m member
    have extent := inner m member
    omega

/-- A class spans the block of its header, and its members are the methods in that block. -/
theorem class_extent {lines : List Line} {path : String} {c : ExtractedClass}
    (declared : c ∈ Source.classes lines path) :
    ∃ start owner, start < lines.length ∧ c.info.startLine = start + 1 ∧
      c.info.endLine = blockEnd lines start 0 + 1 ∧
      c.info.members =
        (classMembers lines (start + 1) (blockEnd lines start 0) owner).map (·.info) := by
  obtain ⟨idx, line, header, found, -, rfl⟩ := mem_classes_iff.mp declared
  exact ⟨idx, _, (List.getElem?_eq_some_iff.mp found).1, rfl, rfl, rfl⟩

theorem class_encloses {lines : List Line} {path : String} {c : ExtractedClass}
    (declared : c ∈ Source.classes lines path) :
    c.info.Encloses (max 1 lines.length) ∧
      ∀ m ∈ c.info.members, c.info.startLine < m.startLine := by
  obtain ⟨start, owner, inside, starts, ends, methods⟩ := class_extent declared
  have front := le_blockEnd lines start 0
  have back := blockEnd_lt_length inside 0
  have inner : ∀ m ∈ c.info.members, start + 1 < m.startLine ∧ m.startLine ≤ m.endLine ∧
      m.endLine ≤ blockEnd lines start 0 + 1 := by
    rw [methods]
    intro m member
    obtain ⟨method, among, rfl⟩ := List.mem_map.mp member
    have extent := member_extent among
    exact ⟨extent.1, extent.2.2.1, method_within among⟩
  refine ⟨⟨by omega, ?_, ?_⟩, ?_⟩
  all_goals
    intro m member
    have extent := inner m member
    omega

theorem member_isExtent {lines : List Line} {first last : Nat} {scope : Scope} {owner : Owner}
    {m : Extracted} (member : m ∈ members lines first last scope owner) (finish : Nat) :
    IsExtent lines m.info.startLine finish ↔ finish = m.info.endLine := by
  obtain ⟨idx, line, header, -, -, found, parsed, -, rfl⟩ := exists_header_of_mem_members member
  have extent := isExtent_iff found finish
  rw [← FunctionHeader.indentWidth_indent parsed] at extent
  exact extent

theorem class_isExtent {lines : List Line} {path : String} {c : ExtractedClass}
    (declared : c ∈ Source.classes lines path) (finish : Nat) :
    IsExtent lines c.info.startLine finish ↔ finish = c.info.endLine := by
  obtain ⟨idx, line, header, found, parsed, rfl⟩ := mem_classes_iff.mp declared
  have extent := isExtent_iff found finish
  rw [ClassHeader.indentWidth_eq_zero parsed] at extent
  exact extent

theorem analyze_laminar (path base content : String) :
    (analyze path base content).inventory.Laminar (max 1 (sourceLines content).length) where
  containers_enclose := by
    intro t member
    rcases mem_analyze_types.mp member with found | declared
    · rw [analyze_module?] at found
      exact fileContainer?_encloses found
    · rw [analyze_classes] at declared
      obtain ⟨c, inside, rfl⟩ := List.mem_map.mp declared
      exact (class_encloses inside).1
  method_behind_header := by
    rw [analyze_classes]
    intro t declared
    obtain ⟨c, inside, rfl⟩ := List.mem_map.mp declared
    exact (class_encloses inside).2
  classes_apart := by
    rw [analyze_classes, List.pairwise_map]
    exact classes_apart (sourceLines content) path
  functions_apart := by
    intro t member kind
    have found := module?_of_kind member kind
    rw [analyze_module?] at found
    rw [(fileContainer?_fields found).2.2.2.2, List.pairwise_map]
    exact functions_apart (sourceLines content) (fileOwner path)
  functions_outside_classes := by
    intro t member kind m inside c declared
    have found := module?_of_kind member kind
    rw [analyze_module?] at found
    rw [(fileContainer?_fields found).2.2.2.2] at inside
    rw [analyze_classes] at declared
    obtain ⟨function, among, rfl⟩ := List.mem_map.mp inside
    obtain ⟨extracted, listed, rfl⟩ := List.mem_map.mp declared
    exact function_outside_class among listed
  methods_nested := by
    rw [analyze_classes]
    intro t declared
    obtain ⟨c, inside, rfl⟩ := List.mem_map.mp declared
    obtain ⟨start, owner, -, -, -, methods⟩ := class_extent inside
    rw [methods, List.pairwise_map]
    exact methods_nested (sourceLines content) _ _ owner

theorem analyze_extents_exact (path base content : String) :
    (∀ c ∈ (analyze path base content).inventory.classes, ∀ last,
      IsExtent (sourceLines content) c.startLine last ↔ last = c.endLine) ∧
    ∀ t ∈ (analyze path base content).inventory.types, ∀ m ∈ t.members, ∀ last,
      IsExtent (sourceLines content) m.startLine last ↔ last = m.endLine := by
  constructor
  · rw [analyze_classes]
    intro t declared
    obtain ⟨c, inside, rfl⟩ := List.mem_map.mp declared
    exact class_isExtent inside
  · intro t listed m inside
    obtain ⟨first, last, scope, owner, extracted, among, rfl⟩ := exists_mem_members listed inside
    exact member_isExtent among

/-- A tab is as wide as four spaces, and an ideographic space on a line of its own closes nothing. -/
def tabbed : String := "class A:\n\tdef f(self):\n\u3000\n\t    x\n    y\nz\n"

theorem analyze_extents_exact_tabbed :
    (∀ last, IsExtent (sourceLines tabbed) 1 last ↔ last = 5) ∧
    ∀ last, IsExtent (sourceLines tabbed) 2 last ↔ last = 4 := by
  have listed : ∃ c ∈ (analyze "a.py" "" tabbed).inventory.classes,
      (c.startLine = 1 ∧ c.endLine = 5) ∧
        ∃ m ∈ c.members, m.startLine = 2 ∧ m.endLine = 4 := by
    decide +kernel
  obtain ⟨c, declared, ⟨classStart, classEnd⟩, m, inside, memberStart, memberEnd⟩ := listed
  obtain ⟨classes, members⟩ := analyze_extents_exact "a.py" "" tabbed
  have outer := classes c declared
  have inner := members c (mem_analyze_types.mpr (.inr declared)) m inside
  rw [classStart, classEnd] at outer
  rw [memberStart, memberEnd] at inner
  exact ⟨outer, inner⟩

end Outline
