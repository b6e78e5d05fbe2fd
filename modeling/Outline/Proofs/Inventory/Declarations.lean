import Outline.Proofs.Inventory.Extents

namespace Outline

open Outline.Text Outline.Source

def Inventory.startingAt (inventory : Inventory) (number : Nat) : List Member :=
  (inventory.types.flatMap (·.members)).filter (·.startLine = number)

def Inventory.InClass (inventory : Inventory) (number : Nat) : Prop :=
  ∃ c ∈ inventory.classes, c.startLine ≤ number ∧ number ≤ c.endLine

instance (inventory : Inventory) (number : Nat) : Decidable (inventory.InClass number) :=
  inferInstanceAs (Decidable (∃ c ∈ inventory.classes, c.startLine ≤ number ∧ number ≤ c.endLine))

/-- The inventory lists the declarations of some lines, each one once. Lines count from 1. -/
structure Inventory.ListsDeclarations (lines : List Line) (inventory : Inventory) : Prop where
  classes : inventory.classes.map (fun c => (c.startLine, c.name)) =
    lines.zipIdx.filterMap fun entry =>
      (ClassHeader.parse? entry.1).map fun header => (entry.2 + 1, String.ofList header.name)
  functions : (inventory.module?.toList.flatMap (·.members)).map (fun m => (m.startLine, m.name)) =
    lines.zipIdx.filterMap fun entry =>
      ((FunctionHeader.parse? entry.1).filter (·.indent.isEmpty)).map fun header =>
        (entry.2 + 1, String.ofList header.name)
  module_absent : inventory.module? = none ↔
    ∀ line ∈ lines, ∀ header, FunctionHeader.parse? line = some header → header.indent ≠ []
  function_once : ∀ idx line header, lines[idx]? = some line →
    FunctionHeader.parse? line = some header → header.indent = [] →
    (inventory.startingAt (idx + 1)).map (·.name) = [String.ofList header.name]
  method_once : ∀ idx line header, lines[idx]? = some line →
    FunctionHeader.parse? line = some header → header.indent ≠ [] → inventory.InClass (idx + 1) →
    (inventory.startingAt (idx + 1)).map (·.name) = [String.ofList header.name]
  nested_elsewhere : ∀ idx line header, lines[idx]? = some line →
    FunctionHeader.parse? line = some header → header.indent ≠ [] →
    ¬ inventory.InClass (idx + 1) → inventory.startingAt (idx + 1) = []
  only_headers : ∀ number, inventory.startingAt number ≠ [] →
    ∃ idx line header, number = idx + 1 ∧ lines[idx]? = some line ∧
      FunctionHeader.parse? line = some header

theorem filter_eq_singleton {α : Type} {p : α → Bool} {l : List α} {a : α}
    (apart : l.Pairwise fun x y => p x = true → p y = false) (member : a ∈ l)
    (fits : p a = true) : l.filter p = [a] := by
  induction l with
  | nil => cases member
  | cons b rest ih =>
    obtain ⟨first, later⟩ := List.pairwise_cons.mp apart
    rcases List.mem_cons.mp member with rfl | among
    · have others : rest.filter p = [] := by
        rw [List.filter_eq_nil_iff]
        intro x inside
        simp [first x inside fits]
      rw [List.filter_cons_of_pos fits, others]
    · have unfit : ¬ p b = true := by
        intro holds
        rw [first a among holds] at fits
        cases fits
      rw [List.filter_cons_of_neg unfit]
      exact ih later among

theorem numberedLines_filter (lines : List Line) (first last : Nat) {idx : Nat} {line : Line}
    (found : lines[idx]? = some line) :
    (numberedLines lines first last).filter (fun entry => entry.2 = idx) =
      if first ≤ idx ∧ idx ≤ last then [(line, idx)] else [] := by
  split
  · rename_i range
    have apart : (numberedLines lines first last).Pairwise fun x y =>
        decide (x.2 = idx) = true → decide (y.2 = idx) = false := by
      refine (zipIdx_increasing _ first).imp ?_
      intro x y before
      simp only [decide_eq_true_eq, decide_eq_false_iff_not]
      omega
    exact filter_eq_singleton apart (mem_numberedLines.mpr ⟨range.1, range.2, found⟩) (by simp)
  · rename_i outside
    rw [List.filter_eq_nil_iff]
    intro entry member
    have range := mem_numberedLines.mp member
    simp only [decide_eq_true_eq]
    omega

theorem memberAt?_startLine {lines : List Line} {first : Nat} {scope : Scope} {owner : Owner}
    {entry : Line × Nat} {m : Extracted} (made : memberAt? lines first scope owner entry = some m) :
    m.info.startLine = entry.2 + 1 := by
  obtain ⟨header, decorators, -, -, rfl⟩ := memberAt?_eq_some made
  rfl

theorem members_startingAt (lines : List Line) (first last : Nat) (scope : Scope) (owner : Owner)
    {idx : Nat} {line : Line} (found : lines[idx]? = some line) :
    (((members lines first last scope owner).map (·.info)).filter
        (·.startLine = idx + 1)).map (·.name) =
      if first ≤ idx ∧ idx ≤ last then
        ((scope.header? line).map fun header => String.ofList header.name).toList
      else [] := by
  have selected : (members lines first last scope owner).filter
      ((fun m : Member => decide (m.startLine = idx + 1)) ∘ (·.info)) =
      ((numberedLines lines first last).filter fun entry => entry.2 = idx).filterMap
        (memberAt? lines first scope owner) := by
    rw [members_eq, List.filter_filterMap, List.filterMap_filter]
    apply List.filterMap_congr
    intro entry _
    cases made : memberAt? lines first scope owner entry with
    | none => simp
    | some m =>
      have starts := memberAt?_startLine made
      by_cases here : entry.2 = idx <;> simp [Option.filter, starts, here]
  rw [List.filter_map, selected, numberedLines_filter lines first last found]
  split
  · cases header : scope.header? line <;> simp [memberAt?, header, Extracted.ofHeader]
  · rfl

theorem class_startingAt {lines : List Line} {path : String} {c : ExtractedClass} {idx : Nat}
    {line : Line} (declared : c ∈ Source.classes lines path) (found : lines[idx]? = some line) :
    (c.info.members.filter (·.startLine = idx + 1)).map (·.name) =
      if c.info.startLine ≤ idx + 1 ∧ idx + 1 ≤ c.info.endLine then
        ((Scope.classBody.header? line).map fun header => String.ofList header.name).toList
      else [] := by
  obtain ⟨start, classLine, classHeader, foundClass, parsed, rfl⟩ := mem_classes_iff.mp declared
  have scan := members_startingAt lines (start + 1) (blockEnd lines start 0) .classBody
    { typeName := String.ofList classHeader.name, filePath := path } found
  by_cases same : start = idx
  · subst same
    obtain rfl : classLine = line := Option.some.inj (foundClass.symm.trans found)
    have none : Scope.classBody.header? classLine = none := by
      rw [Scope.header?, ClassHeader.not_function parsed]
      rfl
    rw [none] at scan ⊢
    simpa [ExtractedClass.ofHeader, classMembers] using scan
  · have range : start + 1 ≤ idx + 1 ∧ idx + 1 ≤ blockEnd lines start 0 + 1 ↔
        start + 1 ≤ idx ∧ idx ≤ blockEnd lines start 0 := by omega
    simpa only [ExtractedClass.ofHeader, classMembers, range] using scan

theorem flatMap_ite {α β : Type} (p : α → Prop) [DecidablePred p] (l : List α) (x : List β) :
    (l.flatMap fun a => if p a then x else []) = (l.filter p).flatMap fun _ => x := by
  induction l with
  | nil => rfl
  | cons a rest ih => by_cases fits : p a <;> simp [fits, ih]

theorem classes_startingAt (lines : List Line) (path : String) {idx : Nat} {line : Line}
    (found : lines[idx]? = some line) :
    ((((Source.classes lines path).map (·.info)).flatMap (·.members)).filter
        (·.startLine = idx + 1)).map (·.name) =
      if ∃ c ∈ (Source.classes lines path).map (·.info),
          c.startLine ≤ idx + 1 ∧ idx + 1 ≤ c.endLine then
        ((Scope.classBody.header? line).map fun header => String.ofList header.name).toList
      else [] := by
  have each : ((((Source.classes lines path).map (·.info)).flatMap (·.members)).filter
      (·.startLine = idx + 1)).map (·.name) =
      (Source.classes lines path).flatMap fun c =>
        (c.info.members.filter (·.startLine = idx + 1)).map (·.name) := by
    rw [List.flatMap_map, List.filter_flatMap, List.map_flatMap]
  rw [each, List.flatMap_congr fun c declared => class_startingAt declared found, flatMap_ite]
  split
  · rename_i inside
    obtain ⟨t, listed, range⟩ := inside
    obtain ⟨c, declared, rfl⟩ := List.mem_map.mp listed
    have apart : (Source.classes lines path).Pairwise fun a b =>
        decide (a.info.startLine ≤ idx + 1 ∧ idx + 1 ≤ a.info.endLine) = true →
          decide (b.info.startLine ≤ idx + 1 ∧ idx + 1 ≤ b.info.endLine) = false := by
      refine (classes_apart lines path).imp ?_
      intro a b before
      simp only [decide_eq_true_eq, decide_eq_false_iff_not]
      omega
    rw [filter_eq_singleton apart declared (by simpa using range), List.flatMap_singleton]
  · rename_i outside
    have none : (Source.classes lines path).filter (fun c =>
        decide (c.info.startLine ≤ idx + 1 ∧ idx + 1 ≤ c.info.endLine)) = [] := by
      rw [List.filter_eq_nil_iff]
      intro c declared
      rw [decide_eq_true_eq]
      exact fun range => outside ⟨c.info, List.mem_map_of_mem declared, range⟩
    rw [none]
    rfl

/-- All members that begin in one line, by name: a function in the first column, or, inside a class,
a method. -/
theorem analyze_startingAt (path base content : String) {idx : Nat} {line : Line}
    (found : (sourceLines content)[idx]? = some line) :
    ((analyze path base content).inventory.startingAt (idx + 1)).map (·.name) =
      ((Scope.file.header? line).map fun header => String.ofList header.name).toList ++
        if (analyze path base content).inventory.InClass (idx + 1) then
          ((Scope.classBody.header? line).map fun header => String.ofList header.name).toList
        else [] := by
  have inside : idx < (sourceLines content).length := (List.getElem?_eq_some_iff.mp found).1
  have functions := members_startingAt (sourceLines content) 0 ((sourceLines content).length - 1)
    .file (fileOwner path) found
  rw [if_pos ⟨Nat.zero_le _, by omega⟩] at functions
  have methods := classes_startingAt (sourceLines content) path found
  rw [Inventory.startingAt, analyze_types_split, List.flatMap_append, List.filter_append,
    List.map_append]
  simp only [Inventory.InClass, analyze_module?, analyze_classes, fileContainer?_members]
  rw [methods, ← functions]
  rfl

theorem member_at_header {path base content : String} {t : Container} {m : Member}
    (listed : t ∈ (analyze path base content).inventory.types) (member : m ∈ t.members) :
    ∃ idx line header, m.startLine = idx + 1 ∧ (sourceLines content)[idx]? = some line ∧
      FunctionHeader.parse? line = some header := by
  have scanned : ∃ first last scope owner,
      m ∈ (members (sourceLines content) first last scope owner).map (·.info) := by
    rcases mem_analyze_types.mp listed with found | declared
    · rw [analyze_module?] at found
      rw [(fileContainer?_fields found).2.2.2.2] at member
      exact ⟨_, _, .file, _, member⟩
    · rw [analyze_classes] at declared
      obtain ⟨c, inside, rfl⟩ := List.mem_map.mp declared
      obtain ⟨start, owner, -, -, -, methods⟩ := class_extent inside
      rw [methods] at member
      exact ⟨_, _, .classBody, owner, member⟩
  obtain ⟨first, last, scope, owner, among⟩ := scanned
  obtain ⟨extracted, inside, rfl⟩ := List.mem_map.mp among
  obtain ⟨idx, line, header, -, -, found, parsed, -, rfl⟩ := exists_header_of_mem_members inside
  exact ⟨idx, line, header, rfl, found, parsed⟩

theorem fileFunctions_listed (lines : List Line) (owner : Owner) :
    ((fileFunctions lines owner).map (·.info)).map (fun m => (m.startLine, m.name)) =
      lines.zipIdx.filterMap fun entry =>
        (Scope.file.header? entry.1).map fun header =>
          (entry.2 + 1, String.ofList header.name) := by
  rw [fileFunctions_eq, List.map_map, List.map_filterMap]
  apply List.filterMap_congr
  intro entry _
  cases header : Scope.file.header? entry.1 <;> simp [memberAt?, header, Extracted.ofHeader]

theorem analyze_listsDeclarations (path base content : String) :
    (analyze path base content).inventory.ListsDeclarations (sourceLines content) where
  classes := by
    rw [analyze_classes, List.map_map, Source.classes, List.map_filterMap]
    apply List.filterMap_congr
    rintro ⟨line, idx⟩ _
    cases header : ClassHeader.parse? line <;> simp [header, ExtractedClass.ofHeader]
  functions := by
    rw [analyze_module?, fileContainer?_members, fileFunctions_listed]
    rfl
  module_absent := by
    rw [analyze_module?, fileContainer?_eq_none_iff, fileFunctions_eq, List.filterMap_eq_nil_iff]
    constructor
    · intro none line member header parsed flush
      obtain ⟨idx, found⟩ := List.getElem?_of_mem member
      have silent := none (line, idx) (List.mk_mem_zipIdx_iff_getElem?.mpr found)
      have accepted := Scope.header?_eq_some_iff.mpr ⟨parsed, Scope.accepts_file.mpr flush⟩
      simp [memberAt?, accepted] at silent
    · intro indented entry member
      cases made : memberAt? (sourceLines content) 0 .file (fileOwner path) entry with
      | none => rfl
      | some m =>
        obtain ⟨header, decorators, parsed, accepted, -⟩ := memberAt?_eq_some made
        exact absurd (Scope.accepts_file.mp accepted)
          (indented entry.1 (List.fst_mem_of_mem_zipIdx member) header parsed)
  function_once := by
    intro idx line header found parsed flush
    rw [analyze_startingAt path base content found, Scope.header?_of_parse .file parsed,
      Scope.header?_of_parse .classBody parsed, flush]
    simp [Scope.accepts]
  method_once := by
    intro idx line header found parsed indented inside
    rw [analyze_startingAt path base content found, Scope.header?_of_parse .file parsed,
      Scope.header?_of_parse .classBody parsed, if_pos inside]
    simp [Scope.accepts, indented]
  nested_elsewhere := by
    intro idx line header found parsed indented outside
    have names := analyze_startingAt path base content found
    rw [Scope.header?_of_parse .file parsed, if_neg outside] at names
    simpa [Scope.accepts, indented] using names
  only_headers := by
    intro number nonempty
    obtain ⟨m, starting⟩ := List.exists_mem_of_ne_nil _ nonempty
    obtain ⟨listed, same⟩ := List.mem_filter.mp starting
    obtain ⟨t, container, member⟩ := List.mem_flatMap.mp listed
    obtain ⟨idx, line, header, starts, found, parsed⟩ := member_at_header container member
    exact ⟨idx, line, header, (of_decide_eq_true same).symm.trans starts, found, parsed⟩

end Outline
