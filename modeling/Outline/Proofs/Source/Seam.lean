import Outline.Proofs.Source.Block
import Outline.Proofs.Source.Member
import Outline.Source.Class

namespace Outline

def CallSite.shift (count : Nat) (c : CallSite) : CallSite := { c with line := c.line + count }

def Member.shift (count : Nat) (m : Member) : Member :=
  { m with startLine := m.startLine + count, endLine := m.endLine + count }

def Member.undocumented (m : Member) : Member := { m with docstring := none }

def Container.shift (count : Nat) (t : Container) : Container :=
  { t with
    startLine := t.startLine + count
    endLine := t.endLine + count
    members := t.members.map (·.shift count) }

def Container.undocumented (t : Container) : Container :=
  { t with docstring := none, members := t.members.map (·.undocumented) }

namespace Source

open Outline.Text

def Extracted.shift (count : Nat) (m : Extracted) : Extracted :=
  { info := m.info.shift count, calls := m.calls.map (·.shift count) }

def Extracted.undocumented (m : Extracted) : Extracted := { m with info := m.info.undocumented }

def ExtractedClass.shift (count : Nat) (c : ExtractedClass) : ExtractedClass :=
  { info := c.info.shift count, calls := c.calls.map (·.shift count) }

def ExtractedClass.undocumented (c : ExtractedClass) : ExtractedClass :=
  { c with info := c.info.undocumented }

theorem closesBlock_of_flush {line : Line} (solid : allBlank line = false)
    (flush : indentWidth line = 0) (indent : Nat) : closesBlock indent line = true := by
  simp [closesBlock, solid, flush]

section Parts

variable (above below : List Line)

theorem blockEnd_append_left {above : List Line} {first : Line} {start indent : Nat}
    (inside : start < above.length) (closes : closesBlock indent first = true)
    (rest : List Line) :
    blockEnd (above ++ first :: rest) start indent = blockEnd above start indent := by
  have longer : start < (above ++ first :: rest).length := by simp; omega
  have split : (above ++ first :: rest).drop (start + 1) =
      above.drop (start + 1) ++ first :: rest := List.drop_append_of_le_length inside
  rw [blockEnd_of_lt longer, blockEnd_of_lt inside, split, List.findIdx_append]
  split
  · rfl
  · rename_i unclosed
    have whole : (above.drop (start + 1)).findIdx (closesBlock indent) =
        (above.drop (start + 1)).length := by
      have bound : (above.drop (start + 1)).findIdx (closesBlock indent) ≤
          (above.drop (start + 1)).length := List.findIdx_le_length
      omega
    rw [whole, List.findIdx_cons, closes]
    simp

theorem blockEnd_append_right (start indent : Nat) :
    blockEnd (above ++ below) (above.length + start) indent =
      above.length + blockEnd below start indent := by
  have behind : (above ++ below).drop (above.length + start + 1) = below.drop (start + 1) := by
    rw [Nat.add_assoc, List.drop_length_add_append]
  by_cases inside : start < below.length
  · have longer : above.length + start < (above ++ below).length := by simp; omega
    rw [blockEnd_of_lt longer, blockEnd_of_lt inside, behind]
    omega
  · have beyond : ¬ above.length + start < (above ++ below).length := by simp; omega
    rw [blockEnd, if_neg beyond, blockEnd, if_neg inside]

theorem docstring?_append_right (idx : Nat) :
    docstring? (above ++ below) (above.length + idx) = docstring? below idx := by
  unfold docstring?
  rw [List.drop_length_add_append]

theorem bodyText_append_left {above : List Line} {last : Nat} (within : last < above.length)
    (first : Nat) (below : List Line) :
    bodyText (above ++ below) first last = bodyText above first last := by
  unfold bodyText
  by_cases order : first ≤ above.length
  · have fits : last + 1 - first ≤ (above.drop first).length := by
      rw [List.length_drop]
      omega
    rw [List.drop_append_of_le_length order, List.take_append_of_le_length fits]
  · have empty : last + 1 - first = 0 := by omega
    rw [empty, List.take_zero, List.take_zero]

theorem bodyText_append_right (first last : Nat) :
    bodyText (above ++ below) (above.length + first) (above.length + last) =
      bodyText below first last := by
  have count : above.length + last + 1 - (above.length + first) = last + 1 - first := by omega
  rw [bodyText, List.drop_length_add_append, count, bodyText]

theorem callSites_shift (body : List Char) (caller : Caller) (count : Nat) :
    callSites body { caller with firstLine := caller.firstLine + count } =
      (callSites body caller).map (·.shift count) := by
  simp only [callSites, List.map_map]
  apply List.map_congr_left
  intro call _
  have positive : 1 ≤ (LineIndex.ofText body).lineOf call.1 := Nat.le_max_left _ _
  have number : caller.firstLine + count + (LineIndex.ofText body).lineOf call.1 - 1 =
      caller.firstLine + (LineIndex.ofText body).lineOf call.1 - 1 + count := by omega
  simp only [Function.comp_apply, CallSite.shift, number]

theorem ofHeader_append_left {above : List Line} {first : Line} {idx : Nat}
    (inside : idx < above.length) (closes : ∀ indent, closesBlock indent first = true)
    (rest : List Line) (header : FunctionHeader) (decorators : List (List Char)) (scope : Scope)
    (owner : Owner) :
    (Extracted.ofHeader (above ++ first :: rest) idx header decorators scope owner).undocumented =
      (Extracted.ofHeader above idx header decorators scope owner).undocumented := by
  have ends := blockEnd_append_left inside (closes (indentWidth header.indent)) rest
  have within := blockEnd_lt_length inside (indentWidth header.indent)
  simp only [Extracted.undocumented, Extracted.ofHeader, Member.undocumented, ends,
    bodyText_append_left within]

theorem ofHeader_append_right (idx : Nat) (header : FunctionHeader)
    (decorators : List (List Char)) (scope : Scope) (owner : Owner) :
    Extracted.ofHeader (above ++ below) (above.length + idx) header decorators scope owner =
      (Extracted.ofHeader below idx header decorators scope owner).shift above.length := by
  have number (n : Nat) : above.length + n + 1 = n + 1 + above.length := by omega
  have caller := callSites_shift
    (bodyText below idx (blockEnd below idx (indentWidth header.indent)))
    { filePath := owner.filePath
      typeName := owner.typeName
      member := String.ofList header.name
      firstLine := idx + 1 } above.length
  simp only [Extracted.shift, Extracted.ofHeader, Member.shift, blockEnd_append_right,
    Nat.add_assoc above.length idx 1, docstring?_append_right, bodyText_append_right]
  simp only [← Nat.add_assoc, number, caller]

theorem memberAt?_append_left {above : List Line} {first : Line} {entry : Line × Nat}
    (inside : entry.2 < above.length) (closes : ∀ indent, closesBlock indent first = true)
    (rest : List Line) (start : Nat) (scope : Scope) (owner : Owner) :
    (memberAt? (above ++ first :: rest) start scope owner entry).map (·.undocumented) =
      (memberAt? above start scope owner entry).map (·.undocumented) := by
  have seen : (above ++ first :: rest).take entry.2 = above.take entry.2 :=
    List.take_append_of_le_length (Nat.le_of_lt inside)
  simp only [memberAt?, seen, Option.map_map, Function.comp_def, ofHeader_append_left inside closes]

/-- A member behind the seam, when the scan that reaches it holds no decorators there. -/
theorem memberAt?_append_right {above below : List Line} {start late idx : Nat}
    (decorators : decoratorRun (((above ++ below).take (above.length + idx)).drop start) =
      decoratorRun ((below.take idx).drop late))
    (line : Line) (scope : Scope) (owner : Owner) :
    memberAt? (above ++ below) start scope owner (line, above.length + idx) =
      (memberAt? below late scope owner (line, idx)).map (·.shift above.length) := by
  simp only [memberAt?, decorators, ofHeader_append_right, Option.map_map, Function.comp_def]

theorem numberedLines_append_left {above : List Line} {last : Nat} (within : last < above.length)
    (first : Nat) (below : List Line) :
    numberedLines (above ++ below) first last = numberedLines above first last := by
  rw [numberedLines, List.take_append_of_le_length within, numberedLines]

theorem zipIdx_shift (lines : List Line) (count first : Nat) :
    lines.zipIdx (count + first) =
      (lines.zipIdx first).map fun entry => (entry.1, count + entry.2) := by
  induction lines generalizing first with
  | nil => rfl
  | cons line rest ih => rw [List.zipIdx_cons, List.zipIdx_cons, List.map_cons, Nat.add_assoc, ih]

theorem numberedLines_append_right (first last : Nat) :
    numberedLines (above ++ below) (above.length + first) (above.length + last) =
      (numberedLines below first last).map fun entry => (entry.1, above.length + entry.2) := by
  have taken : (above ++ below).take (above.length + last + 1) = above ++ below.take (last + 1) := by
    rw [Nat.add_assoc, List.take_length_add_append]
  rw [numberedLines, taken, List.drop_length_add_append, zipIdx_shift, numberedLines]

theorem classMembers_append_left {above : List Line} {first : Line} {last : Nat}
    (within : last < above.length) (closes : ∀ indent, closesBlock indent first = true)
    (rest : List Line) (start : Nat) (owner : Owner) :
    (classMembers (above ++ first :: rest) start last owner).map (·.undocumented) =
      (classMembers above start last owner).map (·.undocumented) := by
  rw [classMembers, members_eq, numberedLines_append_left within, classMembers, members_eq,
    List.map_filterMap, List.map_filterMap]
  apply List.filterMap_congr
  intro entry member
  have inside : entry.2 < above.length := by
    have bound := (mem_numberedLines.mp member).2.1
    omega
  exact memberAt?_append_left inside closes rest start .classBody owner

theorem classMembers_append_right (first last : Nat) (owner : Owner) :
    classMembers (above ++ below) (above.length + first) (above.length + last) owner =
      (classMembers below first last owner).map (·.shift above.length) := by
  rw [classMembers, members_eq, numberedLines_append_right, List.filterMap_map, classMembers,
    members_eq, List.map_filterMap]
  apply List.filterMap_congr
  intro entry _
  apply memberAt?_append_right
  rw [List.take_length_add_append, List.drop_length_add_append]

theorem decoratorRun_append {above : List Line}
    (plain : ∀ line, above.getLast? = some line → Decorator.parse? line = none)
    (block : List Line) : decoratorRun (above ++ block) = decoratorRun block := by
  induction block using List.reverseRecOn with
  | nil =>
    rw [List.append_nil]
    rcases List.eq_nil_or_concat' above with rfl | ⟨front, line, rfl⟩
    · rfl
    · exact decoratorRun_concat_of_none front (plain line List.getLast?_concat)
  | append_singleton front line ih =>
    rw [← List.append_assoc]
    cases found : Decorator.parse? line with
    | some decorator =>
      rw [decoratorRun_concat_of_some _ found, decoratorRun_concat_of_some _ found, ih]
    | none => rw [decoratorRun_concat_of_none _ found, decoratorRun_concat_of_none _ found]

theorem class_append_left {above : List Line} {first : Line} {idx : Nat}
    (inside : idx < above.length) (closes : ∀ indent, closesBlock indent first = true)
    (rest : List Line) (path : String) (header : ClassHeader) :
    (ExtractedClass.ofHeader (above ++ first :: rest) path idx header).undocumented =
      (ExtractedClass.ofHeader above path idx header).undocumented := by
  have ends := blockEnd_append_left inside (closes 0) rest
  have methods := classMembers_append_left (blockEnd_lt_length inside 0) closes rest (idx + 1)
    { typeName := String.ofList header.name, filePath := path }
  -- Both parts of a method, its record and its calls, are read off the method without its docstring.
  have infos := congrArg (List.map (·.info)) methods
  have calls := congrArg (List.flatMap (·.calls)) methods
  simp only [List.map_map, List.flatMap_map, Function.comp_def, Extracted.undocumented] at infos calls
  simp only [ExtractedClass.undocumented, ExtractedClass.ofHeader, Container.undocumented, ends,
    List.map_map, Function.comp_def, infos, calls]

theorem class_append_right (path : String) (idx : Nat) (header : ClassHeader) :
    ExtractedClass.ofHeader (above ++ below) path (above.length + idx) header =
      (ExtractedClass.ofHeader below path idx header).shift above.length := by
  have number (n : Nat) : above.length + n + 1 = n + 1 + above.length := by omega
  simp only [ExtractedClass.shift, ExtractedClass.ofHeader, Container.shift, blockEnd_append_right,
    Nat.add_assoc above.length idx 1, docstring?_append_right, classMembers_append_right,
    List.map_map, List.flatMap_map, List.map_flatMap, Function.comp_def, Extracted.shift]
  simp only [← Nat.add_assoc, number]

end Parts

theorem fileFunctions_append {above : List Line} {first : Line} (rest : List Line) (owner : Owner)
    (closes : ∀ indent, closesBlock indent first = true)
    (plain : ∀ line, above.getLast? = some line → Decorator.parse? line = none) :
    ∃ front,
      fileFunctions (above ++ first :: rest) owner =
        front ++ (fileFunctions (first :: rest) owner).map (·.shift above.length) ∧
      front.map (·.undocumented) = (fileFunctions above owner).map (·.undocumented) := by
  -- The members of the upper part, as they are read where the lower part follows.
  refine ⟨above.zipIdx.filterMap (memberAt? (above ++ first :: rest) 0 .file owner), ?_, ?_⟩
  · have start : 0 + above.length = above.length + 0 := by omega
    rw [fileFunctions_eq, List.zipIdx_append, List.filterMap_append, start, zipIdx_shift,
      List.filterMap_map, fileFunctions_eq, List.map_filterMap]
    congr 1
    apply List.filterMap_congr
    intro entry _
    apply memberAt?_append_right
    rw [List.take_length_add_append, List.drop_zero, List.drop_zero, decoratorRun_append plain]
  · rw [fileFunctions_eq, List.map_filterMap, List.map_filterMap]
    apply List.filterMap_congr
    intro entry member
    have found := List.mem_zipIdx_iff_getElem?.mp member
    have inside : entry.2 < above.length := (List.getElem?_eq_some_iff.mp found).1
    exact memberAt?_append_left inside closes rest 0 .file owner

theorem classes_append {above : List Line} {first : Line} (rest : List Line) (path : String)
    (closes : ∀ indent, closesBlock indent first = true) :
    ∃ front,
      classes (above ++ first :: rest) path =
        front ++ (classes (first :: rest) path).map (·.shift above.length) ∧
      front.map (·.undocumented) = (classes above path).map (·.undocumented) := by
  refine ⟨above.zipIdx.filterMap fun entry =>
    (ClassHeader.parse? entry.1).map
      (ExtractedClass.ofHeader (above ++ first :: rest) path entry.2), ?_, ?_⟩
  · have start : 0 + above.length = above.length + 0 := by omega
    rw [classes, List.zipIdx_append, List.filterMap_append, start, zipIdx_shift, List.filterMap_map,
      classes, List.map_filterMap]
    congr 1
    apply List.filterMap_congr
    intro entry _
    have moved := funext (class_append_right above (first :: rest) path entry.2)
    simp only [Function.comp_def, Option.map_map, moved]
  · rw [classes, List.map_filterMap, List.map_filterMap]
    apply List.filterMap_congr
    intro entry member
    have found := List.mem_zipIdx_iff_getElem?.mp member
    have inside : entry.2 < above.length := (List.getElem?_eq_some_iff.mp found).1
    simp only [Option.map_map, Function.comp_def, class_append_left inside closes]

theorem parts_read_apart (above rest : List Line) (first : Line) (path : String) (owner : Owner)
    (solid : allBlank first = false) (flush : indentWidth first = 0) :
    (∃ front,
      classes (above ++ first :: rest) path =
        front ++ (classes (first :: rest) path).map (·.shift above.length) ∧
      front.map (·.undocumented) = (classes above path).map (·.undocumented)) ∧
    ((∀ line, above.getLast? = some line → Decorator.parse? line = none) →
      ∃ front,
        fileFunctions (above ++ first :: rest) owner =
          front ++ (fileFunctions (first :: rest) owner).map (·.shift above.length) ∧
        front.map (·.undocumented) = (fileFunctions above owner).map (·.undocumented)) := by
  have closes := closesBlock_of_flush solid flush
  exact ⟨classes_append rest path closes, fileFunctions_append rest owner closes⟩

/-- The first part leaves a string open, and the second begins with a decorator. -/
theorem parts_read_apart_open_string :
    ∃ classFront functionFront,
      classes (["class A:".toList, "  def f(self): g()".toList, "def h():".toList,
          "  '''open".toList] ++ ["@d".toList, "def k(): m()".toList, "'''".toList]) "a.py" =
        classFront ++
          (classes ["@d".toList, "def k(): m()".toList, "'''".toList] "a.py").map (·.shift 4) ∧
      classFront.map (·.info.endLine) = [2] ∧
      fileFunctions (["class A:".toList, "  def f(self): g()".toList, "def h():".toList,
          "  '''open".toList] ++ ["@d".toList, "def k(): m()".toList, "'''".toList])
          ⟨"a", "a.py"⟩ =
        functionFront ++
          (fileFunctions ["@d".toList, "def k(): m()".toList, "'''".toList] ⟨"a", "a.py"⟩).map
            (·.shift 4) ∧
      functionFront.map (·.info.endLine) = [4] := by
  obtain ⟨⟨classFront, classesSplit, classesKept⟩, functions⟩ :=
    parts_read_apart ["class A:".toList, "  def f(self): g()".toList, "def h():".toList,
      "  '''open".toList] ["def k(): m()".toList, "'''".toList] "@d".toList "a.py" ⟨"a", "a.py"⟩
      (by decide) (by decide)
  obtain ⟨functionFront, functionsSplit, functionsKept⟩ := functions (by decide +kernel)
  refine ⟨classFront, functionFront, classesSplit, ?_, functionsSplit, ?_⟩
  · have ends := congrArg (List.map (·.info.endLine)) classesKept
    rw [List.map_map, List.map_map] at ends
    exact ends.trans (by decide +kernel)
  · have ends := congrArg (List.map (·.info.endLine)) functionsKept
    rw [List.map_map, List.map_map] at ends
    exact ends.trans (by decide +kernel)

end Source

end Outline
