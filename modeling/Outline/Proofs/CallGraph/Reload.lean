import Outline.CallGraph.Step
import Outline.Proofs.Inventory.Analyze
import Outline.Proofs.Report.Codec
import Outline.Proofs.Source.Block
import Outline.Proofs.Source.Call

namespace Outline

open Outline.Json Outline.Source Outline.Text

theorem length_pieces_le (text : List Char) : (pieces text).length ≤ text.length := by
  induction text using lines_induction with
  | nil => exact Nat.le_refl 0
  | last line some free =>
    have positive := List.length_pos_iff.mpr some
    rw [pieces_last free some, List.length_singleton]
    exact positive
  | line line rest free ih =>
    rw [pieces_line free, List.length_append, List.length_cons, List.length_cons]
    omega

theorem length_le_size_utf8Encode (cs : List Char) : cs.length ≤ cs.utf8Encode.size := by
  induction cs with
  | nil => exact Nat.zero_le _
  | cons c cs ih =>
    have positive := Char.utf8Size_pos c
    rw [List.utf8Encode_cons, ByteArray.size_append, List.length_cons, List.utf8Encode_singleton]
    simp only [List.size_toByteArray, String.length_utf8EncodeChar]
    omega

theorem length_sourceLines_le (content : String) :
    (sourceLines content).length ≤ content.utf8ByteSize := by
  have bytes := length_le_size_utf8Encode content.toList
  rw [String.utf8Encode_toList, String.size_toByteArray] at bytes
  have unmarked : (dropByteOrderMark content.toList).length ≤ content.toList.length := by
    cases content.toList with
    | nil => exact Nat.le_refl 0
    | cons c rest =>
      rw [dropByteOrderMark]
      split
      · exact Nat.le_succ _
      · exact Nat.le_refl _
  have cut := length_pieces_le (dropByteOrderMark content.toList)
  rw [sourceLines, LineIndex.ofText, List.length_map]
  omega

theorem line_le_of_mem_ofHeader {lines : List Line} (free : ∀ line ∈ lines, '\n' ∉ line)
    {idx : Nat} (inside : idx < lines.length) (header : FunctionHeader)
    (decorators : List (List Char)) (scope : Scope) (owner : Owner) {c : CallSite}
    (member : c ∈ (Extracted.ofHeader lines idx header decorators scope owner).calls) :
    c.line ≤ lines.length := by
  have back := blockEnd_lt_length inside (indentWidth header.indent)
  dsimp only [Extracted.ofHeader] at member
  rw [callSites_bodyText free, List.mem_flatMap] at member
  obtain ⟨entry, among, made⟩ := member
  obtain ⟨call, -, rfl⟩ := List.mem_map.mp made
  have bound := (List.mem_zipIdx among).2.1
  rw [List.length_take, List.length_drop] at bound
  dsimp only at bound
  change entry.2 ≤ lines.length
  omega

theorem line_le_of_mem_members {lines : List Line} (free : ∀ line ∈ lines, '\n' ∉ line)
    {first last : Nat} {scope : Scope} {owner : Owner} {m : Extracted}
    (extracted : m ∈ members lines first last scope owner) {c : CallSite} (among : c ∈ m.calls) :
    c.line ≤ lines.length := by
  obtain ⟨idx, line, header, -, -, found, -, -, rfl⟩ := exists_header_of_mem_members extracted
  have inside : idx < lines.length := (List.getElem?_eq_some_iff.mp found).1
  exact line_le_of_mem_ofHeader free inside header _ scope owner among

theorem line_le_of_mem_calls {path base content : String} {c : CallSite}
    (member : c ∈ (analyze path base content).calls) : c.line ≤ content.utf8ByteSize := by
  obtain ⟨first, last, scope, owner, m, extracted, among⟩ := exists_mem_of_mem_calls member
  have within := line_le_of_mem_members (sourceLines_no_feed content) extracted among
  have count := length_sourceLines_le content
  omega

namespace CallGraph

def Step.InRange : Step → Prop
  | .merge calls => ∀ c ∈ calls, c.InRange
  | .analyze _ _ content => content.utf8ByteSize < wordCount 64
  | _ => True

theorem ofText?_compact {graph : CallGraph} (inRange : graph.InRange) :
    ofText? graph.toJson.compact = some graph := by
  rw [ofText?, parse?_compact graph.plain_toJson, Option.bind_some, ofJson?_toJson inRange]

theorem step_reload {graph : CallGraph} (inRange : graph.InRange) :
    (graph.step .reload).1 = graph := by
  rw [step, ofText?_compact inRange, Option.getD_some]

theorem InRange.merge {graph : CallGraph} (inRange : graph.InRange) {calls : List CallSite}
    (small : ∀ c ∈ calls, c.InRange) : (graph.merge calls).InRange where
  calls := by
    intro c member
    rcases List.mem_append.mp member with held | added
    · exact inRange.calls c held
    · exact small c added

theorem InRange.step {graph : CallGraph} (inRange : graph.InRange) {s : Step} (small : s.InRange) :
    (graph.step s).1.InRange := by
  cases s with
  | merge calls => exact inRange.merge small
  | analyze path base content =>
    apply inRange.merge
    intro c member
    exact Nat.lt_of_le_of_lt (line_le_of_mem_calls member) small
  | reload =>
    rw [step_reload inRange]
    exact inRange
  | state => exact inRange
  | callersOf calledType member => exact inRange
  | calleesOf callerType callerMember => exact inRange
  | byFile => exact inRange
  | summary top => exact inRange

theorem answers_reload {graph : CallGraph} (inRange : graph.InRange) {before : List Step}
    (small : ∀ s ∈ before, s.InRange) (after : List Step) :
    (graph.answers (before ++ .reload :: after)).eraseIdx before.length =
      graph.answers (before ++ after) := by
  induction before generalizing graph with
  | nil =>
    rw [List.nil_append, List.nil_append, answers, step_reload inRange]
    rfl
  | cons s before ih =>
    obtain ⟨first, later⟩ := List.forall_mem_cons.mp small
    have rest := ih (inRange.step first) later
    rw [List.cons_append, List.cons_append, answers, answers, List.length_cons,
      List.eraseIdx_cons_succ, rest]

end CallGraph

/-- Reports, inventories, call sites, call graphs and settings are what their JSON texts say, and so
a reload of a call graph changes no answer. -/
theorem json_texts_read_back :
    (∀ r : Report, r.InRange → (parse? (r.render .json).toList).bind Report.ofJson? = some r) ∧
    (∀ i : Inventory, i.InRange → (parse? i.toJson.pretty).bind Inventory.ofJson? = some i) ∧
    (∀ c : CallSite, c.InRange → (parse? c.toJson.pretty).bind CallSite.ofJson? = some c ∧
      (parse? c.toJson.compact).bind CallSite.ofJson? = some c) ∧
    (∀ graph : CallGraph, graph.InRange → CallGraph.ofText? graph.toJson.compact = some graph) ∧
    (∀ c : Config, c.InRange → (parse? c.toJson.pretty).bind Config.ofJson? = some c) ∧
    ∀ before after : List CallGraph.Step, (∀ s ∈ before, s.InRange) →
      (CallGraph.empty.answers (before ++ .reload :: after)).eraseIdx before.length =
        CallGraph.empty.answers (before ++ after) := by
  refine ⟨?_, ?_, ?_, ?_, ?_, ?_⟩
  · intro r inRange
    rw [Report.render, String.toList_ofList, parse?_pretty r.plain_toJson, Option.bind_some,
      Report.ofJson?_toJson inRange]
  · intro i inRange
    rw [parse?_pretty i.plain_toJson, Option.bind_some, Inventory.ofJson?_toJson inRange]
  · intro c inRange
    rw [parse?_pretty c.plain_toJson, parse?_compact c.plain_toJson, Option.bind_some,
      CallSite.ofJson?_toJson inRange]
    exact ⟨rfl, rfl⟩
  · intro graph inRange
    exact CallGraph.ofText?_compact inRange
  · intro c inRange
    rw [parse?_pretty c.plain_toJson, Option.bind_some, Config.ofJson?_toJson inRange]
  · intro before after small
    have empty : CallGraph.empty.InRange := ⟨fun c member => by cases member⟩
    exact CallGraph.answers_reload empty small after

def farCall : CallSite where
  filePath := "a\"b\\c\n.py"
  callerType := "\u0001\u007f"
  callerMember := ""
  calledType := "\ud7ff😀"
  calledMember := "f"
  line := wordCount 64 - 1

theorem json_texts_read_back_farCall :
    farCall.InRange ∧ CallGraph.ofText? (CallGraph.mk [farCall]).toJson.compact = some ⟨[farCall]⟩ ∧
    (CallGraph.empty.answers [.merge [farCall], .reload, .state]).eraseIdx 1 =
      CallGraph.empty.answers [.merge [farCall], .state] := by
  have small : farCall.InRange := by
    unfold CallSite.InRange
    decide
  have inRange : (CallGraph.mk [farCall]).InRange := ⟨by simpa using small⟩
  have steps : ∀ s ∈ [CallGraph.Step.merge [farCall]], s.InRange := by
    simpa [CallGraph.Step.InRange] using small
  exact ⟨small, json_texts_read_back.2.2.2.1 _ inRange,
    json_texts_read_back.2.2.2.2.2 [.merge [farCall]] [.state] steps⟩

end Outline
