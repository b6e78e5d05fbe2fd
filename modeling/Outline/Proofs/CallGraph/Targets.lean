import Outline.Proofs.CallGraph.Summary
import Outline.Proofs.Inventory.Analyze
import Outline.Proofs.Source.Chain

namespace Outline

structure SourceFile where
  path : String
  base : String
  content : String

def SourceFile.calls (file : SourceFile) : List CallSite :=
  (analyze file.path file.base file.content).calls

namespace CallGraph

open Outline.Text Outline.Source

def ofFiles (files : List SourceFile) : CallGraph :=
  files.foldl (fun graph file => graph.merge file.calls) empty

def callee (c : CallSite) : String × String := (c.calledType, c.calledMember)

/-- No call of the graph names a member with a dot. -/
def PlainMembers (graph : CallGraph) : Prop := ∀ c ∈ graph.calls, '.' ∉ c.calledMember.toList

theorem dot_not_mem_of_mem_calls {file : SourceFile} {c : CallSite} (member : c ∈ file.calls) :
    '.' ∉ c.calledMember.toList := by
  obtain ⟨first, last, scope, owner, m, extracted, among⟩ := exists_mem_of_mem_calls member
  obtain ⟨idx, line, header, -, -, -, -, -, rfl⟩ := exists_header_of_mem_members extracted
  exact dot_not_mem_calledMember among

theorem PlainMembers.merge {graph : CallGraph} (plain : graph.PlainMembers) (file : SourceFile) :
    (graph.merge file.calls).PlainMembers := by
  intro c member
  rcases List.mem_append.mp member with held | added
  · exact plain c held
  · exact dot_not_mem_of_mem_calls added

theorem PlainMembers.foldl {graph : CallGraph} (plain : graph.PlainMembers)
    (files : List SourceFile) :
    (files.foldl (fun graph file => graph.merge file.calls) graph).PlainMembers := by
  induction files generalizing graph with
  | nil => exact plain
  | cons file files ih => exact ih (plain.merge file)

theorem plainMembers_ofFiles (files : List SourceFile) : (ofFiles files).PlainMembers := by
  have none : empty.PlainMembers := fun c member => by cases member
  exact none.foldl files

theorem cutLast?_dotted (calledType : String) {member : String} (plain : '.' ∉ member.toList) :
    cutLast? '.' (calledType ++ "." ++ member).toList =
      some (calledType.toList, member.toList) := by
  have parts : (calledType ++ "." ++ member).toList =
      calledType.toList ++ '.' :: member.toList := by simp
  -- The type may hold dots, the member does not, so the last dot is the one between them.
  rw [parts, cutLast?_append plain]

theorem callee_eq_of_target {c : CallSite} (plain : '.' ∉ c.calledMember.toList)
    {calledType member : String} (single : '.' ∉ member.toList)
    (same : target c = calledType ++ "." ++ member) : callee c = (calledType, member) := by
  have parts := congrArg (fun name => cutLast? '.' name.toList) same
  simp only [target, cutLast?_dotted _ plain, cutLast?_dotted _ single, Option.some.injEq,
    Prod.mk.injEq, String.toList_inj] at parts
  exact Prod.ext parts.1 parts.2

section Plain

variable {graph : CallGraph} (plain : graph.PlainMembers)

include plain

theorem PlainMembers.target_inj {a b : CallSite} (first : a ∈ graph.calls)
    (second : b ∈ graph.calls) : target a = target b ↔ callee a = callee b := by
  constructor
  · intro same
    exact callee_eq_of_target (plain a first) (plain b second) same
  · intro same
    obtain ⟨type, member⟩ := Prod.mk.inj same
    rw [target, type, member, target]

theorem PlainMembers.card_targets :
    (graph.calls.map target).toFinset.card = (graph.calls.map callee).toFinset.card := by
  have joined : (graph.calls.map target).toFinset =
      (graph.calls.map callee).toFinset.image fun pair => pair.1 ++ "." ++ pair.2 := by
    ext name
    simp [target, callee]
  have apart : Set.InjOn (fun pair : String × String => pair.1 ++ "." ++ pair.2)
      (graph.calls.map callee).toFinset := by
    intro p first q second same
    obtain ⟨a, among, rfl⟩ := List.mem_map.mp (List.mem_toFinset.mp first)
    obtain ⟨b, also, rfl⟩ := List.mem_map.mp (List.mem_toFinset.mp second)
    exact (plain.target_inj among also).mp same
  rw [joined, Finset.card_image_of_injOn apart]

theorem PlainMembers.count_target {c : CallSite} (listed : c ∈ graph.calls) :
    (graph.calls.map target).count (target c) =
      (graph.callersOf (some c.calledType) c.calledMember).length := by
  rw [callersOf, ← List.countP_eq_length_filter, List.count, List.countP_map]
  apply List.countP_congr
  intro a among
  have same := plain.target_inj among listed
  simp [same, callee, and_comm]

end Plain

theorem targetCounts_take {graph : CallGraph} {top : Nat}
    (enough : (graph.calls.map target).toFinset.card ≤ top) :
    graph.targetCounts.take top = graph.targetCounts := by
  apply List.take_of_length_le
  rw [(targetCounts_perm graph).length_eq, List.length_map, length_eraseDups]
  exact enough

theorem targets_identify_callees (files : List SourceFile) :
    (∀ a ∈ (ofFiles files).calls, ∀ b ∈ (ofFiles files).calls,
      target a = target b → callee a = callee b) ∧
    ∀ top,
      ((ofFiles files).summary top).distinctTargets =
        ((ofFiles files).calls.map callee).toFinset.card ∧
      (((ofFiles files).calls.map callee).toFinset.card ≤ top →
        ∀ t m, (t, m) ∈ (ofFiles files).calls.map callee → ∀ count,
          (t ++ "." ++ m, count) ∈ ((ofFiles files).summary top).topTargets ↔
            count = ((ofFiles files).callersOf (some t) m).length) := by
  have plain := plainMembers_ofFiles files
  refine ⟨fun a first b second => (plain.target_inj first second).mp, fun top => ⟨?_, ?_⟩⟩
  · rw [summary_eq, plain.card_targets]
  · intro enough t m member count
    obtain ⟨c, listed, same⟩ := List.mem_map.mp member
    obtain ⟨rfl, rfl⟩ := Prod.mk.inj same
    have ranked := (isRanking_targetCounts (ofFiles files)).mem_iff (target c) count
    rw [summary_eq, targetCounts_take (by rw [plain.card_targets]; exact enough)]
    rw [plain.count_target listed] at ranked
    exact ranked.trans (and_iff_right (List.mem_map_of_mem listed))

/-- The stem of the first file has a dot, and a call in it writes that stem out. -/
def dottedFiles : List SourceFile :=
  [⟨"lib/a.b.py", "lib", "def f(): a.b.g(g(1))\n"⟩, ⟨"a.py", "", "class C:\n  def m(self): b.g()\n"⟩]

theorem targets_identify_callees_dottedStem :
    ((ofFiles dottedFiles).calls.map callee).toFinset.card ≤ 4 ∧
    ("a.b", "g") ∈ (ofFiles dottedFiles).calls.map callee ∧
    ("a.b.g", 2) ∈ ((ofFiles dottedFiles).summary 4).topTargets := by
  have pairs : (ofFiles dottedFiles).calls.map callee =
      [("a.b", "f"), ("a.b", "g"), ("a.b", "g"), ("C", "m"), ("b", "g")] := by
    decide +kernel
  have few : ((ofFiles dottedFiles).calls.map callee).toFinset.card ≤ 4 := by
    rw [pairs]
    decide
  have listed : ("a.b", "g") ∈ (ofFiles dottedFiles).calls.map callee := by
    rw [pairs]
    decide
  have counted : ((ofFiles dottedFiles).callersOf (some "a.b") "g").length = 2 := by
    decide +kernel
  obtain ⟨-, summed⟩ := targets_identify_callees dottedFiles
  have ranked := (summed 4).2 few "a.b" "g" listed 2
  exact ⟨few, listed, ranked.mpr counted.symm⟩

end CallGraph

end Outline
