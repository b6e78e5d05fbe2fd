import Outline.Inventory.Codec

namespace Outline

structure CallGraph where
  calls : List CallSite
deriving Repr, DecidableEq

namespace CallGraph

def empty : CallGraph := ⟨[]⟩

def merge (graph : CallGraph) (calls : List CallSite) : CallGraph := ⟨graph.calls ++ calls⟩

def callersOf (graph : CallGraph) (calledType : Option String) (member : String) : List CallSite :=
  graph.calls.filter fun c =>
    c.calledMember == member && (calledType.map (c.calledType == ·)).getD true

def calleesOf (graph : CallGraph) (callerType callerMember : String) : List CallSite :=
  graph.calls.filter fun c => c.callerType == callerType && c.callerMember == callerMember

def files (graph : CallGraph) : List String :=
  (graph.calls.map (·.filePath)).eraseDups.mergeSort (fun a b => a ≤ b)

def byFile (graph : CallGraph) : List (String × List CallSite) :=
  graph.files.map fun file => (file, graph.calls.filter (·.filePath == file))

def target (c : CallSite) : String := c.calledType ++ "." ++ c.calledMember

def caller (c : CallSite) : String × String × String := (c.filePath, c.callerType, c.callerMember)

/-- The more frequent target first, and of equally frequent ones the smaller name. -/
def ranksBefore (a b : String × Nat) : Bool := b.2 < a.2 || (a.2 == b.2 && a.1 ≤ b.1)

def targetCounts (graph : CallGraph) : List (String × Nat) :=
  let targets := graph.calls.map target
  (targets.eraseDups.map fun t => (t, targets.count t)).mergeSort ranksBefore

structure Summary where
  totalCalls : Nat
  files : Nat
  distinctCallers : Nat
  distinctTargets : Nat
  topTargets : List (String × Nat)
deriving Repr, DecidableEq

def summary (graph : CallGraph) (top : Nat) : Summary where
  totalCalls := graph.calls.length
  files := graph.byFile.length
  distinctCallers := (graph.calls.map caller).eraseDups.length
  distinctTargets := graph.targetCounts.length
  topTargets := graph.targetCounts.take top

def Summary.toJson (s : Summary) : Json :=
  .obj
    [("total_calls", .nat s.totalCalls), ("files", .nat s.files),
      ("distinct_callers", .nat s.distinctCallers), ("distinct_targets", .nat s.distinctTargets),
      ("top_targets", .arr (s.topTargets.map fun (name, count) => .arr [.str name, .nat count]))]

def toJson (graph : CallGraph) : Json := .obj [("calls", .arr (graph.calls.map CallSite.toJson))]

def ofJson? (value : Json) : Option CallGraph :=
  match value.record? ["calls"] with
  | some [calls] => (Json.required? (Json.list? CallSite.ofJson?) calls).map CallGraph.mk
  | _ => none

end CallGraph

end Outline
