import Outline.CallGraph
import Outline.Inventory.Analyze
import Outline.Json.Printer
import Outline.Json.Reader

namespace Outline.CallGraph

inductive Step where
  | merge (calls : List CallSite)
  /-- Adds the calls that the analysis of a file finds. -/
  | analyze (path base content : String)
  | state
  | callersOf (calledType : Option String) (member : String)
  | calleesOf (callerType callerMember : String)
  | byFile
  | summary (top : Nat)
  /-- Writes the graph as a JSON text, and goes on with what that text says. -/
  | reload
deriving Repr, DecidableEq

inductive Answer where
  | count (calls : Nat)
  | state (count : Nat) (isEmpty : Bool) (calls : List CallSite)
  | calls (calls : List CallSite)
  | byFile (files : List (String × List CallSite))
  | summary (summary : Summary)
  | text (text : List Char)
deriving Repr, DecidableEq

def ofText? (text : List Char) : Option CallGraph := (Json.parse? text).bind ofJson?

def add (graph : CallGraph) (calls : List CallSite) : CallGraph × Answer :=
  (graph.merge calls, .count (graph.merge calls).calls.length)

/-- A text that cannot be read leaves no calls. -/
def step (graph : CallGraph) : Step → CallGraph × Answer
  | .merge calls => graph.add calls
  | .analyze path base content => graph.add (Outline.analyze path base content).calls
  | .state => (graph, .state graph.calls.length graph.calls.isEmpty graph.calls)
  | .callersOf calledType member => (graph, .calls (graph.callersOf calledType member))
  | .calleesOf callerType callerMember => (graph, .calls (graph.calleesOf callerType callerMember))
  | .byFile => (graph, .byFile graph.byFile)
  | .summary top => (graph, .summary (graph.summary top))
  | .reload => ((ofText? graph.toJson.compact).getD .empty, .text graph.toJson.compact)

def answers (graph : CallGraph) : List Step → List Answer
  | [] => []
  | s :: rest => (graph.step s).2 :: answers (graph.step s).1 rest

end Outline.CallGraph
