import Outline.Inventory.Basic
import Outline.Text.Lines
import Outline.Text.Search
import Outline.Text.Word

namespace Outline.Source

open Outline.Text

/-- The longest chain of identifiers joined by dots that a text begins with, given that it begins
with an identifier, and the rest. A dot counts only before an identifier. -/
def chain : List Char → List Char × List Char
  | [] => ([], [])
  | [c] => if isWord c then ([c], []) else ([], [c])
  | c :: d :: rest =>
    if isWord c || (c == '.' && startsName d) then
      let (run, behind) := chain (d :: rest)
      (c :: run, behind)
    else ([], c :: d :: rest)

def call? (s : List Char) : Option (List Char) :=
  match chain s with
  | (run, '(' :: _) => some run
  | _ => none

/-- The chains of the calls in a text, each with its byte offset, from left to right and without
overlap. `skip` characters belong to the last call; `boundary` says that no word character stands
before the text. -/
def chainsFrom (skip : Nat) (boundary : Bool) (offset : Nat) :
    List Char → List (Nat × List Char)
  | [] => []
  | c :: rest =>
    match skip with
    | more + 1 => chainsFrom more (!isWord c) (offset + c.utf8Size) rest
    | 0 =>
      match if boundary && startsName c then call? (c :: rest) else none with
      | some run => (offset, run) :: chainsFrom run.length (!isWord c) (offset + c.utf8Size) rest
      | none => chainsFrom 0 (!isWord c) (offset + c.utf8Size) rest

def chains (text : List Char) : List (Nat × List Char) := chainsFrom 0 true 0 text

/-- The type and the member that a chain names: what stands before and behind its last dot. A chain
without a dot names a member of the caller's own type. -/
def splitChain (ownType run : List Char) : List Char × List Char :=
  match cutLast? '.' run with
  | some (qualifier, member) => (qualifier, member)
  | none => (ownType, run)

structure Caller where
  filePath : String
  typeName : String
  member : String
  firstLine : Nat

def callSites (body : List Char) (caller : Caller) : List CallSite :=
  let index := LineIndex.ofText body
  (chains body).map fun (offset, run) =>
    let (calledType, calledMember) := splitChain caller.typeName.toList run
    { filePath := caller.filePath
      callerType := caller.typeName
      callerMember := caller.member
      calledType := String.ofList calledType
      calledMember := String.ofList calledMember
      line := caller.firstLine + index.lineOf offset - 1 }

end Outline.Source
