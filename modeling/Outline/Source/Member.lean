import Outline.Source.Call
import Outline.Source.Docstring
import Outline.Source.Header

namespace Outline.Source

open Outline.Text

inductive Scope where
  | classBody
  | file
deriving Repr, DecidableEq

def Scope.accepts : Scope → List Char → Bool
  | .classBody, indent => !indent.isEmpty
  | .file, indent => indent.isEmpty

def Scope.memberKind : Scope → MemberKind
  | .classBody => .method
  | .file => .function

structure Owner where
  typeName : String
  filePath : String

structure Extracted where
  info : Member
  calls : List CallSite
deriving Repr

def parameterName (parameter : List Char) : List Char :=
  trim (parameter.takeWhile fun c => c != ':' && c != '=')

/-- A member is static if it is decorated so or if its first parameter is the class. -/
def isStatic (decorators parameters : List (List Char)) : Bool :=
  decorators.any (· == ['s', 't', 'a', 't', 'i', 'c', 'm', 'e', 't', 'h', 'o', 'd']) ||
    (parameters.head?.map fun p => parameterName p == ['c', 'l', 's']).getD false

def signature (name : List Char) (parameters : List (List Char)) : List Char :=
  name ++ '(' :: [',', ' '].intercalate parameters ++ [')']

def bodyText (lines : List Line) (first last : Nat) : List Char :=
  ['\n'].intercalate ((lines.drop first).take (last + 1 - first))

def returnType (header : FunctionHeader) : List Char :=
  (header.returns.bind nonEmpty?).getD ['N', 'o', 'n', 'e']

def Extracted.ofHeader (lines : List Line) (idx : Nat) (header : FunctionHeader)
    (decorators : List (List Char)) (scope : Scope) (owner : Owner) : Extracted :=
  let parameters := commaList header.params
  let last := blockEnd lines idx (indentWidth header.indent)
  { info :=
      { name := String.ofList header.name
        kind := scope.memberKind
        returnType := String.ofList (returnType header)
        isAsync := header.isAsync
        isStatic := isStatic decorators parameters
        visibility := Visibility.ofName header.name
        decorators := decorators.map String.ofList
        parameters := parameters.map String.ofList
        signature := String.ofList (signature header.name parameters)
        startLine := idx + 1
        endLine := last + 1
        docstring := (docstring? lines (idx + 1)).map String.ofList }
    calls := callSites (bodyText lines idx last)
      { filePath := owner.filePath
        typeName := owner.typeName
        member := String.ofList header.name
        firstLine := idx + 1 } }

def decoratorNames (indent : List Char) (pending : List Decorator) : List (List Char) :=
  (pending.filter (·.indent == indent)).map (·.name)

/-- The members whose headers stand in the lines from `idx` on. `pending` holds the decorator lines
directly above, which the next line uses up or drops. -/
def membersFrom (lines : List Line) (scope : Scope) (owner : Owner) (pending : List Decorator)
    (idx : Nat) : List Line → List Extracted
  | [] => []
  | line :: rest =>
    match Decorator.parse? line with
    | some decorator => membersFrom lines scope owner (pending ++ [decorator]) (idx + 1) rest
    | none =>
      match (FunctionHeader.parse? line).filter fun header => scope.accepts header.indent with
      | some header =>
        Extracted.ofHeader lines idx header (decoratorNames header.indent pending) scope owner ::
          membersFrom lines scope owner [] (idx + 1) rest
      | none => membersFrom lines scope owner [] (idx + 1) rest

def members (lines : List Line) (first last : Nat) (scope : Scope) (owner : Owner) :
    List Extracted :=
  membersFrom lines scope owner [] first ((lines.take (last + 1)).drop first)

def classMembers (lines : List Line) (first last : Nat) (owner : Owner) : List Extracted :=
  members lines first last .classBody owner

def fileFunctions (lines : List Line) (owner : Owner) : List Extracted :=
  members lines 0 (lines.length - 1) .file owner

end Outline.Source
