import Outline.Source.Header
import Outline.Text.Lines

namespace Outline.Source

open Outline.Text

/-- A piece of text without a line feed and the carriage return before it; a carriage return that
ends the text stays. -/
def importLine (piece : List Char) : Line :=
  if dropEnd '\n' piece = piece then piece else dropEnd '\r' (dropEnd '\n' piece)

def firstStatement (line : Line) : Line := line.takeWhile fun c => c != '#' && c != ';'

def fromImport? (code : List Char) : Option (List Char) := do
  let s ← after? ['f', 'r', 'o', 'm'] (trimStart code)
  let s ← afterBlanks? s
  let name := s.takeWhile isDotted
  if name.isEmpty then none
  let s ← afterBlanks? (s.dropWhile isDotted)
  let s ← after? ['i', 'm', 'p', 'o', 'r', 't'] s
  if (s.head?.map isWord).getD false then none
  return name

def bareImport? (code : List Char) : Option (List Char) :=
  (after? ['i', 'm', 'p', 'o', 'r', 't'] (trimStart code)).bind afterBlanks?

/-- The modules that one statement names. An alias does not count. -/
def modulesOf (code : List Char) : List (List Char) :=
  match fromImport? code with
  | some name => [name]
  | none =>
    match bareImport? code with
    | some names => (names.splitOn ',').filterMap fun entry => (words entry).head?
    | none => []

def importsOfLines (lines : List Line) : List (List Char) :=
  (lines.flatMap fun line => modulesOf (firstStatement line)).eraseDups

def imports (text : List Char) : List (List Char) :=
  importsOfLines ((pieces text).map importLine)

def rootOf (name : List Char) : List Char := name.takeWhile (· != '.')

/-- The packages of some modules, each one once. A relative import, which begins with a dot, has
none. -/
def dependencyRoots (modules : List (List Char)) : List (List Char) :=
  ((modules.map rootOf).filter (· ≠ [])).eraseDups

end Outline.Source
