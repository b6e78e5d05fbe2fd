import Outline.Source.Block
import Outline.Text.Search
import Outline.Text.Word

namespace Outline.Source

open Outline.Text

def afterBlanks? : List Char → Option (List Char)
  | [] => none
  | c :: rest => if isBlank c then some (trimStart rest) else none

def name? : List Char → Option (List Char × List Char)
  | [] => none
  | c :: rest =>
    if startsName c then some (c :: rest.takeWhile isWord, rest.dropWhile isWord) else none

def commaList (s : List Char) : List (List Char) :=
  ((s.splitOn ',').map trim).filter (· ≠ [])

structure FunctionHeader where
  indent : List Char
  isAsync : Bool
  name : List Char
  params : List Char
  returns : Option (List Char)
deriving Repr, DecidableEq

/-- What stands behind the closing parenthesis of a function header: a colon, or an arrow, at least
one character that is no colon, and a colon. -/
def returns? (s : List Char) : Option (Option (List Char)) :=
  match trimStart s with
  | ':' :: _ => some none
  | '-' :: '>' :: rest =>
    let annotation := rest.takeWhile (· != ':')
    if annotation.isEmpty || (rest.dropWhile (· != ':')).isEmpty then none
    else some (some (trim annotation))
  | _ => none

/-- The text up to the first closing parenthesis with an acceptable rest, with what `accept` makes
of that rest. The text stays on one line. -/
def upToParen {α : Type} (accept : List Char → Option α) : List Char → Option (List Char × α)
  | [] => none
  | c :: rest =>
    match if c = ')' then accept rest else none with
    | some a => some ([], a)
    | none =>
      if c = '\n' then none
      else (upToParen accept rest).map fun (inner, a) => (c :: inner, a)

def async? (s : List Char) : Option (List Char) :=
  (after? ['a', 's', 'y', 'n', 'c'] s).bind afterBlanks?

def definition? (s : List Char) : Option (List Char × List Char × Option (List Char)) := do
  let s ← after? ['d', 'e', 'f'] s
  let s ← afterBlanks? s
  let (name, s) ← name? s
  let s ← after? ['('] (trimStart s)
  let (params, returns) ← upToParen returns? s
  return (name, params, returns)

def FunctionHeader.parse? (line : Line) : Option FunctionHeader :=
  let indent := line.takeWhile isIndent
  let code := line.dropWhile isIndent
  let isAsync := (async? code).isSome
  (definition? ((async? code).getD code)).map fun (name, params, returns) =>
    { indent, isAsync, name, params, returns }

/-- The header line of a class. A class without parentheses has an empty list of bases. -/
structure ClassHeader where
  name : List Char
  /-- The text between the parentheses. -/
  bases : List Char
deriving Repr, DecidableEq

def colon? (s : List Char) : Option Unit :=
  match trimStart s with
  | ':' :: _ => some ()
  | _ => none

def ClassHeader.parse? (line : Line) : Option ClassHeader := do
  let s ← after? ['c', 'l', 'a', 's', 's'] line
  let s ← afterBlanks? s
  let (name, s) ← name? s
  match after? ['('] (trimStart s) with
  | some inner =>
    let (bases, _) ← upToParen colon? inner
    return { name, bases }
  | none =>
    colon? s
    return { name, bases := [] }

structure Decorator where
  indent : List Char
  name : List Char
deriving Repr, DecidableEq

def isDotted (c : Char) : Bool := isWord c || c == '.'

def Decorator.parse? (line : Line) : Option Decorator :=
  match line.dropWhile isIndent with
  | '@' :: rest =>
    let name := rest.takeWhile isDotted
    if name.isEmpty then none else some { indent := line.takeWhile isIndent, name }
  | _ => none

end Outline.Source
