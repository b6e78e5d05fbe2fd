import Outline.Text.Blank
import Outline.Text.Digits
import Outline.Text.Letter
import Outline.Text.Search

namespace Outline.Filter

open Outline.Text

def levelNames : List (List Char) :=
  ["off", "error", "warn", "info", "debug", "trace"].map String.toList

def isLevelNumber (s : List Char) : Bool :=
  let digits := match s with
    | '+' :: rest => rest
    | s => s
  !digits.isEmpty && digits.all isDigit && natOfDigits digits ≤ 5

/-- A level by its name or number. No text at all stands for a level too. -/
def isLevel (s : List Char) : Bool :=
  s.isEmpty || isLevelNumber s || levelNames.contains (s.map Char.toLower)

inductive State where
  | start
  | target
  | span
  | field (held : List Char)
  | fieldsEnd
  | spanEnd
  | level (held : List Char)
deriving Repr, DecidableEq

def opensTarget (c : Char) : Bool := c == '-' || c == ':' || c == '_' || isLetterOrNumber c

def State.step (state : State) (c : Char) : Option State :=
  match state with
  | .start => if c == '[' then some .span else if opensTarget c then some .target else none
  | .target =>
    if c == '=' then some (.level []) else if c == '[' then some .span else some .target
  | .span =>
    if c == ']' then some .spanEnd else if c == '\x7b' then some (.field []) else some .span
  | .field held =>
    if c == '\x7d' then (if held.isEmpty then none else some .fieldsEnd)
    else some (.field (c :: held))
  | .fieldsEnd => if c == ']' then some .spanEnd else none
  | .spanEnd => if c == '=' then some (.level []) else none
  | .level held => some (.level (c :: held))

/-- A directive without commas. White space around it does not count, but a level may have none
behind it, and with a level none may stand in front. -/
def isDirective (directive : List Char) : Bool :=
  match (trim directive).foldlM State.step .start with
  | some .target => true
  | some .spanEnd => true
  | some (.level held) =>
    trim directive == directive && isLevel held.reverse
  | _ => false

def isValid (filter : String) : Bool :=
  ((filter.toList.splitOn ',').filter (· ≠ [])).all isDirective

end Outline.Filter
