import Outline.Source.Block
import Outline.Text.Search

namespace Outline.Source

open Outline.Text

/-- The quotes that may enclose a documentation string, in the order in which they are tried. -/
def docDelimiters : List (List Char) := [['"', '"', '"'], ['\'', '\'', '\'']]

def nonEmpty? (s : List Char) : Option (List Char) := if s.isEmpty then none else some s

/-- The trimmed lines up to the one that holds the delimiter, of which only the part before it
counts; `none` when no line holds it. -/
def docFragments (delimiter : List Char) : List Line → Option (List (List Char))
  | [] => none
  | line :: later =>
    match cut? delimiter (trim line) with
    | some (before, _) => some [trim before]
    | none => (docFragments delimiter later).map (trim line :: ·)

def joinFragments (fragments : List (List Char)) : List Char :=
  [' '].intercalate (fragments.filter (· ≠ []))

/-- The documentation string that opens the line `idx`, counted from 0. There is none when the line
opens no string, when nothing closes it, or when it is blank. -/
def docstring? (lines : List Line) (idx : Nat) : Option (List Char) :=
  match lines.drop idx with
  | [] => none
  | line :: later =>
    match docDelimiters.find? (·.isPrefixOf (trim line)) with
    | none => none
    | some delimiter =>
      let rest := (trim line).drop delimiter.length
      match cut? delimiter rest with
      | some (inner, _) => nonEmpty? (trim inner)
      | none =>
        match docFragments delimiter later with
        | none => none
        | some fragments => nonEmpty? (joinFragments (trim rest :: fragments))

end Outline.Source
