import Outline.Count
import Outline.Text.Blank

namespace Outline.Source

open Outline.Text

abbrev Line := List Char

def isIndent (c : Char) : Bool := c == ' ' || c == '\t'

/-- A tab counts as much as four spaces. -/
def indentUnit (c : Char) : Nat := if c == '\t' then 4 else 1

def indentWidth (line : Line) : Nat := total ((line.takeWhile isIndent).map indentUnit)

def closesBlock (indent : Nat) (line : Line) : Bool := !allBlank line && indentWidth line ≤ indent

/-- The last line of the block that the line `start` opens, both counted from 0. The block ends
before the first line behind `start` that closes it, else with the text. -/
def blockEnd (lines : List Line) (start indent : Nat) : Nat :=
  if start < lines.length then
    start + ((lines.drop (start + 1)).takeWhile fun line => !closesBlock indent line).length
  else start

end Outline.Source
