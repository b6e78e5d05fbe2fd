import Outline.Count

namespace Outline.Text

/-- Cuts a text behind every line feed. Nothing follows a final line feed. `held` is the reversed
beginning of the current piece. -/
def piecesFrom (held : List Char) : List Char → List (List Char)
  | [] => if held.isEmpty then [] else [held.reverse]
  | c :: rest =>
    if c = '\n' then ('\n' :: held).reverse :: piecesFrom [] rest else piecesFrom (c :: held) rest

def pieces (text : List Char) : List (List Char) := piecesFrom [] text

def dropEnd (mark : Char) (s : List Char) : List Char :=
  match s.reverse with
  | c :: rest => if c = mark then rest.reverse else s
  | [] => s

def lineOfPiece (piece : List Char) : List Char := dropEnd '\r' (dropEnd '\n' piece)

def byteLength (s : List Char) : Nat := total (s.map Char.utf8Size)

def startsFrom (offset : Nat) : List (List Char) → List Nat
  | [] => []
  | piece :: rest => offset :: startsFrom (offset + byteLength piece) rest

structure LineIndex where
  lines : List (List Char)
  starts : Array Nat
deriving Repr

def LineIndex.ofText (text : List Char) : LineIndex where
  lines := (pieces text).map lineOfPiece
  starts := (startsFrom 0 (pieces text)).toArray

/-- How many entries of the increasing array `xs` are at most `x`, given that this number lies
between `low` and `high`. -/
def countUpTo (xs : Array Nat) (x low high : Nat) : Nat :=
  if low < high then
    let middle := (low + high) / 2
    if xs.getD middle 0 ≤ x then countUpTo xs x (middle + 1) high else countUpTo xs x low middle
  else low
termination_by high - low

/-- The number, from 1, of the line that holds a byte offset. What lies behind the end counts to the
last line. -/
def LineIndex.lineOf (index : LineIndex) (offset : Nat) : Nat :=
  max 1 (countUpTo index.starts offset 0 index.starts.size)

end Outline.Text
