namespace Outline.Text

def after? (start : List Char) (s : List Char) : Option (List Char) :=
  if start.isPrefixOf s then some (s.drop start.length) else none

def cut? (needle : List Char) : List Char → Option (List Char × List Char)
  | [] => if needle = [] then some ([], []) else none
  | c :: rest =>
    match after? needle (c :: rest) with
    | some behind => some ([], behind)
    | none => (cut? needle rest).map fun (before, behind) => (c :: before, behind)

def holds (needle s : List Char) : Bool := (cut? needle s).isSome

def cutLast? (mark : Char) (s : List Char) : Option (List Char × List Char) :=
  match s.reverse.span (· != mark) with
  | (_, []) => none
  | (behind, _ :: before) => some (before.reverse, behind.reverse)

end Outline.Text
