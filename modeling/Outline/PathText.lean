import Outline.Text.Search

namespace Outline.PathText

open Outline.Text

def isSeparator (c : Char) : Bool := c == '/' || c == '\\'

def normalize (path : List Char) : List Char := path.map fun c => if c == '\\' then '/' else c

def fileName (path : List Char) : List Char :=
  (path.reverse.takeWhile fun c => !isSeparator c).reverse

/-- The last component without its extension. A dot at the very beginning starts no extension. -/
def fileStem (path : List Char) : List Char :=
  let name := fileName path
  match cutLast? '.' name with
  | none => name
  | some ([], _) => name
  | some (stem, _) => stem

def dropSeparators (path : List Char) : List Char := path.dropWhile isSeparator

/-- The path as seen from `base`. A path that does not lie below `base`, component by component,
stays as it is. -/
def relativeTo (path base : List Char) : List Char :=
  if base.isEmpty then dropSeparators path
  else match after? base path with
    | none => path
    | some rest =>
      if rest.isEmpty || (rest.head?.map isSeparator).getD false ||
          (base.getLast?.map isSeparator).getD false then
        dropSeparators rest
      else path

end Outline.PathText
