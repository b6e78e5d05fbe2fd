import Outline.Json.Printer
import Outline.Yaml.Scalar

namespace Outline.Yaml

open Outline.Text

mutual

def entryText (indent : Nat) : Json → List Char
  | .null => ' ' :: Json.nullText ++ ['\n']
  | .bool value => ' ' :: Json.boolText value ++ ['\n']
  | .nat value => ' ' :: natText value ++ ['\n']
  | .numeral text => ' ' :: text ++ ['\n']
  | .str value => ' ' :: scalarLine (indent + 2) value.toList
  | .brokenStr => ' ' :: Json.nullText ++ ['\n']
  | .arr [] => [' ', '[', ']', '\n']
  | .arr (item :: rest) => '\n' :: sequence indent false (item :: rest)
  | .obj [] => [' ', '\x7b', '\x7d', '\n']
  | .obj (field :: rest) => '\n' :: mapping (indent + 2) false (field :: rest)

def itemText (indent : Nat) : Json → List Char
  | .null => ' ' :: Json.nullText ++ ['\n']
  | .bool value => ' ' :: Json.boolText value ++ ['\n']
  | .nat value => ' ' :: natText value ++ ['\n']
  | .numeral text => ' ' :: text ++ ['\n']
  | .str value => ' ' :: scalarLine (indent + 2) value.toList
  | .brokenStr => ' ' :: Json.nullText ++ ['\n']
  | .arr [] => [' ', '[', ']', '\n']
  | .arr (item :: rest) => ' ' :: sequence (indent + 2) true (item :: rest)
  | .obj [] => [' ', '\x7b', '\x7d', '\n']
  | .obj (field :: rest) => ' ' :: mapping (indent + 2) true (field :: rest)

/-- The entries of a mapping, each one at column `indent`; `inLine` says that the first one starts
where the text stands already. -/
def mapping (indent : Nat) (inLine : Bool) : List (String × Json) → List Char
  | [] => []
  | (key, value) :: rest =>
    (if inLine then [] else spaces indent) ++ key.toList ++ ':' :: entryText indent value ++
      mapping indent false rest

def sequence (indent : Nat) (inLine : Bool) : List Json → List Char
  | [] => []
  | item :: rest =>
    (if inLine then [] else spaces indent) ++ '-' :: itemText indent item ++
      sequence indent false rest

end

def document (fields : List (String × Json)) : List Char := mapping 0 false fields

end Outline.Yaml
