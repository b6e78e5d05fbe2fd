import Outline.Json.Basic
import Outline.Text.Blank
import Outline.Text.Digits

namespace Outline.Json

open Outline.Text

def hexDigit (n : Nat) : Char := Nat.digitChar (n % 16)

def escapeChar (c : Char) : List Char :=
  if c = '"' then ['\\', '"']
  else if c = '\\' then ['\\', '\\']
  else if c = '\x08' then ['\\', 'b']
  else if c = '\t' then ['\\', 't']
  else if c = '\n' then ['\\', 'n']
  else if c = '\x0c' then ['\\', 'f']
  else if c = '\r' then ['\\', 'r']
  else if c.toNat < 32 then ['\\', 'u', '0', '0', hexDigit (c.toNat / 16), hexDigit c.toNat]
  else [c]

def quote (s : String) : List Char := '"' :: s.toList.flatMap escapeChar ++ ['"']

def boolText : Bool → List Char
  | true => ['t', 'r', 'u', 'e']
  | false => ['f', 'a', 'l', 's', 'e']

def nullText : List Char := ['n', 'u', 'l', 'l']

mutual

def compact : Json → List Char
  | .null => nullText
  | .bool value => boolText value
  | .nat value => natText value
  | .numeral text => text
  | .str value => quote value
  | .brokenStr => nullText
  | .arr items => '[' :: compactItems true items ++ [']']
  | .obj fields => '{' :: compactFields true fields ++ ['}']

def compactItems (isFirst : Bool) : List Json → List Char
  | [] => []
  | item :: rest =>
    (if isFirst then [] else [',']) ++ compact item ++ compactItems false rest

def compactFields (isFirst : Bool) : List (String × Json) → List Char
  | [] => []
  | (name, value) :: rest =>
    (if isFirst then [] else [',']) ++ quote name ++ ':' :: compact value ++
      compactFields false rest

end

def newline (depth : Nat) : List Char := '\n' :: spaces (2 * depth)

mutual

def prettyAt (depth : Nat) : Json → List Char
  | .null => nullText
  | .bool value => boolText value
  | .nat value => natText value
  | .numeral text => text
  | .str value => quote value
  | .brokenStr => nullText
  | .arr [] => ['[', ']']
  | .arr (item :: rest) =>
    '[' :: prettyItems (depth + 1) true (item :: rest) ++ newline depth ++ [']']
  | .obj [] => ['{', '}']
  | .obj (field :: rest) =>
    '{' :: prettyFields (depth + 1) true (field :: rest) ++ newline depth ++ ['}']

def prettyItems (depth : Nat) (isFirst : Bool) : List Json → List Char
  | [] => []
  | item :: rest =>
    (if isFirst then [] else [',']) ++ newline depth ++ prettyAt depth item ++
      prettyItems depth false rest

def prettyFields (depth : Nat) (isFirst : Bool) : List (String × Json) → List Char
  | [] => []
  | (name, value) :: rest =>
    (if isFirst then [] else [',']) ++ newline depth ++ quote name ++ ':' :: ' ' ::
      prettyAt depth value ++ prettyFields depth false rest

end

def pretty (value : Json) : List Char := prettyAt 0 value

end Outline.Json
