import Outline.Text.Blank
import Outline.Text.Digits

namespace Outline.Toml

open Outline.Text

def longestRun (mark : Char) (run : Nat) : List Char → Nat
  | [] => run
  | c :: rest => if c = mark then longestRun mark (run + 1) rest else max run (longestRun mark 0 rest)

def needsEscape (c : Char) : Bool :=
  c != '\t' && c != '\n' && (c.toNat < 0x20 || c.toNat == 0x7F)

inductive Quoting where
  | basic
  | literal
  | longBasic
  | longLiteral
deriving Repr, DecidableEq

def quotingOf (s : List Char) : Quoting :=
  let lines := s.contains '\n'
  if s.any needsEscape then (if lines then .longBasic else .basic)
  else if !s.contains '\\' && !s.contains '"' && !lines then .basic
  else if !s.contains '\'' && !lines then .literal
  else if !s.contains '\\' && longestRun '"' 0 s ≤ 2 then .longBasic
  else if longestRun '\'' 0 s ≤ 2 then .longLiteral
  else if lines then .longBasic
  else .basic

def escapeChar (long : Bool) (c : Char) : List Char :=
  if c = '\\' then ['\\', '\\']
  else if c = '\x08' then ['\\', 'b']
  else if c = '\t' then ['\\', 't']
  else if c = '\n' then (if long then ['\n'] else ['\\', 'n'])
  else if c = '\x0c' then ['\\', 'f']
  else if c = '\r' then ['\\', 'r']
  else if c.toNat < 0x20 || c.toNat = 0x7F then '\\' :: 'u' :: hexText 4 c.toNat
  else [c]

/-- The text between the quotes of a form with escapes. At most `free` quotes in a row stand for
themselves; `run` of them stand directly before. -/
def escapeText (long : Bool) (free run : Nat) : List Char → List Char
  | [] => []
  | c :: rest =>
    if c = '"' then
      if run < free then '"' :: escapeText long free (run + 1) rest
      else '\\' :: '"' :: escapeText long free 0 rest
    else escapeChar long c ++ escapeText long free 0 rest

/-- A line feed behind the opening quotes does not count, so that a text with lines starts on a line
of its own. -/
def openingLine (s : List Char) : List Char := if s.contains '\n' then ['\n'] else []

def writeString (s : List Char) : List Char :=
  match quotingOf s with
  | .basic => '"' :: escapeText false 0 0 s ++ ['"']
  | .literal => '\'' :: s ++ ['\'']
  | .longBasic => ['"', '"', '"'] ++ openingLine s ++ escapeText true 2 0 s ++ ['"', '"', '"']
  | .longLiteral => ['\'', '\'', '\''] ++ openingLine s ++ s ++ ['\'', '\'', '\'']

def writeStrings (items : List String) : List Char :=
  match items with
  | [] => ['[', ']']
  | [item] => '[' :: writeString item.toList ++ [']']
  | items =>
    '[' :: '\n' :: items.flatMap (fun item => spaces 4 ++ writeString item.toList ++ [',', '\n'])
      ++ [']']

def writeEntry (key : String) (text : List Char) : List Char :=
  key.toList ++ ' ' :: '=' :: ' ' :: text ++ ['\n']

def writeHeader (key : String) : List Char := '\n' :: '[' :: key.toList ++ [']', '\n']

end Outline.Toml
