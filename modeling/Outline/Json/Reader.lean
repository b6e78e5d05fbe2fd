import Outline.Json.Basic
import Outline.Text.Digits

namespace Outline.Json

open Outline.Text

def isSpace (c : Char) : Bool := c == ' ' || c == '\n' || c == '\t' || c == '\r'

def skipSpace (s : List Char) : List Char := s.dropWhile isSpace

def hexUnit? (a b c d : Char) : Option Nat := do
  return ((← hexValue? a) * 16 + (← hexValue? b)) * 256 + (← hexValue? c) * 16 + (← hexValue? d)

def shortEscape? : Char → Option Char
  | '"' => some '"'
  | '\\' => some '\\'
  | '/' => some '/'
  | 'b' => some '\x08'
  | 'f' => some '\x0c'
  | 'n' => some '\n'
  | 'r' => some '\r'
  | 't' => some '\t'
  | _ => none

def isHighSurrogate (n : Nat) : Bool := 0xD800 ≤ n && n ≤ 0xDBFF

def isLowSurrogate (n : Nat) : Bool := 0xDC00 ≤ n && n ≤ 0xDFFF

/-- Adds a character to the reversed text read so far, which is none once half a character came. -/
def push (held : Option (List Char)) (c : Char) : Option (List Char) := held.map (c :: ·)

/-- The rest of a string behind its opening quote. The text is none if an escape names half a
character. -/
def readString (held : Option (List Char)) :
    List Char → Option (Option (List Char) × List Char)
  | [] => none
  | '"' :: rest => some (held.map List.reverse, rest)
  | '\\' :: 'u' :: a :: b :: c :: d :: '\\' :: 'u' :: e :: f :: g :: h :: rest =>
    match hexUnit? a b c d with
    | none => none
    | some unit =>
      if isHighSurrogate unit then
        match hexUnit? e f g h with
        | none => none
        | some second =>
          if isLowSurrogate second then
            readString (push held (Char.ofNat ((unit - 0xD800) * 0x400 + (second - 0xDC00) + 0x10000)))
              rest
          else readString none rest
      else if isLowSurrogate unit then readString none ('\\' :: 'u' :: e :: f :: g :: h :: rest)
      else readString (push held (Char.ofNat unit)) ('\\' :: 'u' :: e :: f :: g :: h :: rest)
  | '\\' :: 'u' :: a :: b :: c :: d :: rest =>
    match hexUnit? a b c d with
    | none => none
    | some unit =>
      if isHighSurrogate unit || isLowSurrogate unit then readString none rest
      else readString (push held (Char.ofNat unit)) rest
  | '\\' :: c :: rest =>
    match shortEscape? c with
    | none => none
    | some e => readString (push held e) rest
  | c :: rest => if c.toNat < 32 then none else readString (push held c) rest

def readDigits (s : List Char) : Option (List Char × List Char) :=
  let digits := s.takeWhile isDigit
  if digits.isEmpty then none else some (digits, s.dropWhile isDigit)

def readWhole : List Char → Option (List Char × List Char)
  | '0' :: rest => if (rest.head?.map isDigit).getD false then none else some (['0'], rest)
  | s => readDigits s

def readFraction : List Char → Option (List Char × List Char)
  | '.' :: rest => (readDigits rest).map fun (digits, rest) => ('.' :: digits, rest)
  | s => some ([], s)

def readExponent : List Char → Option (List Char × List Char)
  | c :: rest =>
    if c == 'e' || c == 'E' then
      match rest with
      | d :: behind =>
        if d == '+' || d == '-' then
          (readDigits behind).map fun (digits, rest) => (c :: d :: digits, rest)
        else (readDigits rest).map fun (digits, rest) => (c :: digits, rest)
      | [] => none
    else some ([], c :: rest)
  | [] => some ([], [])

def readNumeral (s : List Char) : Option (Json × List Char) :=
  match s with
  | '-' :: rest => do
    let (whole, rest) ← readWhole rest
    let (fraction, rest) ← readFraction rest
    let (exponent, rest) ← readExponent rest
    return (.numeral ('-' :: whole ++ fraction ++ exponent), rest)
  | s => do
    let (whole, rest) ← readWhole s
    let (fraction, rest) ← readFraction rest
    let (exponent, rest) ← readExponent rest
    if fraction.isEmpty && exponent.isEmpty then return (.nat (natOfDigits whole), rest)
    else return (.numeral (whole ++ fraction ++ exponent), rest)

mutual

/-- A value at the start of a text that does not begin with white space. Each step into a value
takes one unit of `fuel`; the length of the text is enough. -/
def readValue (fuel : Nat) (s : List Char) : Option (Json × List Char) :=
  match fuel with
  | 0 => none
  | fuel + 1 =>
    match s with
    | 'n' :: 'u' :: 'l' :: 'l' :: rest => some (.null, rest)
    | 't' :: 'r' :: 'u' :: 'e' :: rest => some (.bool true, rest)
    | 'f' :: 'a' :: 'l' :: 's' :: 'e' :: rest => some (.bool false, rest)
    | '"' :: rest =>
      match readString (some []) rest with
      | some (some text, rest) => some (.str (String.ofList text), rest)
      | some (none, rest) => some (.brokenStr, rest)
      | none => none
    | '[' :: rest =>
      match skipSpace rest with
      | ']' :: rest => some (.arr [], rest)
      | rest => (readItems fuel [] rest).map fun (items, rest) => (.arr items, rest)
    | '{' :: rest =>
      match skipSpace rest with
      | '}' :: rest => some (.obj [], rest)
      | rest => (readFields fuel [] rest).map fun (fields, rest) => (.obj fields, rest)
    | s => readNumeral s

def readItems (fuel : Nat) (held : List Json) (s : List Char) : Option (List Json × List Char) :=
  match fuel with
  | 0 => none
  | fuel + 1 =>
    match readValue fuel s with
    | none => none
    | some (item, rest) =>
      match skipSpace rest with
      | ',' :: rest => readItems fuel (item :: held) (skipSpace rest)
      | ']' :: rest => some ((item :: held).reverse, rest)
      | _ => none

def readFields (fuel : Nat) (held : List (String × Json)) (s : List Char) :
    Option (List (String × Json) × List Char) :=
  match fuel with
  | 0 => none
  | fuel + 1 =>
    match s with
    | '"' :: rest =>
      match readString (some []) rest with
      | some (some name, rest) =>
        match skipSpace rest with
        | ':' :: rest =>
          match readValue fuel (skipSpace rest) with
          | none => none
          | some (value, rest) =>
            match skipSpace rest with
            | ',' :: rest => readFields fuel ((String.ofList name, value) :: held) (skipSpace rest)
            | '}' :: rest => some (((String.ofList name, value) :: held).reverse, rest)
            | _ => none
        | _ => none
      | _ => none
    | _ => none

end

def parse? (text : List Char) : Option Json :=
  match readValue (text.length + 1) (skipSpace text) with
  | some (value, rest) => if (skipSpace rest).isEmpty then some value else none
  | none => none

end Outline.Json
