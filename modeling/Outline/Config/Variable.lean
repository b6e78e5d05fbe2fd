import Outline.Count
import Outline.Text.Blank
import Outline.Text.Digits
import Outline.Toml.Overlay
import Outline.Toml.Reader

namespace Outline.Variable

open Outline.Text Outline.Toml

def isSpace (c : Char) : Bool := c == ' ' || c == '\t' || c == '\n' || c == '\x0c' || c == '\r'

def skipSpace (s : List Char) : List Char := s.dropWhile isSpace

def isSeparator (c : Char) : Bool :=
  c == ',' || c == '\x7b' || c == '\x7d' || c == '[' || c == ']'

def isKeyChar (c : Char) : Bool := c.isAlphanum || c == '_' || c == '-'

def isDecimal (s : List Char) : Bool :=
  let unsigned := match s with
    | '+' :: rest => rest
    | '-' :: rest => rest
    | s => s
  let whole := unsigned.takeWhile isDigit
  match unsigned.dropWhile isDigit with
  | '.' :: behind =>
    let fraction := behind.takeWhile isDigit
    let hasExponent := match behind.dropWhile isDigit with
      | [] => true
      | e :: '+' :: digits => (e == 'e' || e == 'E') && !digits.isEmpty && digits.all isDigit
      | e :: '-' :: digits => (e == 'e' || e == 'E') && !digits.isEmpty && digits.all isDigit
      | e :: digits => (e == 'e' || e == 'E') && !digits.isEmpty && digits.all isDigit
    (!whole.isEmpty || !fraction.isEmpty) && hasExponent
  | _ => false

def integer? (s : List Char) : Option Int :=
  let number := fun (digits : List Char) =>
    if digits.isEmpty || !digits.all isDigit then none else some (natOfDigits digits)
  match s with
  | '-' :: digits => (number digits).bind fun n => if n ≤ wordCount 63 then some (-(n : Int)) else none
  | '+' :: digits => (number digits).bind fun n => if n < wordCount 64 then some (n : Int) else none
  | digits => (number digits).bind fun n => if n < wordCount 64 then some (n : Int) else none

def plainValue (s : List Char) : Value :=
  if isDecimal s then .float
  else match integer? s with
    | some n => .int n
    | none => .str (String.ofList s)

def toQuote (held : List Char) : List Char → Option (List Char × List Char)
  | [] => none
  | '\\' :: c :: rest => toQuote (c :: '\\' :: held) rest
  | c :: rest => if c = '"' then some (held.reverse, rest) else toQuote (c :: held) rest

def unescape (fuel : Nat) : List Char → Option (List Char)
  | [] => some []
  | c :: rest =>
    match fuel with
    | 0 => none
    | fuel + 1 =>
      match c, rest with
      | '\\', 'u' :: rest =>
        if rest.length < 4 then none
        else do return (← scalar? (rest.take 4)) :: (← unescape fuel (rest.drop 4))
      | '\\', 'U' :: rest =>
        if rest.length < 8 then none
        else do return (← scalar? (rest.take 8)) :: (← unescape fuel (rest.drop 8))
      | '\\', d :: rest => do return (← shortEscape? d) :: (← unescape fuel rest)
      | c, rest => if isPlain c then (unescape fuel rest).map (c :: ·) else none

def quoted? (s : List Char) : Option (String × List Char) := do
  let (inner, rest) ← toQuote [] s
  let text ← unescape inner.length inner
  return (String.ofList text, rest)

def readKey (s : List Char) : Option (String × List Char) := do
  let (key, rest) ← match skipSpace s with
    | '"' :: rest => quoted? rest
    | s =>
      let key := s.takeWhile isKeyChar
      if key.isEmpty then none else some (String.ofList key, s.dropWhile isKeyChar)
  match skipSpace rest with
  | '=' :: rest => return (key, rest)
  | _ => none

mutual

def readValue (fuel : Nat) (s : List Char) : Option (Value × List Char) :=
  match fuel with
  | 0 => none
  | fuel + 1 =>
    let finish := fun (value, rest) => (value, skipSpace rest)
    Option.map finish <| match skipSpace s with
      | 't' :: 'r' :: 'u' :: 'e' :: rest => some (.bool true, rest)
      | 'f' :: 'a' :: 'l' :: 's' :: 'e' :: rest => some (.bool false, rest)
      | '\x7b' :: rest => (readFields fuel [] rest).map fun (fields, rest) => (.table fields, rest)
      | '[' :: rest => (readItems fuel [] rest).map fun (items, rest) => (.arr items, rest)
      | '"' :: rest => (quoted? rest).map fun (text, rest) => (.str text, rest)
      | '\'' :: rest =>
        match rest with
        | c :: '\'' :: rest => some (.str (String.ofList [c]), rest)
        | _ => none
      | s => some (plainValue (trim (s.takeWhile (!isSeparator ·))), s.dropWhile (!isSeparator ·))

def readItems (fuel : Nat) (held : List Value) (s : List Char) :
    Option (List Value × List Char) :=
  match fuel with
  | 0 => none
  | fuel + 1 =>
    match s with
    | ']' :: rest => some (held.reverse, rest)
    | s =>
      match readValue fuel s with
      | some (item, ',' :: rest) => readItems fuel (item :: held) rest
      | some (item, ']' :: rest) => some ((item :: held).reverse, rest)
      | _ => none

def readFields (fuel : Nat) (held : List (String × Value)) (s : List Char) :
    Option (List (String × Value) × List Char) :=
  match fuel with
  | 0 => none
  | fuel + 1 =>
    match s with
    | '\x7d' :: rest => some (held, rest)
    | s =>
      match readKey s with
      | none => none
      | some (key, rest) =>
        match readValue fuel rest with
        | some (value, ',' :: rest) => readFields fuel (assign held key value) rest
        | some (value, '\x7d' :: rest) => some (assign held key value, rest)
        | _ => none

end

/-- The value that a text stands for; a text that cannot be read as a whole stands for itself. -/
def value (text : String) : Value :=
  match readValue (2 * text.length + 2) text.toList with
  | some (value, []) => value
  | _ => .str text

def nest (value : Value) : List (List Char) → Value
  | [] => value
  | key :: path => .table [(String.ofList key, nest value path)]

def namePrefix : List Char := "PYWEAVE_".toList

/-- The keys that the name of a variable stands for, if it is one for settings. Letters of both
cases are the same, and no key is empty. -/
def keys? (name : String) : Option (List (List Char)) :=
  let name := trim name.toList
  if (name.take namePrefix.length).map Char.toUpper = namePrefix then
    let key := trim ((name.drop namePrefix.length).map fun c => if c = '_' then '.' else c)
    let keys := (key.map Char.toLower).splitOn '.'
    if keys.contains [] then none else some keys
  else none

def layer (bindings : List (String × String)) : List (String × Value) :=
  bindings.foldl (fun fields (name, text) =>
    match (keys? name).map (nest (value text)) with
    | some (.table given) => overlayFields fields given
    | _ => fields) []

end Outline.Variable
