import Outline.Count
import Outline.Text.Digits
import Outline.Toml.Basic

namespace Outline.Toml

open Outline.Text

def isSpace (c : Char) : Bool := c == ' ' || c == '\t'

def skipSpace (s : List Char) : List Char := s.dropWhile isSpace

def isPlain (c : Char) : Bool := c == '\t' || (0x20 ≤ c.toNat && c.toNat != 0x7F)

def newline? : List Char → Option (List Char)
  | '\n' :: rest => some rest
  | '\r' :: '\n' :: rest => some rest
  | _ => none

def lineEnd? (s : List Char) : Option (List Char) :=
  let rest := match skipSpace s with
    | '#' :: rest => rest.dropWhile isPlain
    | rest => rest
  if rest.isEmpty then some [] else newline? rest

def skipFiller (inComment : Bool) : List Char → Option (List Char)
  | [] => some []
  | '\n' :: rest => skipFiller false rest
  | '\r' :: '\n' :: rest => skipFiller false rest
  | c :: rest =>
    if inComment then (if isPlain c then skipFiller true rest else none)
    else if isSpace c then skipFiller false rest
    else if c == '#' then skipFiller true rest
    else some (c :: rest)

def scalar? (digits : List Char) : Option Char :=
  match digits.mapM hexValue? with
  | none => none
  | some values =>
    let n := values.foldl (fun n d => 16 * n + d) 0
    if n < 0xD800 || (0xDFFF < n && n < 0x110000) then some (Char.ofNat n) else none

def shortEscape? : Char → Option Char
  | '"' => some '"'
  | '\\' => some '\\'
  | 'b' => some '\x08'
  | 'f' => some '\x0c'
  | 'n' => some '\n'
  | 'r' => some '\r'
  | 't' => some '\t'
  | _ => none

def readBasic (held : List Char) : List Char → Option (List Char × List Char)
  | [] => none
  | '"' :: rest => some (held.reverse, rest)
  | '\\' :: 'u' :: a :: b :: c :: d :: rest =>
    match scalar? [a, b, c, d] with
    | some e => readBasic (e :: held) rest
    | none => none
  | '\\' :: 'U' :: a :: b :: c :: d :: e :: f :: g :: h :: rest =>
    match scalar? [a, b, c, d, e, f, g, h] with
    | some e => readBasic (e :: held) rest
    | none => none
  | '\\' :: c :: rest =>
    match shortEscape? c with
    | some e => readBasic (e :: held) rest
    | none => none
  | c :: rest => if isPlain c && c != '\\' then readBasic (c :: held) rest else none

/-- The rest of a string in three double quotes. Up to two quotes may stand directly before the
closing ones. After a backslash at the end of a line `skipping` drops what is blank. -/
def readLongBasic (skipping : Bool) (held : List Char) :
    List Char → Option (List Char × List Char)
  | [] => none
  | '"' :: '"' :: '"' :: '"' :: '"' :: rest => some (('"' :: '"' :: held).reverse, rest)
  | '"' :: '"' :: '"' :: '"' :: rest => some (('"' :: held).reverse, rest)
  | '"' :: '"' :: '"' :: rest => some (held.reverse, rest)
  | '\\' :: 'u' :: a :: b :: c :: d :: rest =>
    match scalar? [a, b, c, d] with
    | some e => readLongBasic false (e :: held) rest
    | none => none
  | '\\' :: 'U' :: a :: b :: c :: d :: e :: f :: g :: h :: rest =>
    match scalar? [a, b, c, d, e, f, g, h] with
    | some e => readLongBasic false (e :: held) rest
    | none => none
  | '\\' :: c :: rest =>
    match shortEscape? c with
    | some e => readLongBasic false (e :: held) rest
    | none =>
      if (newline? (skipSpace (c :: rest))).isSome then readLongBasic true held (c :: rest)
      else none
  | '\r' :: '\n' :: rest => readLongBasic skipping (if skipping then held else '\n' :: held) rest
  | '\n' :: rest => readLongBasic skipping (if skipping then held else '\n' :: held) rest
  | c :: rest =>
    if skipping && isSpace c then readLongBasic true held rest
    else if isPlain c && c != '\\' then readLongBasic false (c :: held) rest
    else none

def readLiteral (s : List Char) : Option (List Char × List Char) :=
  let text := s.takeWhile fun c => c != '\'' && isPlain c
  match s.dropWhile fun c => c != '\'' && isPlain c with
  | '\'' :: rest => some (text, rest)
  | _ => none

def readLongLiteral (held : List Char) : List Char → Option (List Char × List Char)
  | [] => none
  | '\'' :: '\'' :: '\'' :: '\'' :: '\'' :: rest => some (('\'' :: '\'' :: held).reverse, rest)
  | '\'' :: '\'' :: '\'' :: '\'' :: rest => some (('\'' :: held).reverse, rest)
  | '\'' :: '\'' :: '\'' :: rest => some (held.reverse, rest)
  | '\r' :: '\n' :: rest => readLongLiteral ('\n' :: held) rest
  | '\n' :: rest => readLongLiteral ('\n' :: held) rest
  | c :: rest => if isPlain c then readLongLiteral (c :: held) rest else none

def dropNewline (s : List Char) : List Char := (newline? s).getD s

def readString : List Char → Option (List Char × List Char)
  | '"' :: '"' :: '"' :: rest => readLongBasic false [] (dropNewline rest)
  | '"' :: rest => readBasic [] rest
  | '\'' :: '\'' :: '\'' :: rest => readLongLiteral [] (dropNewline rest)
  | '\'' :: rest => readLiteral rest
  | _ => none

def isBareKey (c : Char) : Bool := c.isAlphanum || c == '_' || c == '-'

def readSimpleKey : List Char → Option (String × List Char)
  | '"' :: rest => (readBasic [] rest).map fun (key, rest) => (String.ofList key, rest)
  | '\'' :: rest => (readLiteral rest).map fun (key, rest) => (String.ofList key, rest)
  | s =>
    let key := s.takeWhile isBareKey
    if key.isEmpty then none else some (String.ofList key, s.dropWhile isBareKey)

def readKey (fuel : Nat) (s : List Char) : Option (List String × String × List Char) :=
  match fuel with
  | 0 => none
  | fuel + 1 =>
    match readSimpleKey (skipSpace s) with
    | none => none
    | some (key, rest) =>
      match skipSpace rest with
      | '.' :: rest => (readKey fuel rest).map fun (path, last, rest) => (key :: path, last, rest)
      | rest => some ([], key, rest)

def isDigits (p : Char → Bool) : List Char → Bool
  | [] => false
  | [c] => p c
  | c :: '_' :: rest => p c && isDigits p rest
  | c :: rest => p c && isDigits p rest

def digitsValue (base : Nat) (digits : List Char) : Nat :=
  (digits.filterMap hexValue?).foldl (fun n d => base * n + d) 0

def isDecimal : List Char → Bool
  | ['0'] => true
  | '0' :: _ => false
  | s => isDigits isDigit s

def dropSign : List Char → List Char
  | '+' :: rest => rest
  | '-' :: rest => rest
  | s => s

def integer? (token : List Char) : Option Int :=
  let marked (base : Nat) (p : Char → Bool) (digits : List Char) : Option Int :=
    if isDigits p digits then some (digitsValue base digits) else none
  match token with
  | '0' :: 'x' :: digits => marked 16 (fun c => (hexValue? c).isSome) digits
  | '0' :: 'o' :: digits => marked 8 (fun c => '0' ≤ c && c ≤ '7') digits
  | '0' :: 'b' :: digits => marked 2 (fun c => c == '0' || c == '1') digits
  | '-' :: digits => if isDecimal digits then some (-(digitsValue 10 digits : Int)) else none
  | token => if isDecimal (dropSign token) then some (digitsValue 10 (dropSign token)) else none

def cutAt (p : Char → Bool) (s : List Char) : Option (List Char × List Char) :=
  match s.dropWhile fun c => !p c with
  | [] => none
  | _ :: rest => some (s.takeWhile (fun c => !p c), rest)

def isExponent (s : List Char) : Bool := isDigits isDigit (dropSign s)

def isFloat (token : List Char) : Bool :=
  let token := dropSign token
  if token == ['i', 'n', 'f'] || token == ['n', 'a', 'n'] then true
  else
    let isMark := fun c => c == 'e' || c == 'E'
    match cutAt (· == '.') token, cutAt isMark token with
    | none, none => false
    | none, some (whole, exponent) => isDecimal whole && isExponent exponent
    | some (whole, fraction), _ =>
      isDecimal whole &&
        match cutAt isMark fraction with
        | none => isDigits isDigit fraction
        | some (fraction, exponent) => isDigits isDigit fraction && isExponent exponent

def twoDigits? (low high : Nat) : List Char → Option (Nat × List Char)
  | a :: b :: rest =>
    if isDigit a && isDigit b then
      let n := natOfDigits [a, b]
      if low ≤ n && n ≤ high then some (n, rest) else none
    else none
  | _ => none

def isLeapYear (year : Nat) : Bool := year % 4 == 0 && (year % 100 != 0 || year % 400 == 0)

def daysIn (year month : Nat) : Nat :=
  match month with
  | 2 => if isLeapYear year then 29 else 28
  | 4 => 30
  | 6 => 30
  | 9 => 30
  | 11 => 30
  | _ => 31

def date? : List Char → Option (List Char)
  | a :: b :: c :: d :: '-' :: rest =>
    if [a, b, c, d].all isDigit then
      match twoDigits? 1 12 rest with
      | some (month, '-' :: rest) =>
        (twoDigits? 1 (daysIn (natOfDigits [a, b, c, d]) month) rest).map (·.2)
      | _ => none
    else none
  | _ => none

def time? (s : List Char) : Option (List Char) :=
  match twoDigits? 0 23 s with
  | some (_, ':' :: rest) =>
    match twoDigits? 0 59 rest with
    | some (_, ':' :: rest) =>
      match twoDigits? 0 60 rest with
      | some (_, '.' :: rest) =>
        if (rest.takeWhile isDigit).isEmpty then none else some (rest.dropWhile isDigit)
      | some (_, rest) => some rest
      | none => none
    | _ => none
  | _ => none

def isOffset (s : List Char) : Bool :=
  match s with
  | ['Z'] => true
  | ['z'] => true
  | sign :: rest =>
    (sign == '+' || sign == '-') &&
      match twoDigits? 0 23 rest with
      | some (_, ':' :: rest) => (twoDigits? 0 59 rest).map (·.2) == some []
      | _ => false
  | [] => false

def isTimeWithOffset (s : List Char) : Bool :=
  match time? s with
  | some rest => rest.isEmpty || isOffset rest
  | none => false

def isDateTime (token : List Char) : Bool :=
  match date? token with
  | some [] => true
  | some (mark :: rest) =>
    (mark == 'T' || mark == 't' || mark == ' ') && isTimeWithOffset rest
  | none => time? token == some []

def isTokenChar (c : Char) : Bool :=
  c.isAlphanum || c == '_' || c == '+' || c == '-' || c == '.' || c == ':'

/-- The characters of a value that is no string, array or table. A date and a time may be a space
apart. -/
def readToken (s : List Char) : List Char × List Char :=
  let token := s.takeWhile isTokenChar
  match s.dropWhile isTokenChar with
  | ' ' :: a :: b :: ':' :: rest =>
    if date? token == some [] && isDigit a && isDigit b then
      let time := a :: b :: ':' :: rest
      (token ++ ' ' :: time.takeWhile isTokenChar, time.dropWhile isTokenChar)
    else (token, ' ' :: a :: b :: ':' :: rest)
  | rest => (token, rest)

def tokenValue? (token : List Char) : Option Value :=
  if token == ['t', 'r', 'u', 'e'] then some (.bool true)
  else if token == ['f', 'a', 'l', 's', 'e'] then some (.bool false)
  else match integer? token with
    | some n => some (.int n)
    | none => if isFloat token then some .float else if isDateTime token then some .datetime else none

abbrev Entry := List String × String × Value

def tableOfEntries? (entries : List Entry) : Option Value :=
  (entries.foldlM (fun fields (path, key, value) => Fields.set path key value fields) []).map
    fun fields => .table (fieldValues fields)

def maxDepth : Nat := 80

mutual

/-- A value. `depth` arrays and tables may still be opened; each step takes a unit of `fuel`, of
which the length of the text is enough. -/
def readValue (fuel depth : Nat) (s : List Char) : Option (Value × List Char) :=
  match fuel with
  | 0 => none
  | fuel + 1 =>
    match s with
    | '[' :: rest =>
      match depth with
      | 0 => none
      | depth + 1 => (readItems fuel depth [] rest).map fun (items, rest) => (.arr items, rest)
    | '{' :: rest =>
      match depth with
      | 0 => none
      | depth + 1 =>
        match skipSpace rest with
        | '}' :: rest => some (.table [], rest)
        | rest =>
          match readEntries fuel depth [] rest with
          | none => none
          | some (entries, rest) => (tableOfEntries? entries).map fun value => (value, rest)
    | '"' :: _ => (readString s).map fun (text, rest) => (.str (String.ofList text), rest)
    | '\'' :: _ => (readString s).map fun (text, rest) => (.str (String.ofList text), rest)
    | s => (tokenValue? (readToken s).1).map fun value => (value, (readToken s).2)

def readItems (fuel depth : Nat) (held : List Value) (s : List Char) :
    Option (List Value × List Char) :=
  match fuel with
  | 0 => none
  | fuel + 1 =>
    match skipFiller false s with
    | some (']' :: rest) => some (held.reverse, rest)
    | some rest =>
      match readValue fuel depth rest with
      | none => none
      | some (item, rest) =>
        match skipFiller false rest with
        | some (',' :: rest) => readItems fuel depth (item :: held) rest
        | some (']' :: rest) => some ((item :: held).reverse, rest)
        | _ => none
    | none => none

def readEntries (fuel depth : Nat) (held : List Entry) (s : List Char) :
    Option (List Entry × List Char) :=
  match fuel with
  | 0 => none
  | fuel + 1 =>
    match readKey fuel s with
    | some (path, key, '=' :: rest) =>
      match readValue fuel depth (skipSpace rest) with
      | none => none
      | some (value, rest) =>
        match skipSpace rest with
        | ',' :: rest => readEntries fuel depth ((path, key, value) :: held) rest
        | '}' :: rest => some (((path, key, value) :: held).reverse, rest)
        | _ => none
    | _ => none

end

def readStatement (s : List Char) : Option (Statement × List Char) :=
  let fuel := s.length + 1
  match s with
  | '[' :: '[' :: rest =>
    match readKey fuel rest with
    | some (path, key, ']' :: ']' :: rest) =>
      (lineEnd? rest).map fun rest => (.listHeader path key, rest)
    | _ => none
  | '[' :: rest =>
    match readKey fuel rest with
    | some (path, key, ']' :: rest) => (lineEnd? rest).map fun rest => (.header path key, rest)
    | _ => none
  | s =>
    match readKey fuel s with
    | some (path, key, '=' :: rest) =>
      match readValue fuel maxDepth (skipSpace rest) with
      | some (value, rest) => (lineEnd? rest).map fun rest => (.entry path key value, rest)
      | none => none
    | _ => none

def readStatements (fuel : Nat) (held : List Statement) (s : List Char) :
    Option (List Statement) :=
  match fuel with
  | 0 => none
  | fuel + 1 =>
    match skipFiller false s with
    | none => none
    | some [] => some held.reverse
    | some rest =>
      match readStatement rest with
      | none => none
      | some (statement, rest) => readStatements fuel (statement :: held) rest

def dropMark : List Char → List Char
  | [] => []
  | c :: rest => if c = '\ufeff' then rest else c :: rest

def parse? (text : List Char) : Option (List (String × Value)) :=
  (readStatements (text.length + 1) [] (dropMark text)).bind build?

def fitsWord (n : Int) : Bool := -(wordCount 63 : Int) ≤ n && n < wordCount 63

mutual

def Value.isBounded : Value → Bool
  | .int n => fitsWord n
  | .arr items => itemsBounded items
  | .table fields => fieldsBounded fields
  | _ => true

def itemsBounded : List Value → Bool
  | [] => true
  | item :: rest => item.isBounded && itemsBounded rest

def fieldsBounded : List (String × Value) → Bool
  | [] => true
  | (_, value) :: rest => value.isBounded && fieldsBounded rest

end

end Outline.Toml
