import Outline.Count
import Outline.Text.Blank
import Outline.Text.Digits

namespace Outline.Yaml

open Outline.Text

def nullNames : List String := ["null", "Null", "NULL", "~"]

def boolNames : List String := ["true", "True", "TRUE", "false", "False", "FALSE"]

def specialNumbers : List String :=
  [".inf", ".Inf", ".INF", "+.inf", "+.Inf", "+.INF", "-.inf", "-.Inf", "-.INF",
    ".nan", ".NaN", ".NAN"]

def ofBase? (base : Nat) (digits : List Char) : Option Nat :=
  if digits.isEmpty then none
  else digits.foldlM (fun n c =>
    match hexValue? c with
    | some d => if d < base then some (base * n + d) else none
    | none => none) 0

def isMarkedInteger (mark : Char) (base : Nat) (s : List Char) : Bool :=
  let inside (digits : List Char) (limit : Nat) : Bool :=
    ((ofBase? base digits).map fun n => decide (n < limit)).getD false
  match s with
  | '+' :: '0' :: m :: digits => m == mark && inside digits (wordCount 128)
  | '-' :: '0' :: m :: digits => m == mark && inside digits (wordCount 127 + 1)
  | '0' :: m :: digits => m == mark && inside digits (wordCount 128)
  | _ => false

def isZeroPadded (s : List Char) : Bool :=
  let digits := match s with
    | '-' :: rest => rest
    | '+' :: rest => rest
    | s => s
  match digits with
  | '0' :: rest => !rest.isEmpty && rest.all isDigit
  | _ => false

structure Decimal where
  digits : Nat
  exponent : Int
deriving Repr, DecidableEq

def exponentOf? (s : List Char) : Option Int :=
  match s with
  | [] => some 0
  | mark :: rest =>
    if mark == 'e' || mark == 'E' then
      let (negative, digits) := match rest with
        | '-' :: digits => (true, digits)
        | '+' :: digits => (false, digits)
        | digits => (false, digits)
      if digits.isEmpty || !digits.all isDigit then none
      else
        let n : Int := natOfDigits digits
        some (if negative then -n else n)
    else none

def Decimal.parse? (s : List Char) : Option Decimal := do
  let whole := s.takeWhile isDigit
  let rest := s.dropWhile isDigit
  let (fraction, rest) := match rest with
    | '.' :: rest => (rest.takeWhile isDigit, rest.dropWhile isDigit)
    | rest => ([], rest)
  if whole.isEmpty && fraction.isEmpty then none
  let exponent ← exponentOf? rest
  return { digits := natOfDigits (whole ++ fraction), exponent := exponent - fraction.length }

/-- Whether a decimal rounds to a finite number of 64 bits: it lies below the middle between the
largest one and the next power of two. -/
def Decimal.isFinite (d : Decimal) : Bool :=
  let limit := wordCount 1024 - wordCount 970
  if d.digits = 0 then true
  else match d.exponent with
    | .ofNat e => e ≤ 310 && d.digits * Nat.pow 10 e < limit
    | .negSucc e =>
      (Nat.toDigits 10 d.digits).length ≤ e + 1 || d.digits < limit * Nat.pow 10 (e + 1)

def isDecimal (s : List Char) : Bool :=
  let unsigned := match s with
    | '-' :: rest => rest
    | '+' :: rest => rest
    | s => s
  ((Decimal.parse? unsigned).map Decimal.isFinite).getD false

def readsAsOther (s : List Char) : Bool :=
  s.isEmpty || (nullNames ++ boolNames ++ specialNumbers).any (·.toList == s) ||
    isMarkedInteger 'x' 16 s || isMarkedInteger 'o' 8 s || isMarkedInteger 'b' 2 s ||
    isZeroPadded s || isDecimal s

def isBreak (c : Char) : Bool :=
  c == '\n' || c == '\r' || c == '\u0085' || c == '\u2028' || c == '\u2029'

def isGap : Option Char → Bool
  | none => true
  | some c => c == ' ' || c == '\t' || c == '\x00' || isBreak c

def isPrintable (c : Char) : Bool :=
  let n := c.toNat
  n == 0x0A || (0x20 ≤ n && n ≤ 0x7E) || (0xA0 ≤ n && n ≤ 0xFFFD && n != 0xFEFF)

def opensOther (c : Char) : Bool :=
  ['#', ',', '[', ']', '\x7b', '\x7d', '&', '*', '!', '|', '>', '\'', '"', '%', '@', '`'].contains c

def isIndicator (previous : Option Char) (c : Char) (next : Option Char) : Bool :=
  match previous with
  | none => opensOther c || ((c == '?' || c == ':' || c == '-') && isGap next)
  | some p => (c == ':' && isGap next) || (c == '#' && isGap (some p))

def hasIndicator (previous : Option Char) : List Char → Bool
  | [] => false
  | c :: rest => isIndicator previous c rest.head? || hasIndicator (some c) rest

def hasPair (p q : Char → Bool) : List Char → Bool
  | c :: d :: rest => (p c && q d) || hasPair p q (d :: rest)
  | _ => false

def isSpace (c : Char) : Bool := c == ' '

def startsWith (p : Char → Bool) (s : List Char) : Bool := (s.head?.map p).getD false

def endsWith (p : Char → Bool) (s : List Char) : Bool := (s.getLast?.map p).getD false

def opensDocument (s : List Char) : Bool :=
  ['-', '-', '-'].isPrefixOf s || ['.', '.', '.'].isPrefixOf s

def isClean (s : List Char) : Bool := s.all isPrintable && !hasPair isSpace isBreak s

def plainAllowed (s : List Char) : Bool :=
  isClean s && !s.any isBreak && !startsWith isSpace s && !endsWith isSpace s &&
    !opensDocument s && !hasIndicator none s

def singleQuotedAllowed (s : List Char) : Bool := isClean s && !hasPair isBreak isSpace s

def literalAllowed (s : List Char) : Bool := isClean s && !endsWith isSpace s

inductive Style where
  | plain
  | singleQuoted
  | doubleQuoted
  | literal
deriving Repr, DecidableEq

def styleOf (s : List Char) : Style :=
  if s.contains '\n' then
    if literalAllowed s then .literal else .doubleQuoted
  else if !readsAsOther s && plainAllowed s then .plain
  else if singleQuotedAllowed s then .singleQuoted
  else .doubleQuoted

def indented (indent : Nat) (fresh : Bool) : List Char → List Char
  | [] => []
  | c :: rest =>
    if isBreak c then c :: indented indent true rest
    else (if fresh then spaces indent else []) ++ c :: indented indent false rest

def singleQuoted (indent : Nat) (s : List Char) : List Char :=
  let doubled := s.flatMap fun c => if c == '\'' then ['\'', '\''] else [c]
  '\'' :: indented indent false doubled ++
    (if endsWith isBreak s then spaces indent else []) ++ ['\'']

def escapeText (c : Char) : List Char :=
  match c.toNat with
  | 0x00 => ['0']
  | 0x07 => ['a']
  | 0x08 => ['b']
  | 0x09 => ['t']
  | 0x0A => ['n']
  | 0x0B => ['v']
  | 0x0C => ['f']
  | 0x0D => ['r']
  | 0x1B => ['e']
  | 0x22 => ['"']
  | 0x5C => ['\\']
  | 0x85 => ['N']
  | 0x2028 => ['L']
  | 0x2029 => ['P']
  | n =>
    if n ≤ 0xFF then 'x' :: hexText 2 n
    else if n ≤ 0xFFFF then 'u' :: hexText 4 n
    else 'U' :: hexText 8 n

def doubleQuoted (s : List Char) : List Char :=
  '"' :: s.flatMap (fun c =>
    if !isPrintable c || isBreak c || c == '"' || c == '\\' then '\\' :: escapeText c else [c]) ++
    ['"']

def indentHint (s : List Char) : List Char :=
  if startsWith isSpace s || startsWith isBreak s then ['2'] else []

def chompHint (s : List Char) : List Char :=
  match s.reverse with
  | [] => ['-']
  | [c] => if isBreak c then ['+'] else ['-']
  | c :: d :: _ => if !isBreak c then ['-'] else if isBreak d then ['+'] else []

def literal (indent : Nat) (s : List Char) : List Char :=
  '|' :: indentHint s ++ chompHint s ++ '\n' :: indented indent true s

def scalarLine (indent : Nat) (s : List Char) : List Char :=
  match styleOf s with
  | .plain => s ++ ['\n']
  | .singleQuoted => singleQuoted indent s ++ ['\n']
  | .doubleQuoted => doubleQuoted s ++ ['\n']
  | .literal => literal indent s ++ (if endsWith isBreak s then [] else ['\n'])

end Outline.Yaml
