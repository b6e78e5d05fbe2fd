namespace Outline.Exclude

structure CharRange where
  first : Char
  last : Char
deriving Repr, DecidableEq

def CharRange.holds (range : CharRange) (c : Char) : Bool := range.first ≤ c && c ≤ range.last

inductive Token where
  | char (c : Char)
  | anyChar
  | anySequence
  /-- Any number of whole directories. -/
  | anyDirs
  | oneOf (ranges : List CharRange)
  | noneOf (ranges : List CharRange)
deriving Repr, DecidableEq

inductive Fault where
  | tooManyStars (position : Nat)
  | partOfComponent (position : Nat)
  | badRange (position : Nat)
deriving Repr, DecidableEq

def Fault.message : Fault → String
  | .tooManyStars position =>
    "Pattern syntax error near position " ++ toString position ++
      ": wildcards are either regular `*` or recursive `**`"
  | .partOfComponent position =>
    "Pattern syntax error near position " ++ toString position ++
      ": recursive wildcards must form a single path component"
  | .badRange position =>
    "Pattern syntax error near position " ++ toString position ++ ": invalid range pattern"

def charRanges : List Char → List CharRange
  | a :: '-' :: b :: rest => ⟨a, b⟩ :: charRanges rest
  | a :: rest => ⟨a, a⟩ :: charRanges rest
  | [] => []

def toBracket (s : List Char) : Option (List Char × List Char) :=
  match s.dropWhile (· != ']') with
  | [] => none
  | _ :: rest => some (s.takeWhile (· != ']'), rest)

def readRange (s : List Char) : Option (Token × List Char) :=
  match s with
  | '!' :: c :: rest =>
    (toBracket rest).map fun (more, rest) => (.noneOf (charRanges (c :: more)), rest)
  | '!' :: [] => none
  | c :: rest =>
    (toBracket rest).map fun (more, rest) => (.oneOf (charRanges (c :: more)), rest)
  | [] => none

/-- The tokens of a pattern from `position` on, behind the character `previous`; each step takes a
unit of `fuel`, of which the length of the text is enough. -/
def readTokens (fuel : Nat) (previous : Option Char) (position : Nat) (s : List Char) :
    Except Fault (List Token) :=
  match fuel with
  | 0 => .ok []
  | fuel + 1 =>
    match s with
    | [] => .ok []
    | '?' :: rest => (readTokens fuel (some '?') (position + 1) rest).map (.anyChar :: ·)
    | '*' :: rest =>
      let stars := rest.takeWhile (· == '*')
      let behind := rest.dropWhile (· == '*')
      let after := position + 1 + stars.length
      match stars.length with
      | 0 => (readTokens fuel (some '*') after behind).map (.anySequence :: ·)
      | 1 =>
        if previous == none || previous == some '/' then
          match behind with
          | [] => .ok [.anyDirs]
          | '/' :: behind =>
            (readTokens fuel (some '/') (after + 1) behind).map (.anyDirs :: ·)
          | _ => .error (.partOfComponent after)
        else .error (.partOfComponent (position - 1))
      | _ => .error (.tooManyStars (position + 2))
    | '[' :: rest =>
      match readRange rest with
      | some (token, behind) =>
        (readTokens fuel (some ']') (position + 1 + (rest.length - behind.length)) behind).map
          (token :: ·)
      | none => .error (.badRange position)
    | c :: rest => (readTokens fuel (some c) (position + 1) rest).map (.char c :: ·)

structure Pattern where
  tokens : List Token
deriving Repr, DecidableEq

def Pattern.parse (text : String) : Except Fault Pattern :=
  (readTokens (text.toList.length + 1) none 0 text.toList).map Pattern.mk

def anySuffix (test : List Char → Bool) : List Char → Bool
  | [] => test []
  | c :: rest => test (c :: rest) || anySuffix test rest

def anyBelow (test : List Char → Bool) : List Char → Bool
  | [] => test []
  | c :: rest => (c == '/' && test rest) || anyBelow test rest

def matchTokens : List Token → List Char → Bool
  | [], s => s.isEmpty
  | .anySequence :: tokens, s => anySuffix (matchTokens tokens) s
  | .anyDirs :: tokens, s => matchTokens tokens s || anyBelow (matchTokens tokens) s
  | .char c :: tokens, d :: rest => c == d && matchTokens tokens rest
  | .anyChar :: tokens, _ :: rest => matchTokens tokens rest
  | .oneOf ranges :: tokens, d :: rest => ranges.any (·.holds d) && matchTokens tokens rest
  | .noneOf ranges :: tokens, d :: rest => !ranges.any (·.holds d) && matchTokens tokens rest
  | _ :: _, [] => false

def Pattern.fits (pattern : Pattern) (path : List Char) : Bool := matchTokens pattern.tokens path

end Outline.Exclude
