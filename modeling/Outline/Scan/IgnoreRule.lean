import Outline.Disk.Path
import Outline.Text.Blank
import Outline.Text.Lines
import Outline.Text.Search

namespace Outline.Ignore

open Outline.Text

inductive Piece where
  | byte (b : UInt8)
  | inName
  /-- Any number of bytes of a name. -/
  | nameRun
  /-- Any number of directories at the front of a path. -/
  | anyFront
  | below
  /-- A slash, or two of them with anything between. -/
  | between
  /-- One byte that lies in one of some ranges, or in none of them. -/
  | choice (negated : Bool) (ranges : List (UInt8 × UInt8))
deriving Repr, DecidableEq

def anyEnd (test : List UInt8 → Bool) : List UInt8 → Bool
  | [] => test []
  | b :: rest => test (b :: rest) || anyEnd test rest

def anyEndInName (test : List UInt8 → Bool) : List UInt8 → Bool
  | [] => test []
  | b :: rest => test (b :: rest) || (b != Path.slash && anyEndInName test rest)

def anyBehindSlash (test : List UInt8 → Bool) : List UInt8 → Bool
  | [] => false
  | b :: rest => (b == Path.slash && test rest) || anyBehindSlash test rest

def fits : List Piece → List UInt8 → Bool
  | [], bytes => bytes.isEmpty
  | .nameRun :: pieces, bytes => anyEndInName (fits pieces) bytes
  | .anyFront :: pieces, bytes => fits pieces bytes || anyBehindSlash (fits pieces) bytes
  | .byte b :: pieces, c :: rest => b == c && fits pieces rest
  | .inName :: pieces, c :: rest => c != Path.slash && fits pieces rest
  | .below :: pieces, c :: rest => c == Path.slash && anyEnd (fits pieces) rest
  | .between :: pieces, c :: rest =>
    c == Path.slash && (fits pieces rest || anyBehindSlash (fits pieces) rest)
  | .choice negated ranges :: pieces, c :: rest =>
    (ranges.any fun (low, high) => low ≤ c && c ≤ high) != negated && fits pieces rest
  | _ :: _, [] => false

inductive Token where
  | pieces (row : List Piece)
  | alternatives (rows : List (List Piece))
deriving Repr, DecidableEq

def expand : List Token → List (List Piece)
  | [] => [[]]
  | .pieces row :: tokens => (expand tokens).map (row ++ ·)
  | .alternatives rows :: tokens => rows.flatMap fun row => (expand tokens).map (row ++ ·)

def alternativesOf (branches : List (List Token)) : Token :=
  match (branches.map expand).filter (· ≠ [[]]) with
  | [] => .pieces []
  | expanded => .alternatives expanded.flatten

def charBytes (c : Char) : List UInt8 := String.utf8EncodeChar c

def Token.ofChar (c : Char) : Token := .pieces ((charBytes c).map .byte)

/-- The bytes of a choice of characters. Only the last byte of the first character and the first
byte of the last one belong to a range; their other bytes stand for themselves. -/
def byteRanges (first last : Char) : List (UInt8 × UInt8) :=
  if first = last then (charBytes first).map fun b => (b, b)
  else
    let start := charBytes first
    let stop := charBytes last
    start.dropLast.map (fun b => (b, b)) ++
      [(start.getLastD 0, stop.headD 0)] ++ stop.tail.map (fun b => (b, b))

inductive Brackets where
  | unclosed
  | reversedRange
  | closed (ranges : List (Char × Char)) (rest : List Char)
deriving Repr, DecidableEq

def readBrackets (held : List (Char × Char)) (isOpen : Bool) : List Char → Brackets
  | [] => .unclosed
  | c :: rest =>
    if c = ']' && !held.isEmpty then
      .closed ((if isOpen then ('-', '-') :: held else held).reverse) rest
    else match isOpen, held with
      | true, (first, _) :: held =>
        if c < first then .reversedRange else readBrackets ((first, c) :: held) false rest
      | _, _ =>
        if c = '-' && !held.isEmpty then readBrackets held true rest
        else readBrackets ((c, c) :: held) false rest

structure Reading where
  previous : Option Char
  /-- The tokens of the current branch, the last one first. -/
  tokens : List Token
  /-- The open braces, the innermost first: the branches before the current one, the last one first,
  and the tokens before the brace. -/
  around : List (List (List Token) × List Token)

def joinStars (reading : Reading) (isEnd : Bool) : List Token :=
  match reading.tokens with
  | .pieces [.anyFront] :: tokens => .pieces [.anyFront] :: tokens
  | .pieces [.below] :: tokens => .pieces [.below] :: tokens
  | tokens => .pieces [if isEnd then .below else .between] :: tokens.tail

def readStars (reading : Reading) (rest : List Char) : List Token × Option Char × List Char :=
  let plain := (.pieces [.nameRun, .nameRun] :: reading.tokens, some '*', rest)
  if reading.tokens.isEmpty then
    match rest with
    | [] => ([.pieces [.anyFront]], some '*', [])
    | c :: behind =>
      if c = '/' then ([.pieces [.anyFront]], some '/', behind) else plain
  else if reading.previous != some '/' &&
      (reading.around.isEmpty ||
        (reading.previous != some ',' && reading.previous != some '\x7b')) then plain
  else match rest with
    | [] => (joinStars reading true, some '*', [])
    | c :: behind =>
      if c = '/' then (joinStars reading false, some '/', behind)
      else if !reading.around.isEmpty && (c = ',' || c = '\x7d') then
        (joinStars reading true, some '*', rest)
      else plain

/-- Reads a pattern. An opening bracket that is never closed stands for itself, from then on with
all others; each step takes a unit of `fuel`. -/
def read (fuel : Nat) (bracketsClose : Bool) (reading : Reading) (text : List Char) :
    Option (List Token) :=
  match fuel, text with
  | 0, _ => none
  | _ + 1, [] => if reading.around.isEmpty then some reading.tokens.reverse else none
  | fuel + 1, c :: rest =>
    let push := fun token => read fuel bracketsClose
      { reading with previous := some c, tokens := token :: reading.tokens } rest
    match c, rest with
    | '?', _ => push (.pieces [.inName])
    | '*', '*' :: rest =>
      let (tokens, previous, rest) := readStars reading rest
      read fuel bracketsClose { reading with previous, tokens } rest
    | '*', _ => push (.pieces [.nameRun])
    | '[', rest =>
      if !bracketsClose then push (.ofChar '[')
      else
        let negated := rest.head? == some '!' || rest.head? == some '^'
        match readBrackets [] false (if negated then rest.tail else rest) with
        | .unclosed =>
          read fuel false
            { reading with previous := some c, tokens := .ofChar '[' :: reading.tokens } rest
        | .reversedRange => none
        | .closed ranges rest =>
          let token := .pieces [.choice negated (ranges.flatMap fun (a, b) => byteRanges a b)]
          read fuel bracketsClose
            { reading with previous := some ']', tokens := token :: reading.tokens } rest
    | '\x7b', _ =>
      read fuel bracketsClose
        { previous := some c, tokens := [], around := ([], reading.tokens) :: reading.around } rest
    | '\x7d', _ =>
      match reading.around with
      | [] => none
      | (branches, outer) :: around =>
        let token := alternativesOf ((reading.tokens :: branches).reverse.map List.reverse)
        read fuel bracketsClose { previous := some c, tokens := token :: outer, around } rest
    | ',', _ =>
      match reading.around with
      | [] => push (.ofChar ',')
      | (branches, outer) :: around =>
        read fuel bracketsClose
          { previous := some c, tokens := [], around := (reading.tokens :: branches, outer) :: around }
          rest
    | '\\', [] => none
    | '\\', d :: rest =>
      read fuel bracketsClose
        { reading with previous := some d, tokens := .ofChar d :: reading.tokens } rest
    | c, _ => push (.ofChar c)

structure Pattern where
  rows : List (List Piece)
deriving Repr, DecidableEq

def Pattern.parse? (text : List Char) : Option Pattern :=
  (read (text.length + 1) true { previous := none, tokens := [], around := [] } text).map
    fun tokens => ⟨expand tokens⟩

def Pattern.fits (pattern : Pattern) (path : List UInt8) : Bool :=
  pattern.rows == [[.anyFront]] || pattern.rows.any (Ignore.fits · path)

structure Rule where
  pattern : Pattern
  /-- The rule takes back what earlier rules ignore. -/
  keeps : Bool
  onlyDirectories : Bool
deriving Repr, DecidableEq

def trimLine (line : List Char) : List Char :=
  if ['\\', ' '].isSuffixOf line then line else trimEnd line

def dropEndSlash (line : List Char) : List Char × Bool :=
  if line.getLast? = some '/' then (dropEnd '\\' line.dropLast, true) else (line, false)

/-- A pattern without a slash fits at every depth. -/
def anchor (line : List Char) (isAnchored : Bool) : List Char :=
  if isAnchored || line.contains '/' || line = ['*', '*'] then line else "**/".toList ++ line

def onlyBelow (line : List Char) : List Char :=
  if "/**".toList.isSuffixOf line then line ++ "/*".toList else line

/-- The rule that a line states. Comments, empty lines and lines that are no pattern state none. -/
def Rule.ofLine? (line : List Char) : Option Rule :=
  let line := trimLine line
  if line.head? = some '#' || line.isEmpty then none
  else
    let isEscaped := (after? "\\!".toList line).isSome || (after? "\\#".toList line).isSome
    let keeps := !isEscaped && line.head? = some '!'
    let line := if isEscaped || keeps then line.tail else line
    let isAnchored := !isEscaped && line.head? = some '/'
    let line := if isAnchored then line.tail else line
    let (line, onlyDirectories) := dropEndSlash line
    (Pattern.parse? (onlyBelow (anchor line isAnchored))).map fun pattern =>
      { pattern, keeps, onlyDirectories }

/-- What the rules of one file say about a path: the last one that fits decides. The answer is
whether the path is ignored. -/
def verdict? (rules : List Rule) (path : List UInt8) (isDirectory : Bool) : Option Bool :=
  (rules.reverse.find? fun rule =>
    (isDirectory || !rule.onlyDirectories) && rule.pattern.fits path).map fun rule => !rule.keeps

/-- The lines of a file, up to the first one that is no text. -/
def textLines (content : ByteArray) : List (List Char) :=
  let pieces := content.data.toList.splitOn 0x0A
  let lines := if pieces.getLast? = some [] then pieces.dropLast else pieces
  ((lines.map textOf?).takeWhile Option.isSome).filterMap fun line =>
    line.map fun text => dropEnd '\r' text.toList

def rulesOf (content : ByteArray) : List Rule :=
  match textLines content with
  | [] => []
  | first :: lines => (first.dropWhile (· == '\ufeff') :: lines).filterMap Rule.ofLine?

end Outline.Ignore
