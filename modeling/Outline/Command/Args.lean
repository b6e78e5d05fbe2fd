import Outline.Disk.Path
import Outline.Report.Format

namespace Outline

structure AnalyzeOptions where
  output : Option Path
  format : Option Format
  /-- The report is printed and not written. -/
  toConsole : Bool
  noCallGraph : Bool
deriving Repr, DecidableEq

inductive Command where
  | analyze (path : Option Path) (options : AnalyzeOptions)
  | file (path : Path) (base : Option Path)
  | showConfig (format : String)
  | showPaths
  | initConfig (force : Bool)
deriving Repr, DecidableEq

structure Invocation where
  command : Command
  quiet : Bool
deriving Repr, DecidableEq

inductive Stop where
  | usage
  | help
  | version
deriving Repr, DecidableEq

namespace Args

structure Known where
  long : String
  short : Option Char
  takesValue : Bool
deriving Repr, DecidableEq

abbrev Given := List (String × String)

/-- What was read for one command: its options, its operands, and the words of the command inside of
it. -/
structure Level where
  given : Given
  operands : List String
  inner : Option (String × List String)
deriving Repr, DecidableEq

def help : Known := ⟨"help", some 'h', false⟩

def shared : List Known := [⟨"verbose", none, false⟩, ⟨"quiet", some 'q', false⟩, help]

def add (given : Given) (option : Known) (value : String) : Except Stop Given :=
  if option.long = "help" then .error .help
  else if option.long = "version" then .error .version
  else if given.any (·.1 == option.long) then .error .usage
  else .ok (given ++ [(option.long, value)])

def isValue (word : String) : Bool := word = "-" || word.toList.head? != some '-'

def readShort (known : List Known) (given : Given) (rest : List String) :
    List Char → Except Stop (Given × List String)
  | [] => .ok (given, rest)
  | c :: letters =>
    match known.find? (·.short == some c) with
    | none => .error .usage
    | some option =>
      if !option.takesValue then
        match add given option "" with
        | .ok given =>
          if letters.head? = some '=' then .error .usage else readShort known given rest letters
        | .error stop => .error stop
      else
        match letters, rest with
        | '=' :: value, rest =>
          (add given option (String.ofList value)).map fun given => (given, rest)
        | [], value :: rest =>
          if isValue value then (add given option value).map fun given => (given, rest)
          else .error .usage
        | [], [] => .error .usage
        | value, rest => (add given option (String.ofList value)).map fun given => (given, rest)

def readLong (known : List Known) (given : Given) (rest : List String) (word : List Char) :
    Except Stop (Given × List String) :=
  let name := String.ofList (word.takeWhile (· != '='))
  match known.find? (·.long == name), word.dropWhile (· != '=') with
  | none, _ => .error .usage
  | some option, [] =>
    if !option.takesValue then (add given option "").map fun given => (given, rest)
    else match rest with
      | value :: rest =>
        if isValue value then (add given option value).map fun given => (given, rest)
        else .error .usage
      | [] => .error .usage
  | some option, _ :: value =>
    if option.takesValue then
      (add given option (String.ofList value)).map fun given => (given, rest)
    else .error .usage

/-- Reads the words of a command that takes up to `room` operands, or a command inside of it when
`hasInner` is set; each step takes a unit of `fuel`. -/
def readLevel (known : List Known) (room : Nat) (hasInner : Bool) (fuel : Nat) (level : Level) :
    List String → Except Stop Level
  | [] => .ok level
  | word :: rest =>
    match fuel with
    | 0 => .error .usage
    | fuel + 1 =>
      match word.toList with
      | ['-', '-'] =>
        if (level.operands ++ rest).length ≤ room then
          .ok { level with operands := level.operands ++ rest }
        else .error .usage
      | '-' :: '-' :: name =>
        match readLong known level.given rest name with
        | .ok (given, rest) => readLevel known room hasInner fuel { level with given } rest
        | .error stop => .error stop
      | '-' :: c :: letters =>
        match readShort known level.given rest (c :: letters) with
        | .ok (given, rest) => readLevel known room hasInner fuel { level with given } rest
        | .error stop => .error stop
      | _ =>
        if hasInner then .ok { level with inner := some (word, rest) }
        else if level.operands.length < room then
          readLevel known room hasInner fuel
            { level with operands := level.operands ++ [word] } rest
        else .error .usage

def readWords (known : List Known) (room : Nat) (hasInner : Bool) (words : List String) :
    Except Stop Level :=
  readLevel known room hasInner (words.length + 1) ⟨[], [], none⟩ words

def Level.has (level : Level) (name : String) : Bool := level.given.any (·.1 == name)

def Level.value? (level : Level) (name : String) : Option String :=
  (level.given.find? (·.1 == name)).map (·.2)

def path (text : String) : Except Stop Path :=
  if text.isEmpty then .error .usage else .ok (.ofText text)

def optionalPath : Option String → Except Stop (Option Path)
  | none => .ok none
  | some text => (path text).map some

def optionalFormat : Option String → Except Stop (Option Format)
  | none => .ok none
  | some text =>
    match Format.ofName text with
    | .ok format => .ok (some format)
    | .error _ => .error .usage

def readAnalyze (words : List String) : Except Stop (Command × Level) := do
  let known := [⟨"output", some 'o', true⟩, ⟨"format", some 'f', true⟩, ⟨"stdout", none, false⟩,
    ⟨"no-call-graph", none, false⟩] ++ shared
  let level ← readWords known 1 false words
  let path ← optionalPath level.operands.head?
  let output ← optionalPath (level.value? "output")
  let format ← optionalFormat (level.value? "format")
  return (.analyze path
    { output, format, toConsole := level.has "stdout", noCallGraph := level.has "no-call-graph" },
    level)

def readFile (words : List String) : Except Stop (Command × Level) := do
  let level ← readWords (⟨"base", none, true⟩ :: shared) 1 false words
  match level.operands with
  | [operand] => return (.file (← path operand) (← optionalPath (level.value? "base")), level)
  | _ => throw .usage

def readShow (words : List String) : Except Stop (Command × Level) := do
  let level ← readWords (⟨"format", some 'f', true⟩ :: shared) 0 false words
  return (.showConfig ((level.value? "format").getD "toml"), level)

def readPaths (words : List String) : Except Stop (Command × Level) := do
  let level ← readWords shared 0 false words
  return (.showPaths, level)

def readInit (words : List String) : Except Stop (Command × Level) := do
  let level ← readWords (⟨"force", none, false⟩ :: shared) 0 false words
  return (.initConfig (level.has "force"), level)

def isCommand : List String → Bool
  | [name] => ["analyze", "file", "config", "help"].contains name
  | ["config", name] => ["show", "path", "init", "help"].contains name
  | _ => false

def askHelp (words : List String) : Stop :=
  if words.isEmpty || isCommand words then .help else .usage

def readConfig (words : List String) : Except Stop (Command × Bool) := do
  let level ← readWords shared 0 true words
  let (command, inner) ← match level.inner with
    | some ("show", rest) => readShow rest
    | some ("path", rest) => readPaths rest
    | some ("init", rest) => readInit rest
    | some ("help", rest) => throw (askHelp ("config" :: rest))
    | _ => throw .usage
  return (command, level.has "quiet" || inner.has "quiet")

def read (words : List String) : Except Stop Invocation := do
  let level ← readWords (⟨"version", some 'V', false⟩ :: shared) 0 true words
  let simple := fun (command, inner) => (command, Level.has inner "quiet")
  let (command, quiet) ← match level.inner with
    | some ("analyze", rest) => (readAnalyze rest).map simple
    | some ("file", rest) => (readFile rest).map simple
    | some ("config", rest) => readConfig rest
    | some ("help", rest) => throw (askHelp rest)
    | _ => throw .usage
  return { command, quiet := level.has "quiet" || quiet }

end Args

end Outline
