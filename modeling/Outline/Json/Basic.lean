import Outline.Count

namespace Outline

inductive Json where
  | null
  | bool (value : Bool)
  /-- A numeral without sign, fraction and exponent. -/
  | nat (value : Nat)
  | numeral (text : List Char)
  | str (value : String)
  /-- A string with an escape that names half a character. -/
  | brokenStr
  | arr (items : List Json)
  | obj (fields : List (String × Json))
deriving Repr, Inhabited

namespace Json

def text? : Json → Option String
  | .str value => some value
  | _ => none

def flag? : Json → Option Bool
  | .bool value => some value
  | _ => none

def word? : Json → Option Nat
  | .nat value => if value < wordCount 64 then some value else none
  | _ => none

def list? {α : Type} (item? : Json → Option α) : Json → Option (List α)
  | .arr items => items.mapM item?
  | _ => none

def optional? {α : Type} (item? : Json → Option α) : Json → Option (Option α)
  | .null => some none
  | value => (item? value).map some

/-- One of some named values: its name, or an object that maps the name to `null`. -/
def named? {α : Type} (all : List α) (label : α → String) : Json → Option α
  | .str name => all.find? (label · == name)
  | .obj [(name, .null)] => all.find? (label · == name)
  | _ => none

def field? (fields : List (String × Json)) (name : String) : Option (Option Json) :=
  match fields.filter (·.1 == name) with
  | [] => some none
  | [(_, value)] => some (some value)
  | _ => none

/-- The fields of a record in the order of `names`, from an object or from an array that holds all
of them. Other fields of an object do not count. -/
def record? (names : List String) : Json → Option (List (Option Json))
  | .obj fields => names.mapM (field? fields)
  | .arr items => if items.length = names.length then some (items.map some) else none
  | _ => none

/-- The fields of a record that may all be absent; an array may stop early. -/
def partialRecord? (names : List String) : Json → Option (List (Option Json))
  | .obj fields => names.mapM (field? fields)
  | .arr items =>
    if items.length ≤ names.length then
      some (items.map some ++ List.replicate (names.length - items.length) none)
    else none
  | _ => none

def required? {α : Type} (item? : Json → Option α) (field : Option Json) : Option α :=
  field.bind item?

def nullable? {α : Type} (item? : Json → Option α) : Option Json → Option (Option α)
  | none => some none
  | some value => optional? item? value

def withDefault? {α : Type} (item? : Json → Option α) (fallback : α) : Option Json → Option α
  | none => some fallback
  | some value => item? value

def ofOption {α : Type} (item : α → Json) : Option α → Json
  | none => .null
  | some a => item a

def ofStrings (texts : List String) : Json := .arr (texts.map .str)

end Json

end Outline
