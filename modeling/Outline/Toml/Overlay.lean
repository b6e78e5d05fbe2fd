import Outline.Toml.Basic

namespace Outline.Toml

def lookup (fields : List (String × Value)) (key : String) : Option Value :=
  (fields.find? (·.1 == key)).map (·.2)

def assign (fields : List (String × Value)) (key : String) (value : Value) :
    List (String × Value) :=
  if fields.any (·.1 == key) then fields.map fun (k, v) => if k == key then (k, value) else (k, v)
  else fields ++ [(key, value)]

mutual

/-- A value laid over another one. A date lies over a table like one without keys. -/
def Value.overlay (under : Value) : Value → Value
  | .table fields =>
    match under with
    | .table base => .table (overlayFields base fields)
    | _ => .table fields
  | .datetime =>
    match under with
    | .table base => .table base
    | _ => .datetime
  | value => value

def overlayFields (base : List (String × Value)) : List (String × Value) → List (String × Value)
  | [] => base
  | (key, value) :: rest =>
    let merged := match lookup base key with
      | some under => Value.overlay under value
      | none => value
    overlayFields (assign base key merged) rest

end

end Outline.Toml
