import Outline.Text.Lower

namespace Outline

inductive Format where
  | json
  | yaml
  | text
deriving Repr, DecidableEq

def Format.all : List Format := [.json, .yaml, .text]

def Format.label : Format → String
  | .json => "json"
  | .yaml => "yaml"
  | .text => "text"

def Format.extension : Format → String
  | .json => "json"
  | .yaml => "yaml"
  | .text => "txt"

structure UnknownFormat where
  name : String
deriving Repr, DecidableEq

def UnknownFormat.message (e : UnknownFormat) : String :=
  "Unknown output format: " ++ e.name ++ ". Valid values: json, yaml, text"

def Format.ofName (name : String) : Except UnknownFormat Format :=
  match String.ofList (Text.lower name.toList) with
  | "json" => .ok .json
  | "yaml" => .ok .yaml
  | "yml" => .ok .yaml
  | "text" => .ok .text
  | "txt" => .ok .text
  | _ => .error ⟨name⟩

end Outline
