namespace Outline.Toml

inductive Value where
  | str (value : String)
  | int (value : Int)
  /-- A number with a fraction or an exponent, infinity or no number at all. -/
  | float
  | bool (value : Bool)
  | datetime
  | arr (items : List Value)
  | table (fields : List (String × Value))
deriving Repr, Inhabited

/-- How a table came to be: by its own header, by the headers of tables inside it, or by dotted
keys. -/
inductive Origin where
  | header
  | inner
  | dotted
deriving Repr, DecidableEq

inductive Node where
  | leaf (value : Value)
  | table (origin : Origin) (fields : List (String × Node))
  | tables (items : List (List (String × Node)))
deriving Inhabited

abbrev Fields := List (String × Node)

def Fields.find? (fields : Fields) (key : String) : Option Node :=
  (List.find? (·.1 == key) fields).map (·.2)

def Fields.replace (fields : Fields) (key : String) (node : Node) : Fields :=
  List.map (fun (k, n) => if k == key then (k, node) else (k, n)) fields

/-- Changes the table at the end of a path. Tables that are missing on the way are made; the last
one of a list of tables stands for the list. A path of dotted keys does not lead into a table with
a header of its own, and no path leads into a value. -/
def Fields.update (dotted : Bool) (change : Origin → Fields → Option Fields) :
    List String → Origin → Fields → Option Fields
  | [], origin, fields => change origin fields
  | key :: path, _, fields =>
    match Fields.find? fields key with
    | none =>
      let origin : Origin := if dotted then .dotted else .inner
      (Fields.update dotted change path origin []).map fun inner =>
        fields ++ [(key, .table origin inner)]
    | some (.table origin inner) =>
      if dotted && origin == .header then none
      else (Fields.update dotted change path origin inner).map fun inner =>
        Fields.replace fields key (.table origin inner)
    | some (.tables items) =>
      match items.getLast? with
      | none => none
      | some last =>
        (Fields.update dotted change path .header last).map fun inner =>
          Fields.replace fields key (.tables (items.dropLast ++ [inner]))
    | some (.leaf _) => none

def Fields.set (path : List String) (key : String) (value : Value) (fields : Fields) :
    Option Fields :=
  Fields.update true (fun origin inner =>
    if !path.isEmpty && origin != .dotted then none
    else match Fields.find? inner key with
      | some _ => none
      | none => some (inner ++ [(key, .leaf value)])) path .header fields

def Fields.openTable (path : List String) (key : String) (fields : Fields) : Option Fields :=
  Fields.update false (fun _ inner =>
    match Fields.find? inner key with
    | none => some (inner ++ [(key, .table .header [])])
    | some (.table .inner fields) => some (Fields.replace inner key (.table .header fields))
    | some _ => none) path .header fields

def Fields.addTable (path : List String) (key : String) (fields : Fields) : Option Fields :=
  Fields.update false (fun _ inner =>
    match Fields.find? inner key with
    | none => some (inner ++ [(key, .tables [[]])])
    | some (.tables items) => some (Fields.replace inner key (.tables (items ++ [[]])))
    | some _ => none) path .header fields

mutual

def Node.toValue : Node → Value
  | .leaf value => value
  | .table _ fields => .table (fieldValues fields)
  | .tables items => .arr (tableValues items)

def fieldValues : List (String × Node) → List (String × Value)
  | [] => []
  | (key, node) :: rest => (key, node.toValue) :: fieldValues rest

def tableValues : List (List (String × Node)) → List Value
  | [] => []
  | fields :: rest => .table (fieldValues fields) :: tableValues rest

end

inductive Statement where
  | entry (path : List String) (key : String) (value : Value)
  | header (path : List String) (key : String)
  | listHeader (path : List String) (key : String)
deriving Repr

structure Building where
  current : List String
  fields : Fields

def Building.step (b : Building) : Statement → Option Building
  | .entry path key value =>
    (Fields.update false (fun _ inner => Fields.set path key value inner) b.current .header
      b.fields).map fun fields => { b with fields }
  | .header path key =>
    (Fields.openTable path key b.fields).map fun fields => { current := path ++ [key], fields }
  | .listHeader path key =>
    (Fields.addTable path key b.fields).map fun fields => { current := path ++ [key], fields }

def build? (statements : List Statement) : Option (List (String × Value)) :=
  (statements.foldlM Building.step { current := [], fields := [] }).map fun b =>
    fieldValues b.fields

end Outline.Toml
