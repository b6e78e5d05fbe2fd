import Outline.Toml.Overlay

namespace Outline.Toml

theorem lookup_cons (field : String × Value) (fields : List (String × Value)) (key : String) :
    lookup (field :: fields) key = if field.1 = key then some field.2 else lookup fields key := by
  by_cases here : field.1 = key
  · rw [lookup, List.find?_cons_of_pos (by simpa using here), if_pos here]
    rfl
  · rw [lookup, List.find?_cons_of_neg (by simpa using here), if_neg here, lookup]

theorem lookup_eq_none {fields : List (String × Value)} {key : String}
    (absent : ∀ field ∈ fields, field.1 ≠ key) : lookup fields key = none := by
  induction fields with
  | nil => rfl
  | cons field fields ih =>
    obtain ⟨first, later⟩ := List.forall_mem_cons.mp absent
    rw [lookup_cons, if_neg first, ih later]

theorem lookup_append (fields more : List (String × Value)) (key : String) :
    lookup (fields ++ more) key = (lookup fields key).or (lookup more key) := by
  induction fields with
  | nil => simp [lookup]
  | cons field fields ih =>
    rw [List.cons_append, lookup_cons, lookup_cons, ih]
    split <;> rfl

theorem lookup_replace_of_ne {key other : String} (different : key ≠ other) (value : Value)
    (fields : List (String × Value)) :
    lookup (fields.map fun (k, v) => if k == key then (k, value) else (k, v)) other =
      lookup fields other := by
  induction fields with
  | nil => rfl
  | cons field fields ih =>
    rw [List.map_cons, lookup_cons, lookup_cons, ih]
    by_cases here : field.1 = key
    · simp [here, different]
    · simp [here]

theorem lookup_replace_self {key : String} (value : Value) {fields : List (String × Value)}
    (present : fields.any (·.1 == key) = true) :
    lookup (fields.map fun (k, v) => if k == key then (k, value) else (k, v)) key = some value := by
  induction fields with
  | nil => cases present
  | cons field fields ih =>
    rw [List.map_cons, lookup_cons]
    by_cases here : field.1 = key
    · simp [here]
    · have later : fields.any (·.1 == key) = true := by simpa [here] using present
      rw [ih later]
      simp [here]

theorem lookup_assign (fields : List (String × Value)) (key : String) (value : Value)
    (other : String) :
    lookup (assign fields key value) other =
      if key = other then some value else lookup fields other := by
  rw [assign]
  split
  · rename_i present
    by_cases here : key = other
    · rw [← here, lookup_replace_self value present, if_pos rfl]
    · rw [lookup_replace_of_ne here, if_neg here]
  · rename_i absent
    have none : lookup fields key = none := by
      apply lookup_eq_none
      intro field member same
      exact absent (List.any_eq_true.mpr ⟨field, member, by simpa using same⟩)
    rw [lookup_append, lookup_cons]
    split
    · rename_i same
      rw [← same, none]
      rfl
    · exact Option.or_none

def laidOver (under : Option Value) (value : Value) : Value :=
  match under with
  | some under => under.overlay value
  | none => value

theorem lookup_overlayFields {fields : List (String × Value)} (distinct : (fields.map (·.1)).Nodup)
    (base : List (String × Value)) (key : String) :
    lookup (overlayFields base fields) key =
      match lookup fields key with
      | none => lookup base key
      | some value => some (laidOver (lookup base key) value) := by
  induction fields generalizing base with
  | nil => simp [overlayFields, lookup]
  | cons field fields ih =>
    obtain ⟨name, value⟩ := field
    obtain ⟨fresh, distinct⟩ := List.nodup_cons.mp distinct
    have step : overlayFields base ((name, value) :: fields) =
        overlayFields (assign base name (laidOver (lookup base name) value)) fields := by
      rw [overlayFields]
      rfl
    rw [step, ih distinct, lookup_cons, lookup_assign]
    by_cases here : name = key
    · subst here
      have none : lookup fields name = none := by
        apply lookup_eq_none
        intro other member same
        exact fresh (List.mem_map.mpr ⟨other, member, same⟩)
      simp [none]
    · simp [here]

def tableFields : Option Value → List (String × Value)
  | some (.table fields) => fields
  | _ => []

theorem laidOver_table (under : Option Value) {fields : List (String × Value)}
    (distinct : (fields.map (·.1)).Nodup) :
    ∃ merged, laidOver under (.table fields) = .table merged ∧ ∀ key, lookup merged key =
      match lookup fields key with
      | none => lookup (tableFields under) key
      | some value => some (laidOver (lookup (tableFields under) key) value) := by
  have plain : ∀ key, lookup fields key =
      match lookup fields key with
      | none => lookup [] key
      | some value => some (laidOver (lookup [] key) value) := by
    intro key
    cases lookup fields key <;> rfl
  cases under with
  | none => exact ⟨fields, rfl, plain⟩
  | some value =>
    cases value with
    | table base => exact ⟨overlayFields base fields, rfl, lookup_overlayFields distinct base⟩
    | str text => exact ⟨fields, rfl, plain⟩
    | int n => exact ⟨fields, rfl, plain⟩
    | float => exact ⟨fields, rfl, plain⟩
    | bool flag => exact ⟨fields, rfl, plain⟩
    | datetime => exact ⟨fields, rfl, plain⟩
    | arr items => exact ⟨fields, rfl, plain⟩

@[simp]
theorem laidOver_str (under : Option Value) (text : String) :
    laidOver under (.str text) = .str text := by
  cases under <;> rfl

@[simp]
theorem laidOver_int (under : Option Value) (n : Int) : laidOver under (.int n) = .int n := by
  cases under <;> rfl

@[simp]
theorem laidOver_bool (under : Option Value) (flag : Bool) :
    laidOver under (.bool flag) = .bool flag := by
  cases under <;> rfl

@[simp]
theorem laidOver_arr (under : Option Value) (items : List Value) :
    laidOver under (.arr items) = .arr items := by
  cases under <;> rfl

end Outline.Toml
