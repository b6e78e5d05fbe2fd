import Outline.Proofs.Json.RoundTrip

namespace Outline.Json

attribute [simp] Plain.null Plain.bool Plain.nat Plain.str

theorem Plain.arr_map {α : Type} {item : α → Json} {as : List α}
    (parts : ∀ a ∈ as, Plain (item a)) : Plain (.arr (as.map item)) := by
  apply Plain.arr
  intro value member
  obtain ⟨a, among, rfl⟩ := List.mem_map.mp member
  exact parts a among

@[simp]
theorem Plain.ofStrings (texts : List String) : Plain (.ofStrings texts) :=
  Plain.arr_map fun text _ => .str text

@[simp]
theorem Plain.ofOption_str (text : Option String) : Plain (.ofOption .str text) := by
  cases text with
  | none => exact .null
  | some text => exact .str text

theorem Plain.record (names : List String) {values : List Json}
    (parts : ∀ value ∈ values, Plain value) : Plain (.obj (names.zip values)) := by
  apply Plain.obj
  intro field member
  exact parts field.2 (List.of_mem_zip member).2

theorem field?_cons_self {name : String} {value : Json} {fields : List (String × Json)}
    (absent : ∀ field ∈ fields, field.1 ≠ name) :
    field? ((name, value) :: fields) name = some (some value) := by
  have none : fields.filter (·.1 == name) = [] := by
    apply List.filter_eq_nil_iff.mpr
    intro field member same
    exact absent field member (beq_iff_eq.mp same)
  rw [field?, List.filter_cons_of_pos (by simp), none]

theorem field?_cons_of_ne {name other : String} (value : Json) (fields : List (String × Json))
    (different : other ≠ name) : field? ((other, value) :: fields) name = field? fields name := by
  rw [field?, field?, List.filter_cons_of_neg (by simpa using different)]

theorem field?_of_mem {fields : List (String × Json)} (distinct : (fields.map (·.1)).Nodup)
    {field : String × Json} (member : field ∈ fields) :
    field? fields field.1 = some (some field.2) := by
  induction fields with
  | nil => cases member
  | cons first fields ih =>
    obtain ⟨fresh, distinct⟩ := List.nodup_cons.mp distinct
    rcases List.mem_cons.mp member with rfl | among
    · apply field?_cons_self
      intro other among same
      exact fresh (List.mem_map.mpr ⟨other, among, same⟩)
    · rw [field?_cons_of_ne, ih distinct among]
      intro same
      exact fresh (List.mem_map.mpr ⟨field, among, same.symm⟩)

theorem mapM_map_eq_some {α β γ : Type} (f : β → Option γ) (item : α → β) (result : α → γ)
    {as : List α} (read : ∀ a ∈ as, f (item a) = some (result a)) :
    (as.map item).mapM f = some (as.map result) := by
  induction as with
  | nil => rfl
  | cons a as ih =>
    have first := read a List.mem_cons_self
    have later := ih fun b member => read b (List.mem_cons_of_mem _ member)
    rw [List.map_cons, List.mapM_cons, first, later]
    rfl

theorem mapM_field?_zip {names : List String} {values : List Json} (distinct : names.Nodup)
    (same : names.length = values.length) :
    names.mapM (field? (names.zip values)) = some (values.map some) := by
  have keys : (names.zip values).map Prod.fst = names := List.map_fst_zip (by omega)
  have held : (names.zip values).map Prod.snd = values := List.map_snd_zip (by omega)
  have read := mapM_map_eq_some (field? (names.zip values)) Prod.fst (some ∘ Prod.snd)
    fun field member => field?_of_mem (by rw [keys]; exact distinct) member
  rw [keys, ← List.map_map, held] at read
  exact read

theorem record?_zip {names : List String} {values : List Json} (distinct : names.Nodup)
    (same : names.length = values.length) :
    record? names (.obj (names.zip values)) = some (values.map some) :=
  mapM_field?_zip distinct same

theorem partialRecord?_zip {names : List String} {values : List Json} (distinct : names.Nodup)
    (same : names.length = values.length) :
    partialRecord? names (.obj (names.zip values)) = some (values.map some) :=
  mapM_field?_zip distinct same

@[simp]
theorem text?_str (text : String) : text? (.str text) = some text := rfl

@[simp]
theorem flag?_bool (flag : Bool) : flag? (.bool flag) = some flag := rfl

theorem word?_nat {n : Nat} (small : n < wordCount 64) : word? (.nat n) = some n := if_pos small

theorem list?_arr_map {α : Type} {item? : Json → Option α} {item : α → Json} {as : List α}
    (read : ∀ a ∈ as, item? (item a) = some a) : list? item? (.arr (as.map item)) = some as := by
  rw [list?, mapM_map_eq_some item? item id read, List.map_id]

@[simp]
theorem list?_ofStrings (texts : List String) : list? text? (.ofStrings texts) = some texts :=
  list?_arr_map fun _ _ => rfl

@[simp]
theorem optional?_ofOption_str (text : Option String) :
    optional? text? (.ofOption .str text) = some text := by
  cases text <;> rfl

end Outline.Json
