import Outline.Proofs.Json.Reader

namespace Outline.Json

open Outline.Text

/-- A value without numerals that are kept as they are written, and without broken strings. -/
inductive Plain : Json → Prop
  | null : Plain .null
  | bool (value : Bool) : Plain (.bool value)
  | nat (value : Nat) : Plain (.nat value)
  | str (value : String) : Plain (.str value)
  | arr {items : List Json} (parts : ∀ item ∈ items, Plain item) : Plain (.arr items)
  | obj {fields : List (String × Json)} (parts : ∀ field ∈ fields, Plain field.2) :
    Plain (.obj fields)

theorem isSpace_of_mem_nil : ∀ c ∈ ([] : List Char), isSpace c = true := by
  intro c member
  cases member

theorem isSpace_of_mem_newline (depth : Nat) : ∀ c ∈ newline depth, isSpace c = true := by
  intro c member
  rcases List.mem_cons.mp member with rfl | space
  · decide
  · rw [List.eq_of_mem_replicate space]
    decide

theorem compactItems_eq (isFirst : Bool) (items : List Json) :
    compactItems isFirst items = joined [] isFirst (items.map compact) := by
  induction items generalizing isFirst with
  | nil => rfl
  | cons item rest ih => simp [compactItems, joined, ih]

theorem compactFields_eq (isFirst : Bool) (fields : List (String × Json)) :
    compactFields isFirst fields = joined [] isFirst (fields.map (fieldText [] compact)) := by
  induction fields generalizing isFirst with
  | nil => rfl
  | cons field rest ih => simp [compactFields, joined, fieldText, ih]

theorem prettyItems_eq (depth : Nat) (isFirst : Bool) (items : List Json) :
    prettyItems depth isFirst items =
      joined (newline depth) isFirst (items.map (prettyAt depth)) := by
  induction items generalizing isFirst with
  | nil => rfl
  | cons item rest ih => simp [prettyItems, joined, ih]

theorem prettyFields_eq (depth : Nat) (isFirst : Bool) (fields : List (String × Json)) :
    prettyFields depth isFirst fields =
      joined (newline depth) isFirst (fields.map (fieldText [' '] (prettyAt depth))) := by
  induction fields generalizing isFirst with
  | nil => rfl
  | cons field rest ih => simp [prettyFields, joined, fieldText, ih]

theorem Reads.compact {value : Json} (plain : Plain value) : Reads value value.compact := by
  induction plain with
  | null => exact .null
  | bool value => exact .bool value
  | nat value => exact .nat value
  | str value => exact .str value
  | arr _ ih =>
    have reads := Reads.arr isSpace_of_mem_nil isSpace_of_mem_nil Json.compact ih
    rw [Json.compact, compactItems_eq]
    simpa using reads
  | obj _ ih =>
    have reads := Reads.obj isSpace_of_mem_nil isSpace_of_mem_nil Json.compact isSpace_of_mem_nil ih
    rw [Json.compact, compactFields_eq]
    simpa using reads

theorem Reads.prettyAt {value : Json} (plain : Plain value) (depth : Nat) :
    Reads value (value.prettyAt depth) := by
  -- The depth only decides how much white space stands between the parts.
  induction plain generalizing depth with
  | null => exact .null
  | bool value => exact .bool value
  | nat value => exact .nat value
  | str value => exact .str value
  | @arr items _ ih =>
    cases items with
    | nil => exact Reads.arr isSpace_of_mem_nil isSpace_of_mem_nil Json.compact (by simp)
    | cons item items =>
      rw [Json.prettyAt, prettyItems_eq]
      exact Reads.arr (isSpace_of_mem_newline _) (isSpace_of_mem_newline _) (Json.prettyAt _)
        fun i member => ih i member (depth + 1)
  | @obj fields _ ih =>
    have space : ∀ c ∈ [' '], isSpace c = true := by
      intro c member
      rw [List.mem_singleton.mp member]
      decide
    cases fields with
    | nil =>
      exact Reads.obj isSpace_of_mem_nil isSpace_of_mem_nil Json.compact isSpace_of_mem_nil (by simp)
    | cons field fields =>
      rw [Json.prettyAt, prettyFields_eq]
      exact Reads.obj (isSpace_of_mem_newline _) (isSpace_of_mem_newline _) (Json.prettyAt _) space
        fun f member => ih f member (depth + 1)

theorem Reads.parse? {value : Json} {text : List Char} (reads : Reads value text) :
    parse? text = some value := by
  have ends : Ends [] := by
    intro c first
    cases first
  have read := reads.read (text.length + 1) [] (by omega) ends
  have start := reads.skipSpace []
  rw [List.append_nil] at read start
  rw [Json.parse?, start, read]
  rfl

theorem parse?_compact {value : Json} (plain : Plain value) :
    parse? value.compact = some value :=
  (Reads.compact plain).parse?

theorem parse?_pretty {value : Json} (plain : Plain value) :
    parse? value.pretty = some value :=
  (Reads.prettyAt plain 0).parse?

end Outline.Json
