import Outline.Json.Printer
import Outline.Json.Reader
import Outline.Proofs.Text.Digits

namespace Outline.Json

open Outline.Text

theorem hexUnit?_control : ∀ n < 32, hexUnit? '0' '0' (hexDigit (n / 16)) (hexDigit n) = some n := by
  decide

theorem readString_unit {unit : Nat} {a b c d : Char} (read : hexUnit? a b c d = some unit)
    (small : unit < 0xD800) (held : Option (List Char)) (rest : List Char) :
    readString held ('\\' :: 'u' :: a :: b :: c :: d :: rest) =
      readString (push held (Char.ofNat unit)) rest := by
  have high : isHighSurrogate unit = false := by simp [isHighSurrogate]; omega
  have low : isLowSurrogate unit = false := by simp [isLowSurrogate]; omega
  rw [readString.eq_def]
  split
  · rename_i same
    cases same
  · rename_i same
    cases same
  · rename_i same
    cases same
    simp [read, high, low]
  · rename_i same
    cases same
    simp [read, high, low]
  · rename_i other same
    cases same
    exact absurd rfl (other _ _ _ _ _ rfl)
  · rename_i other same
    cases same
    exact absurd rfl (other _ _ rfl)

theorem readString_short {c e : Char} (short : shortEscape? c = some e)
    (held : Option (List Char)) (rest : List Char) :
    readString held ('\\' :: c :: rest) = readString (push held e) rest := by
  have other : c ≠ 'u' := by
    rintro rfl
    cases short
  rw [readString.eq_def]
  split
  · rename_i same
    cases same
  · rename_i same
    cases same
  · rename_i same
    cases same
    exact absurd rfl other
  · rename_i same
    cases same
    exact absurd rfl other
  · rename_i same
    cases same
    simp [short]
  · rename_i behind same
    cases same
    exact absurd rfl (behind _ _ rfl)

theorem readString_plain {c : Char} (quote : c ≠ '"') (escape : c ≠ '\\') (printed : ¬ c.toNat < 32)
    (held : Option (List Char)) (rest : List Char) :
    readString held (c :: rest) = readString (push held c) rest := by
  rw [readString.eq_def]
  split
  · rename_i same
    cases same
  · rename_i same
    cases same
    exact absurd rfl quote
  · rename_i same
    cases same
    exact absurd rfl escape
  · rename_i same
    cases same
    exact absurd rfl escape
  · rename_i same
    cases same
    exact absurd rfl escape
  · rename_i same
    cases same
    rw [if_neg printed]

theorem readString_escapeChar (held : List Char) (c : Char) (rest : List Char) :
    readString (some held) (escapeChar c ++ rest) = readString (some (c :: held)) rest := by
  unfold escapeChar
  split
  · subst c
    exact readString_short rfl _ _
  split
  · subst c
    exact readString_short rfl _ _
  split
  · subst c
    exact readString_short rfl _ _
  split
  · subst c
    exact readString_short rfl _ _
  split
  · subst c
    exact readString_short rfl _ _
  split
  · subst c
    exact readString_short rfl _ _
  split
  · subst c
    exact readString_short rfl _ _
  split
  · rename_i control
    have unit := readString_unit (hexUnit?_control c.toNat control) (by omega) (some held) rest
    rw [Char.ofNat_toNat] at unit
    exact unit
  · rename_i quote escape _ _ _ _ _ printed
    exact readString_plain quote escape printed _ _

theorem readString_quoted (s held rest : List Char) :
    readString (some held) (s.flatMap escapeChar ++ '"' :: rest) =
      some (some (held.reverse ++ s), rest) := by
  induction s generalizing held with
  | nil => simp [readString]
  | cons c s ih =>
    rw [List.flatMap_cons, List.append_assoc, readString_escapeChar, ih]
    simp

def endsValue (c : Char) : Bool := isSpace c || c == ',' || c == ']' || c == '\x7d'

def Ends (rest : List Char) : Prop := ∀ c, rest.head? = some c → endsValue c = true

theorem endsValue_cases {c : Char} (ends : endsValue c = true) :
    isDigit c = false ∧ c ≠ '.' ∧ (c == 'e' || c == 'E') = false := by
  simp only [endsValue, isSpace, Bool.or_eq_true, beq_iff_eq] at ends
  rcases ends with (((((rfl | rfl) | rfl) | rfl) | rfl) | rfl) | rfl <;> decide

/-- The text stands for the value: it begins with a character of the value, and reading takes no
more fuel than its length. -/
structure Reads (value : Json) (text : List Char) : Prop where
  starts : ∃ c rest, text = c :: rest ∧ isSpace c = false ∧ c ≠ ']'
  read : ∀ fuel rest, text.length ≤ fuel → Ends rest →
    readValue fuel (text ++ rest) = some (value, rest)

theorem skipSpace_append {gap : List Char} (blank : ∀ c ∈ gap, isSpace c = true)
    (s : List Char) : skipSpace (gap ++ s) = skipSpace s := List.dropWhile_append_of_pos blank

theorem skipSpace_cons {c : Char} (solid : isSpace c = false) (s : List Char) :
    skipSpace (c :: s) = c :: s := by
  simp [skipSpace, solid]

theorem Reads.skipSpace {value : Json} {text : List Char} (reads : Reads value text)
    (rest : List Char) : Json.skipSpace (text ++ rest) = text ++ rest := by
  obtain ⟨c, tail, rfl, solid, -⟩ := reads.starts
  exact skipSpace_cons solid _

theorem Reads.of_step {value : Json} {text : List Char}
    (starts : ∃ c rest, text = c :: rest ∧ isSpace c = false ∧ c ≠ ']')
    (read : ∀ fuel rest, text.length ≤ fuel + 1 → Ends rest →
      readValue (fuel + 1) (text ++ rest) = some (value, rest)) : Reads value text where
  starts := starts
  read := by
    intro fuel rest enough ends
    obtain ⟨c, tail, rfl, -, -⟩ := starts
    cases fuel with
    | zero => simp at enough
    | succ fuel => exact read fuel rest enough ends

theorem Reads.null : Reads .null nullText := by
  apply Reads.of_step ⟨'n', _, rfl, by decide, by decide⟩
  intro fuel rest _ _
  rfl

theorem Reads.bool (value : Bool) : Reads (.bool value) (boolText value) := by
  cases value with
  | true =>
    apply Reads.of_step ⟨'t', _, rfl, by decide, by decide⟩
    intro fuel rest _ _
    rfl
  | false =>
    apply Reads.of_step ⟨'f', _, rfl, by decide, by decide⟩
    intro fuel rest _ _
    rfl

theorem Reads.str (value : String) : Reads (.str value) (quote value) := by
  have starts : ∃ c rest, quote value = c :: rest ∧ isSpace c = false ∧ c ≠ ']' :=
    ⟨'"', _, rfl, by decide, by decide⟩
  apply Reads.of_step starts
  intro fuel rest _ _
  have read := readString_quoted value.toList [] rest
  simp only [quote, List.cons_append, List.append_assoc, List.nil_append, readValue]
  rw [read]
  simp

theorem readValue_digit {c : Char} (digit : isDigit c = true) (fuel : Nat) (rest : List Char) :
    readValue (fuel + 1) (c :: rest) = readNumeral (c :: rest) := by
  have other (d : Char) (letter : isDigit d = false) (tail : List Char) :
      c :: rest ≠ d :: tail := by
    intro same
    cases same
    rw [digit] at letter
    cases letter
  rw [readValue]
  · exact fun _ => other 'n' (by decide) _
  · exact fun _ => other 't' (by decide) _
  · exact fun _ => other 'f' (by decide) _
  · exact fun _ => other '"' (by decide) _
  · exact fun _ => other '[' (by decide) _
  · exact fun _ => other '{' (by decide) _

theorem Ends.no_digit {rest : List Char} (ends : Ends rest) :
    ∀ c, rest.head? = some c → isDigit c = false :=
  fun c first => (endsValue_cases (ends c first)).1

theorem readWhole_natText (n : Nat) {rest : List Char} (ends : Ends rest) :
    readWhole (natText n ++ rest) = some (natText n, rest) := by
  have all : ∀ c ∈ natText n, isDigit c = true := fun _ => isDigit_of_mem_natText
  obtain ⟨taken, dropped⟩ := takeWhile_digits all ends.no_digit
  by_cases zero : n = 0
  · subst zero
    have stop : (rest.head?.map isDigit).getD false = false := by
      cases rest with
      | nil => rfl
      | cons c tail => exact ends.no_digit c rfl
    have digits : natText 0 = ['0'] := rfl
    rw [digits, List.singleton_append, readWhole, stop]
    rfl
  · obtain ⟨c, tail, front, nonzero⟩ := natText_cons (by omega : 0 < n)
    have other : ∀ behind, natText n ++ rest ≠ '0' :: behind := by
      intro behind same
      rw [front] at same
      cases same
      exact nonzero rfl
    rw [readWhole, readDigits, taken, dropped]
    · simp [natText_ne_nil]
    · exact fun behind same => other behind same

theorem readFraction_of_ends {rest : List Char} (ends : Ends rest) :
    readFraction rest = some ([], rest) := by
  cases rest with
  | nil => rfl
  | cons c tail =>
    rw [readFraction]
    intro behind same
    cases same
    exact (endsValue_cases (ends '.' rfl)).2.1 rfl

theorem readExponent_of_ends {rest : List Char} (ends : Ends rest) :
    readExponent rest = some ([], rest) := by
  cases rest with
  | nil => rfl
  | cons c tail =>
    have none := (endsValue_cases (ends c rfl)).2.2
    simp only [readExponent.eq_def, none, Bool.false_eq_true, if_false]

theorem Reads.nat (n : Nat) : Reads (.nat n) (natText n) := by
  obtain ⟨c, tail, front⟩ := List.exists_cons_of_ne_nil (natText_ne_nil n)
  have digit : isDigit c = true := isDigit_of_mem_natText (n := n) (by rw [front]; simp)
  have solid : isSpace c = false ∧ c ≠ ']' ∧ c ≠ '-' := by
    refine ⟨?_, ?_, ?_⟩
    · cases space : isSpace c with
      | false => rfl
      | true =>
        simp only [isSpace, Bool.or_eq_true, beq_iff_eq] at space
        rcases space with ((rfl | rfl) | rfl) | rfl <;> exact absurd digit (by decide)
    · rintro rfl
      exact absurd digit (by decide)
    · rintro rfl
      exact absurd digit (by decide)
  apply Reads.of_step ⟨c, tail, front, solid.1, solid.2.1⟩
  intro fuel rest _ ends
  have unsigned : ∀ behind, natText n ++ rest ≠ '-' :: behind := by
    intro behind same
    rw [front] at same
    cases same
    exact solid.2.2 rfl
  have step : readValue (fuel + 1) (natText n ++ rest) = readNumeral (natText n ++ rest) := by
    rw [front, List.cons_append]
    exact readValue_digit digit fuel _
  rw [step, readNumeral]
  · rw [readWhole_natText n ends]
    simp only [Option.bind_eq_bind, Option.bind_some, readFraction_of_ends ends,
      readExponent_of_ends ends, List.isEmpty_nil, Bool.and_self, if_true, natOfDigits_natText,
      Option.pure_def]
  · exact unsigned

def joined (gap : List Char) (isFirst : Bool) : List (List Char) → List Char
  | [] => []
  | text :: rest => (if isFirst then [] else [',']) ++ gap ++ text ++ joined gap false rest

theorem ends_joined {closing : List Char} (blank : ∀ c ∈ closing, isSpace c = true) {mark : Char}
    (ends : endsValue mark = true) (gap : List Char) (texts : List (List Char))
    (rest : List Char) : Ends (joined gap false texts ++ (closing ++ mark :: rest)) := by
  intro c first
  cases texts with
  | cons text later =>
    simp only [joined, Bool.false_eq_true, if_false, List.cons_append, List.nil_append,
      List.head?_cons, Option.some.injEq] at first
    subst first
    decide
  | nil =>
    rw [joined, List.nil_append] at first
    cases closing with
    | nil =>
      cases first
      exact ends
    | cons space more =>
      cases first
      have white := blank c List.mem_cons_self
      simp [endsValue, white]

theorem skipSpace_closing {closing : List Char} (blank : ∀ c ∈ closing, isSpace c = true)
    {mark : Char} (solid : isSpace mark = false) (rest : List Char) :
    skipSpace (closing ++ mark :: rest) = mark :: rest := by
  rw [skipSpace_append blank, skipSpace_cons solid]

def fieldText (pad : List Char) (text : Json → List Char) (field : String × Json) : List Char :=
  quote field.1 ++ ':' :: pad ++ text field.2

theorem skipSpace_fieldText (pad : List Char) (text : Json → List Char) (field : String × Json)
    (s : List Char) : skipSpace (fieldText pad text field ++ s) = fieldText pad text field ++ s :=
  skipSpace_cons (by decide : isSpace '"' = false) _

section Parts

variable {fuel : Nat} {behind rest : List Char}

theorem readItems_next {item : Json} {text : List Char} (reads : Reads item text)
    (enough : text.length ≤ fuel) (held : List Json) (ends : Ends behind)
    (more : skipSpace behind = ',' :: rest) :
    readItems (fuel + 1) held (text ++ behind) =
      readItems fuel (item :: held) (skipSpace rest) := by
  simp only [readItems, reads.read fuel behind enough ends, more]

theorem readItems_last {item : Json} {text : List Char} (reads : Reads item text)
    (enough : text.length ≤ fuel) (held : List Json) (ends : Ends behind)
    (done : skipSpace behind = ']' :: rest) :
    readItems (fuel + 1) held (text ++ behind) = some ((item :: held).reverse, rest) := by
  simp only [readItems, reads.read fuel behind enough ends, done]

theorem readFields_next {pad : List Char} (padBlank : ∀ c ∈ pad, isSpace c = true)
    {text : Json → List Char} {field : String × Json} (reads : Reads field.2 (text field.2))
    (enough : (text field.2).length ≤ fuel) (held : List (String × Json)) (ends : Ends behind)
    (more : skipSpace behind = ',' :: rest) :
    readFields (fuel + 1) held (fieldText pad text field ++ behind) =
      readFields fuel (field :: held) (skipSpace rest) := by
  have name : String.ofList ([].reverse ++ field.1.toList) = field.1 := by simp
  simp only [fieldText, quote, List.cons_append, List.append_assoc, List.nil_append, readFields,
    readString_quoted, skipSpace_cons (by decide : isSpace ':' = false), skipSpace_append padBlank,
    reads.skipSpace, reads.read fuel behind enough ends, name, more]

theorem readFields_last {pad : List Char} (padBlank : ∀ c ∈ pad, isSpace c = true)
    {text : Json → List Char} {field : String × Json} (reads : Reads field.2 (text field.2))
    (enough : (text field.2).length ≤ fuel) (held : List (String × Json)) (ends : Ends behind)
    (done : skipSpace behind = '\x7d' :: rest) :
    readFields (fuel + 1) held (fieldText pad text field ++ behind) =
      some ((field :: held).reverse, rest) := by
  have name : String.ofList ([].reverse ++ field.1.toList) = field.1 := by simp
  simp only [fieldText, quote, List.cons_append, List.append_assoc, List.nil_append, readFields,
    readString_quoted, skipSpace_cons (by decide : isSpace ':' = false), skipSpace_append padBlank,
    reads.skipSpace, reads.read fuel behind enough ends, name, done]

end Parts

section Layout

variable {gap closing : List Char} (gapBlank : ∀ c ∈ gap, isSpace c = true)
  (closingBlank : ∀ c ∈ closing, isSpace c = true) (text : Json → List Char)

include gapBlank closingBlank

theorem readItems_joined {item : Json} {items : List Json}
    (reads : ∀ i ∈ item :: items, Reads i (text i)) (held : List Json) (fuel : Nat)
    (rest : List Char) (enough : (text item ++ joined gap false (items.map text)).length ≤ fuel) :
    readItems (fuel + 1) held
        (text item ++ (joined gap false (items.map text) ++ (closing ++ ']' :: rest))) =
      some (held.reverse ++ item :: items, rest) := by
  induction items generalizing item held fuel with
  | nil =>
    have ends := ends_joined closingBlank (by decide : endsValue ']' = true) gap [] rest
    have done := skipSpace_closing closingBlank (by decide : isSpace ']' = false) rest
    rw [List.map_nil] at enough ⊢
    rw [readItems_last (reads item List.mem_cons_self) (by simp at enough; omega) held ends done]
    simp
  | cons next items ih =>
    have second := reads next (by simp)
    have ends := ends_joined closingBlank (by decide : endsValue ']' = true) gap
      ((next :: items).map text) rest
    have more : skipSpace (joined gap false ((next :: items).map text) ++ (closing ++ ']' :: rest)) =
        ',' :: (gap ++ (text next ++
          (joined gap false (items.map text) ++ (closing ++ ']' :: rest)))) := by
      simp only [List.map_cons, joined, Bool.false_eq_true, if_false, List.cons_append,
        List.nil_append, List.append_assoc, skipSpace_cons (by decide : isSpace ',' = false)]
    rw [readItems_next (reads item List.mem_cons_self) (by simp at enough; omega) held ends more,
      skipSpace_append gapBlank, second.skipSpace]
    simp only [List.map_cons, joined, List.length_append] at enough
    cases fuel with
    | zero => simp at enough
    | succ fuel =>
      have within : (text next ++ joined gap false (items.map text)).length ≤ fuel := by
        simp at enough ⊢
        omega
      have later := ih (fun i member => reads i (List.mem_cons_of_mem _ member)) (item :: held) fuel
        within
      rw [later]
      simp

theorem readFields_joined {pad : List Char} (padBlank : ∀ c ∈ pad, isSpace c = true)
    {field : String × Json} {fields : List (String × Json)}
    (reads : ∀ f ∈ field :: fields, Reads f.2 (text f.2)) (held : List (String × Json)) (fuel : Nat)
    (rest : List Char)
    (enough : (fieldText pad text field ++
      joined gap false (fields.map (fieldText pad text))).length ≤ fuel) :
    readFields (fuel + 1) held (fieldText pad text field ++
        (joined gap false (fields.map (fieldText pad text)) ++ (closing ++ '\x7d' :: rest))) =
      some (held.reverse ++ field :: fields, rest) := by
  have short : (text field.2).length ≤ fuel := by
    simp [fieldText] at enough
    omega
  induction fields generalizing field held fuel with
  | nil =>
    have ends := ends_joined closingBlank (by decide : endsValue '\x7d' = true) gap [] rest
    have done := skipSpace_closing closingBlank (by decide : isSpace '\x7d' = false) rest
    rw [List.map_nil]
    rw [readFields_last padBlank (reads field List.mem_cons_self) short held ends done]
    simp
  | cons next fields ih =>
    have ends := ends_joined closingBlank (by decide : endsValue '\x7d' = true) gap
      ((next :: fields).map (fieldText pad text)) rest
    have more : skipSpace (joined gap false ((next :: fields).map (fieldText pad text)) ++
          (closing ++ '\x7d' :: rest)) =
        ',' :: (gap ++ (fieldText pad text next ++
          (joined gap false (fields.map (fieldText pad text)) ++ (closing ++ '\x7d' :: rest)))) := by
      simp only [List.map_cons, joined, Bool.false_eq_true, if_false, List.cons_append,
        List.nil_append, List.append_assoc, skipSpace_cons (by decide : isSpace ',' = false)]
    rw [readFields_next padBlank (reads field List.mem_cons_self) short held ends more,
      skipSpace_append gapBlank, skipSpace_fieldText]
    simp only [List.map_cons, joined, List.length_append] at enough
    cases fuel with
    | zero => simp at enough
    | succ fuel =>
      have within : (fieldText pad text next ++
          joined gap false (fields.map (fieldText pad text))).length ≤ fuel := by
        simp at enough ⊢
        omega
      have shorter : (text next.2).length ≤ fuel := by
        simp [fieldText] at within
        omega
      have later := ih (fun f member => reads f (List.mem_cons_of_mem _ member)) (field :: held)
        fuel within shorter
      rw [later]
      simp

theorem Reads.arr {items : List Json} (reads : ∀ i ∈ items, Reads i (text i)) :
    Reads (.arr items) ('[' :: joined gap true (items.map text) ++ closing ++ [']']) := by
  have starts : ∃ c rest, '[' :: joined gap true (items.map text) ++ closing ++ [']'] = c :: rest ∧
      isSpace c = false ∧ c ≠ ']' := ⟨'[', _, rfl, by decide, by decide⟩
  apply Reads.of_step starts
  intro fuel rest enough _
  cases items with
  | nil =>
    simp only [List.map_nil, joined, List.cons_append, List.nil_append, List.append_assoc, readValue,
      skipSpace_closing closingBlank (by decide : isSpace ']' = false)]
  | cons item items =>
    have first := reads item List.mem_cons_self
    obtain ⟨c, tail, front, solid, other⟩ := first.starts
    simp only [List.map_cons, joined, if_true, List.cons_append, List.nil_append,
      List.append_assoc, readValue, skipSpace_append gapBlank, first.skipSpace, List.length_append,
      List.length_cons, List.length_nil] at enough ⊢
    split
    · rename_i same
      rw [front] at same
      cases same
      exact absurd rfl other
    · cases fuel with
      | zero => omega
      | succ fuel =>
        have read := readItems_joined gapBlank closingBlank text reads [] fuel rest
          (by rw [List.length_append]; omega)
        rw [read]
        rfl

theorem Reads.obj {pad : List Char} (padBlank : ∀ c ∈ pad, isSpace c = true)
    {fields : List (String × Json)} (reads : ∀ f ∈ fields, Reads f.2 (text f.2)) :
    Reads (.obj fields)
      ('{' :: joined gap true (fields.map (fieldText pad text)) ++ closing ++ ['}']) := by
  have starts : ∃ c rest,
      '{' :: joined gap true (fields.map (fieldText pad text)) ++ closing ++ ['}'] = c :: rest ∧
      isSpace c = false ∧ c ≠ ']' := ⟨'{', _, rfl, by decide, by decide⟩
  apply Reads.of_step starts
  intro fuel rest enough _
  cases fields with
  | nil =>
    simp only [List.map_nil, joined, List.cons_append, List.nil_append, List.append_assoc, readValue,
      skipSpace_closing closingBlank (by decide : isSpace '}' = false)]
  | cons field fields =>
    simp only [List.map_cons, joined, if_true, List.cons_append, List.nil_append,
      List.append_assoc, readValue, skipSpace_append gapBlank, skipSpace_fieldText, List.length_append,
      List.length_cons, List.length_nil] at enough ⊢
    split
    · rename_i same
      cases same
    · cases fuel with
      | zero => omega
      | succ fuel =>
        have read := readFields_joined gapBlank closingBlank text padBlank reads [] fuel rest
          (by rw [List.length_append]; omega)
        rw [read]
        rfl

end Layout

end Outline.Json
