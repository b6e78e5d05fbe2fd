import Outline.Json.Printer
import Outline.Proofs.Text.Digits
import Outline.Proofs.Toml.Strings

namespace Outline.Toml

open Outline.Text

theorem readValue_writeString (s : String) {rest : List Char} (ends : EndsQuotes rest)
    (fuel depth : Nat) :
    readValue (fuel + 1) depth (writeString s.toList ++ rest) = some (.str s, rest) := by
  have read := readString_writeString s.toList ends
  obtain ⟨quote, text, written, form⟩ := writeString_start s.toList
  rw [written, List.cons_append] at read ⊢
  rcases form with rfl | rfl
  · rw [readValue, read]
    simp
  · rw [readValue, read]
    simp

structure ReadsLine (value : Value) (text : List Char) : Prop where
  starts : ∃ c tail, text = c :: tail ∧ isSpace c = false
  read : ∀ fuel rest, text.length < fuel →
    readValue fuel maxDepth (text ++ '\n' :: rest) = some (value, '\n' :: rest)

theorem endsQuotes_cons {c : Char} (double : c ≠ '"') (single : c ≠ '\'') (rest : List Char) :
    EndsQuotes (c :: rest) := by
  intro d first
  cases first
  exact ⟨double, single⟩

theorem isSpace_quote {quote : Char} (form : quote = '"' ∨ quote = '\'') :
    isSpace quote = false := by
  rcases form with rfl | rfl <;> decide

theorem ReadsLine.str (s : String) : ReadsLine (.str s) (writeString s.toList) where
  starts := by
    obtain ⟨quote, text, written, form⟩ := writeString_start s.toList
    exact ⟨quote, text, written, isSpace_quote form⟩
  read := by
    intro fuel rest enough
    obtain ⟨fuel, rfl⟩ := Nat.exists_eq_add_one_of_ne_zero (by omega : fuel ≠ 0)
    exact readValue_writeString s (endsQuotes_cons (by decide) (by decide) rest) fuel _

theorem ReadsLine.bool (value : Bool) : ReadsLine (.bool value) (Json.boolText value) where
  starts := by cases value <;> exact ⟨_, _, rfl, by decide⟩
  read := by
    intro fuel rest enough
    obtain ⟨fuel, rfl⟩ := Nat.exists_eq_add_one_of_ne_zero (by omega : fuel ≠ 0)
    cases value <;> rfl

theorem isDigits_of_all {s : List Char} (some : s ≠ []) (all : ∀ c ∈ s, isDigit c = true) :
    isDigits isDigit s = true := by
  induction s with
  | nil => exact absurd rfl some
  | cons c rest ih =>
    obtain ⟨first, later⟩ := List.forall_mem_cons.mp all
    cases rest with
    | nil => exact first
    | cons d rest =>
      have digit := later d List.mem_cons_self
      have other : d ≠ '_' := by
        rintro rfl
        cases digit
      rw [isDigits]
      · rw [first, ih (by simp) later]
        rfl
      · simp
      · intro behind same
        exact other (List.cons.inj same).1

theorem hexValue?_of_isDigit {c : Char} (digit : isDigit c = true) :
    hexValue? c = some (c.toNat - '0'.toNat) := if_pos digit

theorem digitsValue_eq {s : List Char} (all : ∀ c ∈ s, isDigit c = true) :
    digitsValue 10 s = natOfDigits s := by
  have values : s.filterMap hexValue? = s.map fun c => c.toNat - '0'.toNat := by
    induction s with
    | nil => rfl
    | cons c s ih =>
      obtain ⟨first, later⟩ := List.forall_mem_cons.mp all
      rw [List.filterMap_cons_some (hexValue?_of_isDigit first), ih later, List.map_cons]
  rw [digitsValue, values, List.foldl_map]
  rfl

theorem integer?_natText (n : Nat) : integer? (natText n) = some (n : Int) := by
  have all : ∀ c ∈ natText n, isDigit c = true := fun _ => isDigit_of_mem_natText
  have value := digitsValue_eq all
  have digits := isDigits_of_all (natText_ne_nil n) all
  rw [natOfDigits_natText] at value
  by_cases zero : n = 0
  · subst zero
    rfl
  · obtain ⟨c, rest, front, nonzero⟩ := natText_cons (by omega : 0 < n)
    rw [front] at all value digits ⊢
    have digit := all c List.mem_cons_self
    have plus : c ≠ '+' := by
      rintro rfl
      cases digit
    have minus : c ≠ '-' := by
      rintro rfl
      cases digit
    have unsigned : dropSign (c :: rest) = c :: rest := by
      rw [dropSign]
      · intro behind same
        exact plus (List.cons.inj same).1
      · intro behind same
        exact minus (List.cons.inj same).1
    have decimal : isDecimal (c :: rest) = true := by
      rw [isDecimal]
      · exact digits
      · intro same
        exact nonzero (List.cons.inj same).1
      · intro behind same
        exact nonzero (List.cons.inj same).1
    rw [integer?]
    · rw [unsigned, decimal, value]
      rfl
    all_goals
      intro behind same
      simp_all

theorem isTokenChar_of_isDigit {c : Char} (digit : isDigit c = true) : isTokenChar c = true := by
  have alphanumeric : c.isAlphanum = true := by
    have core : c.isDigit = true := by simpa [isDigit, Char.isDigit, Char.le_def] using digit
    rw [Char.isAlphanum, core, Bool.or_true]
  rw [isTokenChar, alphanumeric]
  rfl

theorem readToken_natText (n : Nat) (rest : List Char) :
    readToken (natText n ++ '\n' :: rest) = (natText n, '\n' :: rest) := by
  have all : ∀ c ∈ natText n, isTokenChar c = true :=
    fun _ member => isTokenChar_of_isDigit (isDigit_of_mem_natText member)
  have feed : isTokenChar '\n' = false := by decide
  rw [readToken, List.takeWhile_append_of_pos all, List.dropWhile_append_of_pos all,
    List.takeWhile_cons_of_neg (by simp [feed]), List.dropWhile_cons_of_neg (by simp [feed]),
    List.append_nil]
  rfl

theorem tokenValue?_natText (n : Nat) : tokenValue? (natText n) = some (.int n) := by
  obtain ⟨c, rest, front⟩ := List.exists_cons_of_ne_nil (natText_ne_nil n)
  have digit : isDigit c = true := isDigit_of_mem_natText (n := n) (by rw [front]; simp)
  have yes : natText n ≠ ['t', 'r', 'u', 'e'] := by
    intro same
    rw [front] at same
    cases same
    cases digit
  have no : natText n ≠ ['f', 'a', 'l', 's', 'e'] := by
    intro same
    rw [front] at same
    cases same
    cases digit
  rw [tokenValue?, if_neg (by simpa using yes), if_neg (by simpa using no), integer?_natText]

theorem ReadsLine.nat (n : Nat) : ReadsLine (.int n) (natText n) := by
  obtain ⟨c, tail, front⟩ := List.exists_cons_of_ne_nil (natText_ne_nil n)
  have digit : isDigit c = true := isDigit_of_mem_natText (n := n) (by rw [front]; simp)
  refine ⟨⟨c, tail, front, ?_⟩, ?_⟩
  · cases space : isSpace c with
    | false => rfl
    | true =>
      simp only [isSpace, Bool.or_eq_true, beq_iff_eq] at space
      rcases space with rfl | rfl <;> cases digit
  · intro fuel rest enough
    obtain ⟨fuel, rfl⟩ := Nat.exists_eq_add_one_of_ne_zero (by omega : fuel ≠ 0)
    have token := readToken_natText n rest
    have value := tokenValue?_natText n
    have step : readValue (fuel + 1) maxDepth (natText n ++ '\n' :: rest) =
        (tokenValue? (readToken (natText n ++ '\n' :: rest)).1).map fun value =>
          (value, (readToken (natText n ++ '\n' :: rest)).2) := by
      rw [front, List.cons_append, readValue]
      all_goals
        intro behind same
        rw [(List.cons.inj same).1] at digit
        cases digit
    rw [step, token, value]
    rfl

theorem skipFiller_solid {c : Char} (solid : isSpace c = false) (feed : c ≠ '\n')
    (carriage : c ≠ '\r') (comment : c ≠ '#') (rest : List Char) :
    skipFiller false (c :: rest) = some (c :: rest) := by
  rw [skipFiller]
  · simp [solid, comment]
  · exact feed
  · intro behind same
    exact absurd same carriage

theorem skipFiller_spaces (n : Nat) (rest : List Char) :
    skipFiller false (spaces n ++ rest) = skipFiller false rest := by
  induction n with
  | zero => rfl
  | succ n ih =>
    have space : isSpace ' ' = true := by decide
    change skipFiller false (' ' :: (spaces n ++ rest)) = _
    rw [skipFiller]
    · simpa [space] using ih
    · decide
    · intro behind same
      exact absurd same (by decide)

theorem skipFiller_writeString (s rest : List Char) :
    skipFiller false (writeString s ++ rest) = some (writeString s ++ rest) := by
  obtain ⟨quote, text, written, form⟩ := writeString_start s
  rw [written, List.cons_append]
  rcases form with rfl | rfl <;>
    exact skipFiller_solid (by decide) (by decide) (by decide) (by decide) _

section Items

variable {s rest behind : List Char} {value : Value} {fuel depth : Nat}

theorem readItems_next (start : s.head? ≠ some ']') (filler : skipFiller false s = some s)
    (read : readValue fuel depth s = some (value, rest)) (held : List Value)
    (more : skipFiller false rest = some (',' :: behind)) :
    readItems (fuel + 1) depth held s = readItems fuel depth (value :: held) behind := by
  rw [readItems, filler]
  split
  · rename_i same
    cases same
    exact absurd rfl start
  · rename_i same
    cases same
    simp only [read, more]
  · rename_i same
    cases same

theorem readItems_last (start : s.head? ≠ some ']') (filler : skipFiller false s = some s)
    (read : readValue fuel depth s = some (value, rest)) (held : List Value)
    (done : skipFiller false rest = some (']' :: behind)) :
    readItems (fuel + 1) depth held s = some ((value :: held).reverse, behind) := by
  rw [readItems, filler]
  split
  · rename_i same
    cases same
    exact absurd rfl start
  · rename_i same
    cases same
    simp only [read, done]
  · rename_i same
    cases same

end Items

theorem writeString_head? (s rest : List Char) : (writeString s ++ rest).head? ≠ some ']' := by
  obtain ⟨quote, text, written, form⟩ := writeString_start s
  rw [written]
  rcases form with rfl | rfl <;> simp

theorem readItems_end (fuel depth : Nat) (held : List Value) (rest : List Char) :
    readItems (fuel + 1) depth held (']' :: rest) = some (held.reverse, rest) := by
  have filler : skipFiller false (']' :: rest) = some (']' :: rest) :=
    skipFiller_solid (by decide) (by decide) (by decide) (by decide) rest
  rw [readItems, filler]
  rfl

def itemLines (items : List String) : List Char :=
  items.flatMap fun item => spaces 4 ++ writeString item.toList ++ [',', '\n']

theorem readItems_newline (fuel depth : Nat) (held : List Value) (s : List Char) :
    readItems fuel depth held ('\n' :: s) = readItems fuel depth held s := by
  cases fuel with
  | zero => rfl
  | succ fuel => rw [readItems, readItems, skipFiller]

theorem readItems_spaces (n fuel depth : Nat) (held : List Value) (s : List Char) :
    readItems fuel depth held (spaces n ++ s) = readItems fuel depth held s := by
  cases fuel with
  | zero => rfl
  | succ fuel => rw [readItems, readItems, skipFiller_spaces]

theorem readItems_itemLines (items : List String) {fuel : Nat} (enough : items.length < fuel)
    (depth : Nat) (held : List Value) (rest : List Char) :
    readItems fuel depth held (itemLines items ++ ']' :: rest) =
      some (held.reverse ++ items.map .str, rest) := by
  induction items generalizing fuel held with
  | nil =>
    obtain ⟨fuel, rfl⟩ := Nat.exists_eq_add_one_of_ne_zero (by omega : fuel ≠ 0)
    rw [itemLines, List.flatMap_nil, List.nil_append, readItems_end]
    simp
  | cons item items ih =>
    obtain ⟨fuel, rfl⟩ : ∃ more, fuel = more + 2 := ⟨fuel - 2, by simp at enough; omega⟩
    have lines : itemLines (item :: items) ++ ']' :: rest =
        spaces 4 ++ (writeString item.toList ++
          (',' :: '\n' :: (itemLines items ++ ']' :: rest))) := by
      simp [itemLines]
    have ends := endsQuotes_cons (by decide : ',' ≠ '"') (by decide)
      ('\n' :: (itemLines items ++ ']' :: rest))
    have comma : skipFiller false (',' :: '\n' :: (itemLines items ++ ']' :: rest)) = _ :=
      skipFiller_solid (by decide) (by decide) (by decide) (by decide) _
    have later := ih (by simp at enough; omega : items.length < fuel + 1) (.str item :: held)
    rw [lines, readItems_spaces,
      readItems_next (writeString_head? _ _) (skipFiller_writeString _ _)
        (readValue_writeString item ends fuel depth) held comma,
      readItems_newline, later]
    simp

theorem readValue_list (fuel : Nat) (s : List Char) :
    readValue (fuel + 1) maxDepth ('[' :: s) =
      (readItems fuel 79 [] s).map fun (items, rest) => (.arr items, rest) := by
  rw [maxDepth, readValue]

theorem ReadsLine.of_items {value : List Value} {tail : List Char}
    (read : ∀ fuel rest, tail.length < fuel →
      readItems fuel 79 [] (tail ++ '\n' :: rest) = some (value, '\n' :: rest)) :
    ReadsLine (.arr value) ('[' :: tail) where
  starts := ⟨'[', tail, rfl, by decide⟩
  read := by
    intro fuel rest enough
    obtain ⟨fuel, rfl⟩ := Nat.exists_eq_add_one_of_ne_zero (by omega : fuel ≠ 0)
    rw [List.cons_append, readValue_list, read fuel rest (by simp at enough; omega)]
    rfl

theorem length_le_itemLines (items : List String) : items.length ≤ (itemLines items).length := by
  induction items with
  | nil => exact Nat.le_refl 0
  | cons item items ih =>
    simp only [itemLines, List.flatMap_cons, List.length_append, List.length_cons] at ih ⊢
    omega

theorem ReadsLine.strings (items : List String) :
    ReadsLine (.arr (items.map .str)) (writeStrings items) := by
  cases items with
  | nil =>
    apply ReadsLine.of_items
    intro fuel rest enough
    obtain ⟨fuel, rfl⟩ := Nat.exists_eq_add_one_of_ne_zero (by omega : fuel ≠ 0)
    exact readItems_end fuel 79 [] ('\n' :: rest)
  | cons item items =>
    cases items with
    | nil =>
      have line : writeStrings [item] = '[' :: (writeString item.toList ++ [']']) := rfl
      rw [line]
      apply ReadsLine.of_items
      intro fuel rest enough
      obtain ⟨fuel, rfl⟩ : ∃ more, fuel = more + 2 := ⟨fuel - 2, by simp at enough; omega⟩
      have ends := endsQuotes_cons (by decide : ']' ≠ '"') (by decide) ('\n' :: rest)
      have bracket : skipFiller false (']' :: '\n' :: rest) = _ :=
        skipFiller_solid (by decide) (by decide) (by decide) (by decide) _
      rw [List.append_assoc, List.cons_append, List.nil_append,
        readItems_last (writeString_head? _ _) (skipFiller_writeString _ _)
          (readValue_writeString item ends fuel 79) [] bracket]
      rfl
    | cons next items =>
      have lines : writeStrings (item :: next :: items) =
          '[' :: '\n' :: (itemLines (item :: next :: items) ++ [']']) := rfl
      have count := length_le_itemLines (item :: next :: items)
      rw [lines]
      apply ReadsLine.of_items
      intro fuel rest enough
      rw [List.cons_append, List.append_assoc, List.cons_append, List.nil_append, readItems_newline,
        readItems_itemLines _ (by simp at enough count ⊢; omega)]
      rfl

def isBare (key : String) : Bool := !key.toList.isEmpty && key.toList.all isBareKey

theorem bare_start {key : String} (bare : isBare key = true) :
    ∃ c tail, key.toList = c :: tail ∧ isBareKey c = true := by
  cases chars : key.toList with
  | nil => simp [isBare, chars] at bare
  | cons c tail =>
    simp [isBare, chars] at bare
    exact ⟨c, tail, rfl, bare.1⟩

theorem isBareKey_cases {c : Char} (bare : isBareKey c = true) :
    isSpace c = false ∧ c ≠ '\n' ∧ c ≠ '\r' ∧ c ≠ '#' ∧ c ≠ '"' ∧ c ≠ '\'' ∧ c ≠ '[' := by
  refine ⟨?_, ?_, ?_, ?_, ?_, ?_, ?_⟩
  · cases space : isSpace c with
    | false => rfl
    | true =>
      simp only [isSpace, Bool.or_eq_true, beq_iff_eq] at space
      rcases space with rfl | rfl <;> exact absurd bare (by decide)
  all_goals
    rintro rfl
    exact absurd bare (by decide)

theorem skipSpace_cons {c : Char} (solid : isSpace c = false) (s : List Char) :
    skipSpace (c :: s) = c :: s := by
  simp [skipSpace, solid]

theorem readSimpleKey_bare {key : String} (bare : isBare key = true) {c : Char}
    (stop : isBareKey c = false) (rest : List Char) :
    readSimpleKey (key.toList ++ c :: rest) = some (key, c :: rest) := by
  have all : ∀ d ∈ key.toList, isBareKey d = true := by
    simp [isBare] at bare
    exact bare.2
  obtain ⟨first, tail, chars, start⟩ := bare_start bare
  obtain ⟨-, -, -, -, double, single, -⟩ := isBareKey_cases start
  have taken : (key.toList ++ c :: rest).takeWhile isBareKey = key.toList := by
    rw [List.takeWhile_append_of_pos all, List.takeWhile_cons_of_neg (by simp [stop]),
      List.append_nil]
  have dropped : (key.toList ++ c :: rest).dropWhile isBareKey = c :: rest := by
    rw [List.dropWhile_append_of_pos all, List.dropWhile_cons_of_neg (by simp [stop])]
  have step : readSimpleKey (key.toList ++ c :: rest) =
      if ((key.toList ++ c :: rest).takeWhile isBareKey).isEmpty then none
      else some (String.ofList ((key.toList ++ c :: rest).takeWhile isBareKey),
        (key.toList ++ c :: rest).dropWhile isBareKey) := by
    rw [chars, List.cons_append, readSimpleKey]
    · intro behind same
      exact double (List.cons.inj same).1
    · intro behind same
      exact single (List.cons.inj same).1
  rw [step, taken, dropped, String.ofList_toList, chars]
  rfl

theorem readKey_bare {key : String} (bare : isBare key = true) {c : Char}
    (stop : isBareKey c = false) {rest : List Char}
    (undotted : ∀ behind, skipSpace (c :: rest) ≠ '.' :: behind) (fuel : Nat) :
    readKey (fuel + 1) (key.toList ++ c :: rest) = some ([], key, skipSpace (c :: rest)) := by
  obtain ⟨first, tail, chars, start⟩ := bare_start bare
  have front : skipSpace (key.toList ++ c :: rest) = key.toList ++ c :: rest := by
    rw [chars, List.cons_append, skipSpace_cons (isBareKey_cases start).1]
  rw [readKey, front, readSimpleKey_bare bare stop]
  dsimp only
  split
  · rename_i same
    exact absurd same (undotted _)
  · rfl

theorem lineEnd?_newline (rest : List Char) : lineEnd? ('\n' :: rest) = some rest := rfl

structure Means (text : List Char) (statement : Statement) : Prop where
  starts : ∃ c tail, text = c :: tail ∧ isSpace c = false ∧ c ≠ '\n' ∧ c ≠ '\r' ∧ c ≠ '#'
  read : ∀ rest, readStatement (text ++ rest) = some (statement, rest)

theorem readStatement_entry {c : Char} (other : c ≠ '[') {s behind rest : List Char}
    {path : List String} {key : String} {value : Value}
    (named : readKey ((c :: s).length + 1) (c :: s) = some (path, key, '=' :: behind))
    (read : readValue ((c :: s).length + 1) maxDepth (skipSpace behind) =
      some (value, '\n' :: rest)) :
    readStatement (c :: s) = some (.entry path key value, rest) := by
  rw [readStatement]
  · simp only [named, read, lineEnd?_newline, Option.map_some]
  · intro rest same
    exact other (List.cons.inj same).1
  · intro rest same
    exact other (List.cons.inj same).1

theorem Means.entry {key : String} (bare : isBare key = true) {value : Value} {text : List Char}
    (reads : ReadsLine value text) : Means (writeEntry key text) (.entry [] key value) := by
  obtain ⟨c, tail, chars, start⟩ := bare_start bare
  obtain ⟨solid, feed, carriage, comment, -, -, bracket⟩ := isBareKey_cases start
  refine ⟨⟨c, tail ++ ' ' :: '=' :: ' ' :: text ++ ['\n'], ?_, solid, feed, carriage, comment⟩, ?_⟩
  · rw [writeEntry, chars]
    simp
  intro rest
  obtain ⟨d, more, begun, dark⟩ := reads.starts
  have equals : skipSpace (' ' :: '=' :: ' ' :: (text ++ '\n' :: rest)) =
      '=' :: ' ' :: (text ++ '\n' :: rest) := rfl
  have value : skipSpace (' ' :: (text ++ '\n' :: rest)) = text ++ '\n' :: rest := by
    rw [begun]
    exact skipSpace_cons dark _
  have found := readKey_bare bare (by decide : isBareKey ' ' = false) (by rw [equals]; simp)
    (c :: (tail ++ ' ' :: '=' :: ' ' :: (text ++ '\n' :: rest))).length
  have line : writeEntry key text ++ rest =
      c :: (tail ++ ' ' :: '=' :: ' ' :: (text ++ '\n' :: rest)) := by
    simp [writeEntry, chars]
  rw [chars, List.cons_append, equals] at found
  rw [line]
  apply readStatement_entry bracket found
  rw [value]
  exact reads.read _ rest (by simp; omega)

def headerLine (key : String) : List Char := '[' :: key.toList ++ [']', '\n']

theorem Means.header {key : String} (bare : isBare key = true) :
    Means (headerLine key) (.header [] key) := by
  obtain ⟨c, tail, chars, start⟩ := bare_start bare
  obtain ⟨-, -, -, -, -, -, bracket⟩ := isBareKey_cases start
  refine ⟨⟨'[', key.toList ++ [']', '\n'], rfl, by decide, by decide, by decide, by decide⟩, ?_⟩
  intro rest
  have close : skipSpace (']' :: '\n' :: rest) = ']' :: '\n' :: rest := rfl
  have read := readKey_bare bare (by decide : isBareKey ']' = false) (by rw [close]; simp)
    ('[' :: (key.toList ++ ']' :: '\n' :: rest)).length
  have line : headerLine key ++ rest = '[' :: (key.toList ++ ']' :: '\n' :: rest) := by
    simp [headerLine]
  rw [line, readStatement]
  · rw [read, close]
    rfl
  · intro behind same
    rw [chars] at same
    exact bracket (List.cons.inj same).1

/-- A text of lines, among them blank ones, with what they say. -/
inductive Document : List Char → List Statement → Prop
  | nil : Document [] []
  | blank {rest : List Char} {statements : List Statement} (later : Document rest statements) :
    Document ('\n' :: rest) statements
  | line {text rest : List Char} {statement : Statement} {statements : List Statement}
    (means : Means text statement) (later : Document rest statements) :
    Document (text ++ rest) (statement :: statements)

theorem Document.append {text more : List Char} {statements others : List Statement}
    (front : Document text statements) (back : Document more others) :
    Document (text ++ more) (statements ++ others) := by
  induction front with
  | nil => exact back
  | blank later ih => exact .blank ih
  | line means later ih =>
    rw [List.append_assoc]
    exact .line means ih

theorem Document.entry (key : String) (bare : isBare key = true) {value : Value}
    {text : List Char} (reads : ReadsLine value text) :
    Document (writeEntry key text) [.entry [] key value] := by
  have line := Document.line (Means.entry bare reads) .nil
  rwa [List.append_nil] at line

theorem Document.header (key : String) (bare : isBare key = true) :
    Document (writeHeader key) [.header [] key] := by
  have line := Document.line (Means.header bare) .nil
  rw [List.append_nil] at line
  exact .blank line

theorem Document.readStatements_eq {text : List Char} {statements : List Statement}
    (document : Document text statements) {fuel : Nat} (enough : text.length < fuel)
    (held : List Statement) :
    readStatements fuel held text = some (held.reverse ++ statements) := by
  -- Every step takes a character, so the length of the text is enough fuel.
  induction document generalizing fuel held with
  | nil =>
    obtain ⟨fuel, rfl⟩ := Nat.exists_eq_add_one_of_ne_zero (by omega : fuel ≠ 0)
    rw [readStatements, skipFiller]
    simp
  | blank later ih =>
    obtain ⟨fuel, rfl⟩ := Nat.exists_eq_add_one_of_ne_zero (by omega : fuel ≠ 0)
    have read := ih (by simp at enough; omega : _ < fuel + 1) held
    rw [readStatements] at read ⊢
    rw [skipFiller]
    exact read
  | @line text rest statement statements means later ih =>
    obtain ⟨fuel, rfl⟩ := Nat.exists_eq_add_one_of_ne_zero (by omega : fuel ≠ 0)
    obtain ⟨c, tail, chars, solid, feed, carriage, comment⟩ := means.starts
    have filler : skipFiller false (text ++ rest) = some (text ++ rest) := by
      rw [chars]
      exact skipFiller_solid solid feed carriage comment _
    have line := means.read rest
    have read := ih (by simp [chars] at enough; omega : _ < fuel) (statement :: held)
    rw [readStatements, filler]
    rw [chars, List.cons_append] at line ⊢
    dsimp only
    rw [line]
    dsimp only
    rw [read]
    simp

end Outline.Toml
