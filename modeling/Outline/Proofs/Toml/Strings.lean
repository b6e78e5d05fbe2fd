import Outline.Toml.Reader
import Outline.Toml.Writer

namespace Outline.Toml

open Outline.Text

def EndsQuotes (rest : List Char) : Prop := ∀ c, rest.head? = some c → c ≠ '"' ∧ c ≠ '\''

/-- A reader of a text with escapes, whose first argument is what was read, reversed. Line feeds
stand for themselves in a `long` text. -/
structure Unescapes (long : Bool) (read : List Char → List Char → Option (List Char × List Char)) :
    Prop where
  short : ∀ {c e : Char}, shortEscape? c = some e →
    ∀ held rest, read held ('\\' :: c :: rest) = read (e :: held) rest
  unit : ∀ {a b c d e : Char}, scalar? [a, b, c, d] = some e →
    ∀ held rest, read held ('\\' :: 'u' :: a :: b :: c :: d :: rest) = read (e :: held) rest
  plain : ∀ {c : Char}, c ≠ '"' → c ≠ '\\' → isPlain c = true →
    ∀ held rest, read held (c :: rest) = read (c :: held) rest
  feed : long = true → ∀ held rest, read held ('\n' :: rest) = read ('\n' :: held) rest

theorem ne_scalarMark_of_shortEscape? {c e : Char} (short : shortEscape? c = some e) :
    c ≠ 'u' ∧ c ≠ 'U' := by
  constructor
  · rintro rfl
    cases short
  · rintro rfl
    cases short

theorem scalar?_hexText : ∀ n < 128,
    (hexText 4 n).length = 4 ∧ scalar? (hexText 4 n) = some (Char.ofNat n) := by
  decide

theorem isPlain_of_toNat {c : Char} (printed : ¬ (c.toNat < 0x20 || c.toNat = 0x7F) = true) :
    isPlain c = true := by
  simp [isPlain] at printed ⊢
  omega

theorem Unescapes.escapeChar {long : Bool}
    {read : List Char → List Char → Option (List Char × List Char)} (reads : Unescapes long read)
    {c : Char} (other : c ≠ '"') (held rest : List Char) :
    read held (escapeChar long c ++ rest) = read (c :: held) rest := by
  unfold Toml.escapeChar
  split
  · subst c
    exact reads.short rfl held rest
  rename_i solid
  split
  · subst c
    exact reads.short rfl held rest
  split
  · subst c
    exact reads.short rfl held rest
  split
  · subst c
    cases long with
    | true => exact reads.feed rfl held rest
    | false => exact reads.short rfl held rest
  split
  · subst c
    exact reads.short rfl held rest
  split
  · subst c
    exact reads.short rfl held rest
  split
  · rename_i control
    have small : c.toNat < 128 := by
      simp at control
      omega
    obtain ⟨four, scalar⟩ := scalar?_hexText c.toNat small
    rw [Char.ofNat_toNat] at scalar
    match hexText 4 c.toNat, four, scalar with
    | [_, _, _, _], _, scalar => exact reads.unit scalar held rest
  · rename_i printed
    exact reads.plain other solid (isPlain_of_toNat printed) held rest

theorem unescapes_readBasic : Unescapes false readBasic where
  short := by
    intro c e short held rest
    obtain ⟨unit, wide⟩ := ne_scalarMark_of_shortEscape? short
    rw [readBasic]
    · simp [short]
    · intro _ _ _ _ _ same
      exact absurd same unit
    · intro _ _ _ _ _ _ _ _ _ same
      exact absurd same wide
  unit := by
    intro a b c d e scalar held rest
    rw [readBasic]
    simp [scalar]
  plain := by
    intro c quote escape plain held rest
    rw [readBasic]
    · simp [plain, escape]
    all_goals simp_all
  feed := by
    intro long
    cases long

theorem readBasic_escapeText (s held rest : List Char) :
    readBasic held (escapeText false 0 0 s ++ '"' :: rest) = some (held.reverse ++ s, rest) := by
  induction s generalizing held with
  | nil => simp [escapeText, readBasic]
  | cons c s ih =>
    rw [escapeText]
    split
    · subst c
      rw [if_neg (Nat.lt_irrefl 0)]
      rw [List.cons_append, List.cons_append, unescapes_readBasic.short rfl, ih]
      simp
    · rename_i other
      rw [List.append_assoc, unescapes_readBasic.escapeChar other, ih]
      simp

structure Closes (mark : Char) (read : List Char → List Char → Option (List Char × List Char)) :
    Prop where
  quote : ∀ {rest : List Char}, (∀ behind, rest ≠ mark :: mark :: behind) →
    ∀ held, read held (mark :: rest) = read (mark :: held) rest
  three : ∀ {rest : List Char}, rest.head? ≠ some mark →
    ∀ held, read held (mark :: mark :: mark :: rest) = some (held.reverse, rest)
  four : ∀ {rest : List Char}, rest.head? ≠ some mark →
    ∀ held, read held (mark :: mark :: mark :: mark :: rest) = some ((mark :: held).reverse, rest)
  five : ∀ held rest, read held (mark :: mark :: mark :: mark :: mark :: rest) =
    some ((mark :: mark :: held).reverse, rest)

/-- A written text, and what it says: at most two quotes in a row stand for themselves, of which
`run` stand directly before. -/
inductive Body (mark : Char) (read : List Char → List Char → Option (List Char × List Char)) :
    Nat → List Char → List Char → Prop
  | nil (run : Nat) : Body mark read run [] []
  | quote {run : Nat} {written s : List Char} (few : run < 2)
    (later : Body mark read (run + 1) written s) : Body mark read run (mark :: written) (mark :: s)
  | char {run : Nat} {first c : Char} {chunk written s : List Char} (other : first ≠ mark)
    (step : ∀ held rest, read held (first :: chunk ++ rest) = read (c :: held) rest)
    (later : Body mark read 0 written s) :
    Body mark read run (first :: chunk ++ written) (c :: s)

theorem Body.read_eq {mark : Char} {read : List Char → List Char → Option (List Char × List Char)}
    (closes : Closes mark read) {run : Nat} {written s : List Char}
    (body : Body mark read run written s) {rest : List Char} (ends : rest.head? ≠ some mark)
    (held : List Char) :
    read held (written ++ mark :: mark :: mark :: rest) = some (held.reverse ++ s, rest) := by
  induction body generalizing held with
  | nil run => simpa using closes.three ends held
  | char other step later ih =>
    rw [List.append_assoc, step, ih]
    simp
  | quote few later ih =>
    -- A quote is the first of the closing ones only if the text ends behind it or its successor.
    cases later with
    | nil => simpa using closes.four ends held
    | char other step later =>
      rw [List.cons_append, closes.quote, ih]
      · simp
      · intro behind same
        rw [List.cons_append, List.cons_append] at same
        exact other (List.cons.inj same).1
    | quote fewer last =>
      cases last with
      | nil => simpa using closes.five held rest
      | quote fewest => omega
      | char other step later =>
        rw [List.cons_append, closes.quote, ih]
        · simp
        · intro behind same
          rw [List.cons_append, List.cons_append, List.cons_append] at same
          exact other (List.cons.inj (List.cons.inj same).2).1

theorem unescapes_readLongBasic : Unescapes true (readLongBasic false) where
  short := by
    intro c e short held rest
    obtain ⟨unit, wide⟩ := ne_scalarMark_of_shortEscape? short
    rw [readLongBasic]
    · simp [short]
    · intro _ _ _ _ _ same
      exact absurd same unit
    · intro _ _ _ _ _ _ _ _ _ same
      exact absurd same wide
  unit := by
    intro a b c d e scalar held rest
    rw [readLongBasic]
    simp [scalar]
  plain := by
    intro c quote escape plain held rest
    have feed : c ≠ '\n' := by
      rintro rfl
      cases plain
    have carriage : c ≠ '\r' := by
      rintro rfl
      cases plain
    rw [readLongBasic]
    · simp [plain, escape]
    all_goals simp_all
  feed := by
    intro _ held rest
    rw [readLongBasic]
    rfl

theorem closes_readLongBasic : Closes '"' (readLongBasic false) where
  quote := by
    intro rest free held
    rw [readLongBasic]
    · rfl
    all_goals simp_all
  three := by
    intro rest ends held
    rw [readLongBasic]
    all_goals
      intro behind same
      simp_all
  four := by
    intro rest ends held
    rw [readLongBasic]
    intro behind same
    simp_all
  five := by
    intro held rest
    rw [readLongBasic]

theorem escapeChar_eq_cons {c : Char} (other : c ≠ '"') (long : Bool) :
    ∃ first chunk, escapeChar long c = first :: chunk ∧ first ≠ '"' := by
  unfold escapeChar
  repeat' split
  all_goals first | exact ⟨_, _, rfl, by decide⟩ | exact ⟨c, [], rfl, other⟩

theorem body_escapeText (s : List Char) (run : Nat) :
    Body '"' (readLongBasic false) run (escapeText true 2 run s) s := by
  induction s generalizing run with
  | nil => exact .nil run
  | cons c s ih =>
    rw [escapeText]
    split
    · subst c
      split
      · rename_i few
        exact .quote few (ih (run + 1))
      · change Body _ _ run ('\\' :: ['"'] ++ escapeText true 2 0 s) _
        exact .char (by decide) (unescapes_readLongBasic.short rfl) (ih 0)
    · rename_i other
      obtain ⟨first, chunk, escaped, different⟩ := escapeChar_eq_cons other true
      have step := unescapes_readLongBasic.escapeChar other
      rw [escaped] at step ⊢
      exact .char different step (ih 0)

theorem closes_readLongLiteral : Closes '\'' readLongLiteral where
  quote := by
    intro rest free held
    rw [readLongLiteral]
    · rfl
    all_goals simp_all
  three := by
    intro rest ends held
    rw [readLongLiteral]
    all_goals
      intro behind same
      simp_all
  four := by
    intro rest ends held
    rw [readLongLiteral]
    intro behind same
    simp_all
  five := by
    intro held rest
    rw [readLongLiteral]

theorem isPlain_of_not_needsEscape {c : Char} (plain : needsEscape c = false) (feed : c ≠ '\n') :
    isPlain c = true := by
  by_cases tab : c = '\t'
  · subst tab
    rfl
  · simp [needsEscape, feed, tab] at plain
    simp [isPlain, plain]

theorem readLongLiteral_char {c : Char} (other : c ≠ '\'') (plain : needsEscape c = false)
    (held rest : List Char) :
    readLongLiteral held (c :: rest) = readLongLiteral (c :: held) rest := by
  by_cases feed : c = '\n'
  · subst feed
    rw [readLongLiteral]
  · have carriage : c ≠ '\r' := by
      rintro rfl
      cases plain
    rw [readLongLiteral]
    · simp [isPlain_of_not_needsEscape plain feed]
    all_goals simp_all

theorem le_longestRun (mark : Char) (run : Nat) (s : List Char) : run ≤ longestRun mark run s := by
  induction s generalizing run with
  | nil => exact Nat.le_refl run
  | cons c s ih =>
    rw [longestRun]
    split
    · exact Nat.le_of_succ_le (ih (run + 1))
    · exact Nat.le_max_left _ _

theorem body_literal {s : List Char} (plain : ∀ c ∈ s, needsEscape c = false) {run : Nat}
    (few : longestRun '\'' run s ≤ 2) : Body '\'' readLongLiteral run s s := by
  induction s generalizing run with
  | nil => exact .nil run
  | cons c s ih =>
    obtain ⟨first, later⟩ := List.forall_mem_cons.mp plain
    rw [longestRun] at few
    split at few
    · subst c
      have more := le_longestRun '\'' (run + 1) s
      exact .quote (by omega) (ih later few)
    · rename_i other
      have rest := ih later (Nat.le_trans (Nat.le_max_right _ _) few)
      change Body _ _ run (c :: [] ++ s) _
      exact .char other (readLongLiteral_char other first) rest

theorem readLiteral_literal {s : List Char} (plain : ∀ c ∈ s, needsEscape c = false)
    (quote : '\'' ∉ s) (feed : '\n' ∉ s) (rest : List Char) :
    readLiteral (s ++ '\'' :: rest) = some (s, rest) := by
  have all : ∀ c ∈ s, (c != '\'' && isPlain c) = true := by
    intro c member
    have other : c ≠ '\'' := by
      rintro rfl
      exact quote member
    have line : c ≠ '\n' := by
      rintro rfl
      exact feed member
    simp [other, isPlain_of_not_needsEscape (plain c member) line]
  rw [readLiteral, List.takeWhile_append_of_pos all, List.dropWhile_append_of_pos all]
  simp

theorem quotingOf_literal {s : List Char} (form : quotingOf s = .literal) :
    (∀ c ∈ s, needsEscape c = false) ∧ '\'' ∉ s ∧ '\n' ∉ s := by
  unfold quotingOf at form
  dsimp only at form
  split at form
  · split at form <;> cases form
  rename_i plain
  split at form
  · cases form
  split at form
  · rename_i fits
    simp only [List.any_eq_true, not_exists, not_and, Bool.not_eq_true] at plain
    simp at fits
    exact ⟨plain, fits.1, fits.2⟩
  · repeat' split at form
    all_goals cases form

theorem quotingOf_longLiteral {s : List Char} (form : quotingOf s = .longLiteral) :
    (∀ c ∈ s, needsEscape c = false) ∧ longestRun '\'' 0 s ≤ 2 := by
  unfold quotingOf at form
  dsimp only at form
  split at form
  · split at form <;> cases form
  rename_i plain
  split at form
  · cases form
  split at form
  · cases form
  split at form
  · cases form
  split at form
  · rename_i fits
    simp only [List.any_eq_true, not_exists, not_and, Bool.not_eq_true] at plain
    exact ⟨plain, fits⟩
  · split at form <;> cases form

theorem dropNewline_openingLine {s text : List Char}
    (start : '\n' ∉ s → text.head? ≠ some '\n' ∧ text.head? ≠ some '\r') :
    dropNewline (openingLine s ++ text) = text := by
  rw [openingLine]
  split
  · rfl
  · rename_i lines
    obtain ⟨feed, carriage⟩ := start (by simpa using lines)
    rw [List.nil_append, dropNewline, newline?.eq_def]
    split <;> simp_all

theorem head?_escapeText {s : List Char} (free : '\n' ∉ s) (rest : List Char) :
    (escapeText true 2 0 s ++ '"' :: rest).head? ≠ some '\n' ∧
      (escapeText true 2 0 s ++ '"' :: rest).head? ≠ some '\r' := by
  cases s with
  | nil => exact ⟨by simp [escapeText], by simp [escapeText]⟩
  | cons c s =>
    have feed : c ≠ '\n' := by
      rintro rfl
      exact free List.mem_cons_self
    rw [escapeText]
    split
    · simp
    · unfold escapeChar
      repeat' split
      all_goals simp_all

theorem escapeText_basic_start (s rest : List Char) (ends : rest.head? ≠ some '"') :
    ∀ behind, escapeText false 0 0 s ++ '"' :: rest ≠ '"' :: '"' :: behind := by
  intro behind same
  cases s with
  | nil =>
    cases same
    exact ends rfl
  | cons c s =>
    rw [escapeText] at same
    split at same
    · cases same
    · rename_i other
      obtain ⟨first, chunk, escaped, different⟩ := escapeChar_eq_cons other false
      rw [escaped] at same
      exact different (List.cons.inj same).1

theorem literal_start {s : List Char} (quote : '\'' ∉ s) {rest : List Char}
    (ends : rest.head? ≠ some '\'') :
    ∀ behind, s ++ '\'' :: rest ≠ '\'' :: '\'' :: behind := by
  intro behind same
  cases s with
  | nil =>
    cases same
    exact ends rfl
  | cons c s =>
    have first : c = '\'' := (List.cons.inj same).1
    rw [first] at quote
    exact quote List.mem_cons_self

theorem head?_literal {s : List Char} (plain : ∀ c ∈ s, needsEscape c = false) (free : '\n' ∉ s)
    (rest : List Char) :
    (s ++ '\'' :: rest).head? ≠ some '\n' ∧ (s ++ '\'' :: rest).head? ≠ some '\r' := by
  cases s with
  | nil => exact ⟨by simp, by simp⟩
  | cons c s =>
    have feed : c ≠ '\n' := by
      rintro rfl
      exact free List.mem_cons_self
    have carriage : c ≠ '\r' := by
      rintro rfl
      exact absurd (plain _ List.mem_cons_self) (by decide)
    exact ⟨by simpa using feed, by simpa using carriage⟩

theorem readString_writeString (s : List Char) {rest : List Char} (ends : EndsQuotes rest) :
    readString (writeString s ++ rest) = some (s, rest) := by
  have noDouble : rest.head? ≠ some '"' := fun same => (ends '"' same).1 rfl
  have noSingle : rest.head? ≠ some '\'' := fun same => (ends '\'' same).2 rfl
  unfold writeString
  split
  · have body := readBasic_escapeText s [] rest
    rw [List.append_assoc, List.cons_append, List.cons_append, List.nil_append, readString]
    · exact body
    · exact escapeText_basic_start s rest noDouble
  · rename_i form
    obtain ⟨plain, quote, feed⟩ := quotingOf_literal form
    have body := readLiteral_literal plain quote feed rest
    rw [List.append_assoc, List.cons_append, List.cons_append, List.nil_append, readString]
    · exact body
    · exact literal_start quote noSingle
  · have body := (body_escapeText s 0).read_eq closes_readLongBasic noDouble []
    have opened := dropNewline_openingLine fun free : '\n' ∉ s =>
      head?_escapeText free ('"' :: '"' :: rest)
    simp only [List.cons_append, List.nil_append, List.append_assoc, readString, opened, body]
    simp
  · rename_i form
    obtain ⟨plain, few⟩ := quotingOf_longLiteral form
    have body := (body_literal plain few).read_eq closes_readLongLiteral noSingle []
    have opened := dropNewline_openingLine fun free : '\n' ∉ s =>
      head?_literal plain free ('\'' :: '\'' :: rest)
    simp only [List.cons_append, List.nil_append, List.append_assoc, readString, opened, body]
    simp

theorem writeString_start (s : List Char) :
    ∃ quote text, writeString s = quote :: text ∧ (quote = '"' ∨ quote = '\'') := by
  unfold writeString
  split
  · exact ⟨'"', _, rfl, .inl rfl⟩
  · exact ⟨'\'', _, rfl, .inr rfl⟩
  · exact ⟨'"', _, rfl, .inl rfl⟩
  · exact ⟨'\'', _, rfl, .inr rfl⟩

end Outline.Toml
