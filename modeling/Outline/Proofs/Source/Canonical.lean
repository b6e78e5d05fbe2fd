import Outline.Proofs.Source.Grammar
import Outline.Proofs.Source.Parts
import Outline.Proofs.Text.Search

namespace Outline.Source

open Outline.Text

def joined (entries : List (List Char)) : List Char := [',', ' '].intercalate entries

theorem commaList_space (s : List Char) : commaList (' ' :: s) = commaList s := by
  obtain ⟨first, others, pieces⟩ := List.exists_cons_of_ne_nil (List.splitOnP_ne_nil (· == ',') s)
  have spaced : trim (' ' :: first) = trim first :=
    trim_append_left (by decide : allBlank [' '] = true) first
  rw [commaList, commaList, List.splitOn_eq_splitOnP, List.splitOn_eq_splitOnP,
    List.splitOnP_cons_eq_if_modifyHead, if_neg (by decide), pieces, List.modifyHead_cons,
    List.map_cons, List.map_cons, spaced]

theorem commaList_cons {entry : List Char} (filled : entry ≠ []) (trimmed : IsTrimmed entry)
    (whole : ',' ∉ entry) (s : List Char) :
    commaList (entry ++ ',' :: s) = entry :: commaList s := by
  rw [commaList, splitOn_append_cons whole, List.map_cons, trimmed.trim_eq, List.filter_cons_of_pos]
  · rfl
  · simpa using filled

theorem commaList_joined {entries : List (List Char)}
    (each : ∀ e ∈ entries, e ≠ [] ∧ IsTrimmed e ∧ ',' ∉ e) : commaList (joined entries) = entries := by
  induction entries with
  | nil => rfl
  | cons entry entries ih =>
    obtain ⟨⟨filled, trimmed, whole⟩, later⟩ := List.forall_mem_cons.mp each
    by_cases last : entries = []
    · subst last
      rw [joined, List.intercalate_singleton, commaList, List.splitOn_eq_singleton whole]
      simp [trimmed.trim_eq, filled]
    · rw [joined, List.intercalate_cons_of_ne_nil last, List.append_assoc]
      change commaList (entry ++ ',' :: ' ' :: joined entries) = _
      rw [commaList_cons filled trimmed whole, commaList_space, ih later]

theorem commaList_parts {s entry : List Char} (member : entry ∈ commaList s) :
    ∃ before pad behind, s = before ++ (entry ++ (pad ++ behind)) ∧ allBlank pad = true ∧
      (behind = [] ∨ [','] <+: behind) := by
  obtain ⟨piece, listed, rfl⟩ := List.mem_map.mp (List.mem_filter.mp member).1
  obtain ⟨before, behind, whole, ends⟩ := intercalate_parts [','] listed
  rw [List.intercalate_splitOn] at whole
  obtain ⟨front, pad, -, blank, same⟩ := trim_parts piece
  refine ⟨before ++ front, pad, behind, ?_, blank, ends⟩
  nth_rewrite 1 [whole, same]
  simp only [List.append_assoc]

theorem paren_in_joined {entries : List (List Char)} {other behind : List Char}
    (split : joined entries = other ++ ')' :: behind) :
    ∃ e ∈ entries, ∃ front rest, e = front ++ ')' :: rest ∧
      (behind = rest ∨ ∃ more, behind = rest ++ ',' :: more) := by
  induction entries generalizing other with
  | nil => simp [joined] at split
  | cons entry entries ih =>
    by_cases last : entries = []
    · subst last
      rw [joined, List.intercalate_singleton] at split
      exact ⟨entry, by simp, other, behind, split, .inl rfl⟩
    · rw [joined, List.intercalate_cons_of_ne_nil last, List.append_assoc] at split
      rcases List.append_eq_append_iff.mp split with ⟨inside, rfl, tail⟩ | ⟨inside, rfl, tail⟩
      · rcases inside with _ | ⟨c, _ | ⟨d, inside⟩⟩
        · simp at tail
        · simp at tail
        · obtain ⟨-, -, later⟩ : ',' = c ∧ ' ' = d ∧ joined entries = inside ++ ')' :: behind := by
            simpa [joined] using tail
          obtain ⟨e, member, parts⟩ := ih later
          exact ⟨e, by simp [member], parts⟩
      · rcases inside with _ | ⟨c, inside⟩
        · simp at tail
        · obtain ⟨rfl, rfl⟩ := List.cons_eq_cons.mp tail
          exact ⟨_, by simp, other, inside, rfl, .inr ⟨_, rfl⟩⟩

/-- An acceptable rest holds a colon, and what lies behind a comma or parenthesis in it may be
replaced by anything else with a colon. -/
structure LooksAhead {α : Type} (accept : List Char → Option α) : Prop where
  colon : ∀ s, (accept s).isSome = true → ':' ∈ s
  replace : ∀ rest mark more other, mark = ',' ∨ mark = ')' →
    (accept (rest ++ mark :: more)).isSome = true → other.head? ≠ some ':' → ':' ∈ other →
    (accept (rest ++ other)).isSome = true

theorem space_inside {space rest tail more : List Char} {mark c : Char}
    (solid : isBlank mark = false) (blank : allBlank space = true) (different : c ≠ mark)
    (same : rest ++ mark :: more = space ++ c :: tail) : ∃ inner, rest = space ++ c :: inner := by
  rcases List.append_eq_append_iff.mp same with ⟨inside, rfl, behind⟩ | ⟨inside, rfl, behind⟩
  · exfalso
    cases inside with
    | nil => exact different (List.cons_eq_cons.mp behind).1.symm
    | cons d inside =>
      obtain ⟨rfl, -⟩ := List.cons_eq_cons.mp behind
      have white := isBlank_of_mem blank (by simp : mark ∈ rest ++ mark :: inside)
      rw [solid] at white
      cases white
  · cases inside with
    | nil => exact absurd (List.cons_eq_cons.mp behind).1 different
    | cons d inside =>
      obtain ⟨rfl, -⟩ := List.cons_eq_cons.mp behind
      exact ⟨inside, rfl⟩

theorem colon?_looksAhead : LooksAhead colon? where
  colon := by
    intro s accepted
    obtain ⟨rest, -⟩ := colon?_isSome_iff.mp accepted
    simp
  replace := by
    intro rest mark more other stop accepted _ _
    rw [colon?_isSome_iff] at accepted ⊢
    generalize same : rest ++ mark :: more = s at accepted
    obtain ⟨tail, blank⟩ := accepted
    have solid : isBlank mark = false ∧ ':' ≠ mark := by rcases stop with rfl | rfl <;> decide
    obtain ⟨inner, rfl⟩ := space_inside solid.1 blank solid.2 same
    rw [List.append_assoc]
    exact .intro _ blank

theorem returns?_arrow_isSome {space s : List Char} (blank : allBlank space = true)
    (colon : ':' ∈ s) (start : s.head? ≠ some ':') :
    (returns? (space ++ '-' :: '>' :: s)).isSome = true := by
  obtain ⟨type, tail, rfl, free⟩ := List.eq_append_cons_of_mem colon
  have filled : type ≠ [] := by
    rintro rfl
    exact start rfl
  exact (IsReturns.arrow tail blank filled free).isSome

theorem returns?_looksAhead : LooksAhead returns? where
  colon := by
    intro s accepted
    obtain ⟨returns, found⟩ := Option.isSome_iff_exists.mp accepted
    cases returns?_eq_some_iff.mp found <;> simp
  replace := by
    intro rest mark more other stop accepted start colon
    have solid : isBlank mark = false ∧ ':' ≠ mark ∧ '-' ≠ mark ∧ '>' ≠ mark := by
      rcases stop with rfl | rfl <;> decide
    obtain ⟨returns, found⟩ := Option.isSome_iff_exists.mp accepted
    have ends := returns?_eq_some_iff.mp found
    generalize same : rest ++ mark :: more = s at ends
    cases ends with
    | colon tail blank =>
      obtain ⟨inner, rfl⟩ := space_inside solid.1 blank solid.2.1 same
      rw [List.append_assoc]
      exact (IsReturns.colon _ blank).isSome
    | @arrow space type tail blank filled free =>
      obtain ⟨inner, rfl⟩ := space_inside solid.1 blank solid.2.2.1 same
      have behind : inner ++ mark :: more = [] ++ '>' :: (type ++ ':' :: tail) := by
        simpa using same
      obtain ⟨inner, rfl⟩ := space_inside solid.1 rfl solid.2.2.2 behind
      have annotated : inner ++ mark :: more = type ++ ':' :: tail := by simpa using behind
      rw [List.append_assoc, List.cons_append, List.nil_append, List.cons_append]
      apply returns?_arrow_isSome blank
      · simp [colon]
      · cases inner with
        | nil => exact start
        | cons c inner =>
          obtain ⟨d, type, rfl⟩ := List.exists_cons_of_ne_nil filled
          obtain ⟨rfl, -⟩ := List.cons_eq_cons.mp annotated
          intro first
          cases first
          exact free (by simp)

section Paren

variable {α : Type} {accept : List Char → Option α}

theorem upToParen_flat {s inner : List Char} {a : α} (found : upToParen accept s = some (inner, a)) :
    '\n' ∉ inner := by
  induction s generalizing inner with
  | nil => cases found
  | cons c s ih =>
    rw [upToParen] at found
    split at found
    · cases found
      simp
    · split at found
      · cases found
      · rename_i noFeed
        obtain ⟨⟨front, b⟩, later, same⟩ := Option.map_eq_some_iff.mp found
        cases same
        simp [Ne.symm noFeed, ih later]

theorem upToParen_of_first {inner rest : List Char} {a : α} (flat : '\n' ∉ inner)
    (accepted : accept rest = some a)
    (first : ∀ other behind, inner = other ++ ')' :: behind →
      accept (behind ++ ')' :: rest) = none) :
    upToParen accept (inner ++ ')' :: rest) = some (inner, a) := by
  induction inner with
  | nil => simp [upToParen, accepted]
  | cons c inner ih =>
    obtain ⟨noFeed, flat⟩ := List.ne_and_not_mem_of_not_mem_cons flat
    have here : (if c = ')' then accept (inner ++ ')' :: rest) else none) = none := by
      split
      · rename_i paren
        exact first [] inner (by rw [paren]; rfl)
      · rfl
    have later := ih flat fun other behind split => first (c :: other) behind (by rw [split]; rfl)
    rw [List.cons_append, upToParen, here]
    dsimp only
    rw [if_neg (Ne.symm noFeed), later, Option.map_some]

theorem of_mem_joined {entries : List (List Char)} {c : Char} (member : c ∈ joined entries) :
    c = ',' ∨ c = ' ' ∨ ∃ e ∈ entries, c ∈ e := by
  induction entries with
  | nil => simp [joined] at member
  | cons entry entries ih =>
    by_cases last : entries = []
    · subst last
      exact .inr (.inr ⟨entry, by simp, by simpa [joined] using member⟩)
    · rw [joined, List.intercalate_cons_of_ne_nil last, List.append_assoc] at member
      rcases List.mem_append.mp member with here | later
      · exact .inr (.inr ⟨entry, by simp, here⟩)
      · rcases List.mem_append.mp later with mark | later
        · rcases List.mem_pair.mp mark with comma | space
          · exact .inl comma
          · exact .inr (.inl space)
        · rcases ih later with comma | space | ⟨e, listed, inside⟩
          · exact .inl comma
          · exact .inr (.inl space)
          · exact .inr (.inr ⟨e, by simp [listed], inside⟩)

theorem upToParen_joined (ahead : LooksAhead accept) {s params rest : List Char} {a b : α}
    (found : upToParen accept s = some (params, a)) (closed : accept rest = some b) :
    upToParen accept (joined (commaList params) ++ ')' :: rest) =
      some (joined (commaList params), b) := by
  obtain ⟨tail, rfl, accepted, shortest⟩ := upToParen_eq_some found
  apply upToParen_of_first _ closed
  · intro other behind split
    obtain ⟨e, listed, front, inner, rfl, follows⟩ := paren_in_joined split
    obtain ⟨before, pad, next, same, blank, ends⟩ := commaList_parts listed
    -- The parenthesis is one of the source, with another text behind the entry.
    have source : params ++ ')' :: tail =
        (before ++ front) ++ ')' :: (inner ++ (pad ++ (next ++ ')' :: tail))) := by
      rw [same]
      simp only [List.append_assoc, List.cons_append]
    have start : (pad ++ (next ++ ')' :: tail)).head? ≠ some ':' := by
      intro first
      cases pad with
      | cons c pad =>
        cases first
        exact absurd (isBlank_of_mem blank (by simp)) (by decide : ¬ isBlank ':' = true)
      | nil =>
        rcases ends with rfl | ⟨rest, rfl⟩
        · cases first
        · cases first
    have colon : ':' ∈ pad ++ (next ++ ')' :: tail) := by
      have inTail := ahead.colon tail (by rw [accepted]; rfl)
      simp [inTail]
    cases taken : accept (behind ++ ')' :: rest) with
    | none => rfl
    | some c =>
      exfalso
      have acceptable : (accept (inner ++ (pad ++ (next ++ ')' :: tail)))).isSome = true := by
        rcases follows with same | ⟨more, same⟩
        · rw [same] at taken
          exact ahead.replace inner ')' rest _ (.inr rfl) (by rw [taken]; rfl) start colon
        · rw [same, List.append_assoc, List.cons_append] at taken
          exact ahead.replace inner ',' _ _ (.inl rfl) (by rw [taken]; rfl) start colon
      have short := (shortest _ _ source acceptable).length_le
      have long := congrArg List.length same
      simp only [List.length_append, List.length_cons] at short long
      omega
  · intro member
    rcases of_mem_joined member with comma | space | ⟨e, listed, inside⟩
    · cases comma
    · cases space
    · obtain ⟨before, pad, next, same, -⟩ := commaList_parts listed
      apply upToParen_flat found
      rw [same]
      simp [inside]

end Paren

theorem commaList_joined_commaList (s : List Char) :
    commaList (joined (commaList s)) = commaList s :=
  commaList_joined fun _ => of_mem_commaList

theorem FunctionHeader.parse?_signature {line : Line} {header : FunctionHeader}
    (parsed : parse? line = some header) :
    parse? (['d', 'e', 'f', ' '] ++ signature header.name (commaList header.params) ++ [':']) =
      some ⟨[], false, header.name, joined (commaList header.params), none⟩ := by
  obtain ⟨front, inner, ⟨-, -, declares⟩, -, closed⟩ := parse?_eq_some parsed
  obtain ⟨-, named, -⟩ := declares
  have written : Declares ['d', 'e', 'f'] header.name
      (['d', 'e', 'f'] ++ [' '] ++ header.name ++ []) := .intro rfl named rfl
  have opens : Opens ⟨[], false, header.name, [], none⟩
      ([] ++ [] ++ (['d', 'e', 'f'] ++ [' '] ++ header.name ++ [])) := .intro rfl .absent written
  have ends := upToParen_joined returns?_looksAhead closed (rfl : returns? [':'] = some none)
  have read := parse?_of_opens opens (joined (commaList header.params) ++ [')', ':'])
  rw [ends] at read
  simpa [signature, joined] using read

def classLine (name : List Char) (bases : List (List Char)) : Line :=
  ['c', 'l', 'a', 's', 's', ' '] ++ name ++
    (if bases = [] then [] else '(' :: (joined bases ++ [')'])) ++ [':']

theorem ClassHeader.parse?_eq_some {line : Line} {header : ClassHeader}
    (parsed : parse? line = some header) (based : header.bases ≠ []) :
    ∃ inner, upToParen colon? inner = some (header.bases, ()) := by
  cases spells_of_parse? parsed with
  | bare rest declares none => exact absurd none based
  | based declares ends =>
    rw [parse?_based declares] at parsed
    obtain ⟨parts, closed, same⟩ := Option.map_eq_some_iff.mp parsed
    have bases : parts.1 = header.bases := congrArg ClassHeader.bases same
    exact ⟨_, by rw [closed, ← bases]⟩

theorem ClassHeader.parse?_classLine {line : Line} {header : ClassHeader}
    (parsed : parse? line = some header) :
    parse? (classLine header.name (commaList header.bases)) =
      some ⟨header.name, joined (commaList header.bases)⟩ := by
  have named : isName header.name = true := by
    rcases spells_of_parse? parsed with ⟨-, ⟨-, named, -⟩, -⟩ | ⟨⟨-, named, -⟩, -⟩
    · exact named
    · exact named
  have written : Declares ['c', 'l', 'a', 's', 's'] header.name
      (['c', 'l', 'a', 's', 's'] ++ [' '] ++ header.name ++ []) := .intro rfl named rfl
  by_cases none : commaList header.bases = []
  · have read := parse?_bare written []
    simpa [classLine, none, joined] using read
  · obtain ⟨inner, closed⟩ := parse?_eq_some parsed fun empty => none (by rw [empty]; rfl)
    have ends := upToParen_joined colon?_looksAhead closed (rfl : colon? [':'] = some ())
    have read := parse?_based written (joined (commaList header.bases) ++ [')', ':'])
    rw [ends] at read
    simpa [classLine, none] using read

end Outline.Source
