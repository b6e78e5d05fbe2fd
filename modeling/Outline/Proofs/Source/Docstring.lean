import Outline.Proofs.Text.Search
import Outline.Source.Docstring

namespace Outline.Source

open Outline.Text

def openedText? (lines : List Line) (idx : Nat) : Option (List Char × List Char) := do
  let line ← lines[idx]?
  let quotes ← docDelimiters.find? (·.isPrefixOf (trim line))
  let rest := (trim line).drop quotes.length
  return (quotes, rest ++ '\n' :: ['\n'].intercalate (lines.drop (idx + 1)))

/-- The text between the opening quotes of the line `idx` and the next ones of their kind. -/
def quotedText? (lines : List Line) (idx : Nat) : Option (List Char) :=
  (openedText? lines idx).bind fun (quotes, text) => textBefore? quotes text

/-- The trimmed lines of a text, without the empty ones and a space apart. -/
def flattened (text : List Char) : List Char :=
  [' '].intercalate (((text.splitOn '\n').map trim).filter (· ≠ []))

theorem docDelimiters_solid {quotes : List Char} (member : quotes ∈ docDelimiters) :
    quotes ≠ [] ∧ ∀ c ∈ quotes, isBlank c = false := by
  have solid : docDelimiters.all (·.all (!isBlank ·)) = true := rfl
  have filled : [] ∉ docDelimiters := by simp [docDelimiters]
  refine ⟨ne_of_mem_of_not_mem member filled, ?_⟩
  intro c inside
  simpa using List.all_eq_true.mp (List.all_eq_true.mp solid quotes member) c inside

theorem docstring?_opens {lines : List Line} {idx : Nat} {d : List Char}
    (found : docstring? lines idx = some d) :
    ∃ line, lines[idx]? = some line ∧ ∃ quotes ∈ docDelimiters, quotes <+: trim line := by
  unfold docstring? at found
  rw [← List.head?_drop]
  cases rest : lines.drop idx with
  | nil =>
    rw [rest] at found
    cases found
  | cons line later =>
    refine ⟨line, rfl, ?_⟩
    cases starts : docDelimiters.find? (·.isPrefixOf (trim line)) with
    | none => simp [rest, starts] at found
    | some quotes =>
      have leads := List.find?_some starts
      exact ⟨quotes, List.mem_of_find?_eq_some starts, List.isPrefixOf_iff_prefix.mp leads⟩

theorem not_allBlank_of_opens {line : Line} {quotes : List Char} (listed : quotes ∈ docDelimiters)
    (leads : quotes <+: trim line) : allBlank line = false := by
  obtain ⟨filled, solid⟩ := docDelimiters_solid listed
  obtain ⟨c, rest, rfl⟩ := List.exists_cons_of_ne_nil filled
  have inside : c ∈ trim line := leads.subset (by simp)
  exact allBlank_eq_false_of_mem (mem_of_mem_trim inside) (solid c (by simp))

section Quotes

variable {quotes : List Char} (filled : quotes ≠ []) (solid : ∀ c ∈ quotes, isBlank c = false)

include solid in
theorem no_blank {c : Char} (white : isBlank c = true) : c ∉ quotes := by
  intro member
  rw [solid c member] at white
  cases white

theorem no_feed_of_textBefore? {line front : Line} (flat : '\n' ∉ line)
    (found : textBefore? quotes line = some front) : '\n' ∉ front := by
  intro member
  apply flat
  exact (textBefore?_spec found).subset (List.mem_append_left quotes member)

include filled solid

theorem docFragments_cons (line : Line) (later : List Line) :
    docFragments quotes (line :: later) =
      ((textBefore? quotes line).map fun front => [trim front]).or
        ((docFragments quotes later).map (trim line :: ·)) := by
  have cut : (cut? quotes (trim line)).map (fun parts => trim parts.1) =
      (textBefore? quotes line).map trim := by
    rw [← textBefore?_trim filled solid, ← cut?_front filled, Option.map_map]
    rfl
  rw [docFragments]
  cases found : textBefore? quotes line with
  | none =>
    rw [found, Option.map_none, Option.map_eq_none_iff] at cut
    rw [cut]
    rfl
  | some front =>
    rw [found, Option.map_some] at cut
    obtain ⟨⟨before, behind⟩, closed, same⟩ := Option.map_eq_some_iff.mp cut
    rw [closed]
    simp [← same]

theorem docFragments_eq {lines : List Line} (flat : ∀ line ∈ lines, '\n' ∉ line) :
    docFragments quotes lines =
      (textBefore? quotes (['\n'].intercalate lines)).map fun front =>
        (front.splitOn '\n').map trim := by
  have free : '\n' ∉ quotes := no_blank solid (by decide)
  -- A fragment ends at the quotes or at its line feed, whichever comes first.
  induction lines with
  | nil => simp [docFragments, textBefore?_nil filled]
  | cons line later ih =>
    obtain ⟨here, behind⟩ := List.forall_mem_cons.mp flat
    have single : (textBefore? quotes line).map (fun front => [trim front]) =
        (textBefore? quotes line).map fun front => (front.splitOn '\n').map trim := by
      apply Option.map_congr
      intro front found
      rw [List.splitOn_eq_singleton (no_feed_of_textBefore? here found)]
      rfl
    rw [docFragments_cons filled solid, single]
    by_cases last : later = []
    · subst last
      rw [List.intercalate_singleton]
      simp [docFragments]
    · have pieces : (fun front => (front.splitOn '\n').map trim) ∘ (line ++ '\n' :: ·) =
          (trim line :: ·) ∘ fun front => (front.splitOn '\n').map trim := by
        funext front
        simp [splitOn_append_cons here]
      rw [List.intercalate_cons_of_ne_nil last, List.append_assoc, List.singleton_append,
        textBefore?_line filled free, ih behind, Option.map_or, Option.map_map, Option.map_map,
        pieces]

theorem closing_eq {rest : List Char} {later : List Line} (here : '\n' ∉ rest)
    (flat : ∀ line ∈ later, '\n' ∉ line) :
    (match cut? quotes rest with
      | some (inner, _) => nonEmpty? (trim inner)
      | none =>
        match docFragments quotes later with
        | none => none
        | some fragments => nonEmpty? (joinFragments (trim rest :: fragments))) =
      (textBefore? quotes (rest ++ '\n' :: ['\n'].intercalate later)).bind fun text =>
        nonEmpty? (flattened text) := by
  have free : '\n' ∉ quotes := no_blank solid (by decide)
  have cut := cut?_front filled rest
  rw [textBefore?_line filled free, docFragments_eq filled solid flat]
  cases found : textBefore? quotes rest with
  | some front =>
    rw [found] at cut
    obtain ⟨⟨inner, behind⟩, closed, rfl⟩ := Option.map_eq_some_iff.mp cut
    have single := List.splitOn_eq_singleton (no_feed_of_textBefore? here found)
    rw [closed, Option.some_or, Option.bind_some, flattened, single]
    by_cases empty : trim inner = [] <;> simp [empty]
  | none =>
    rw [found, Option.map_eq_none_iff] at cut
    rw [cut, Option.none_or]
    cases textBefore? quotes (['\n'].intercalate later) with
    | none => rfl
    | some front =>
      have pieces := splitOn_append_cons here front
      simp only [Option.map_some, Option.bind_some, flattened, joinFragments, pieces, List.map_cons]

theorem not_infix_flattened {text front : List Char} (found : textBefore? quotes text = some front) :
    ¬ quotes <:+: flattened front := by
  intro inside
  obtain ⟨piece, member, among⟩ :=
    infix_of_infix_intercalate (no_blank solid (by decide)) filled inside
  obtain ⟨part, listed, rfl⟩ := List.mem_map.mp (List.mem_filter.mp member).1
  apply not_infix_of_textBefore? filled found
  have whole : part <:+: front := by
    have joined : ['\n'].intercalate (front.splitOn '\n') = front := List.intercalate_splitOn '\n'
    rw [← joined]
    exact infix_intercalate listed
  exact among.trans ((isInfix_trim part).trans whole)

end Quotes

section Lines

variable {lines : List Line} {idx : Nat}

theorem openedText?_eq_some {quotes text : List Char}
    (opened : openedText? lines idx = some (quotes, text)) :
    ∃ line, lines[idx]? = some line ∧
      docDelimiters.find? (·.isPrefixOf (trim line)) = some quotes ∧
      text = (trim line).drop quotes.length ++
        '\n' :: ['\n'].intercalate (lines.drop (idx + 1)) := by
  obtain ⟨line, here, opened⟩ := Option.bind_eq_some_iff.mp opened
  obtain ⟨found, starts, same⟩ := Option.bind_eq_some_iff.mp opened
  cases same
  exact ⟨line, here, starts, rfl⟩

theorem openedText?_solid {quotes text : List Char}
    (opened : openedText? lines idx = some (quotes, text)) :
    quotes ≠ [] ∧ ∀ c ∈ quotes, isBlank c = false := by
  obtain ⟨line, -, starts, -⟩ := openedText?_eq_some opened
  exact docDelimiters_solid (List.mem_of_find?_eq_some starts)

theorem docstring?_eq (flat : ∀ line ∈ lines, '\n' ∉ line) (idx : Nat) :
    docstring? lines idx = (quotedText? lines idx).bind fun text => nonEmpty? (flattened text) := by
  rw [docstring?, quotedText?, openedText?, ← List.tail_drop, ← List.head?_drop]
  have behind : ∀ line ∈ lines.drop idx, '\n' ∉ line :=
    fun line member => flat line (List.mem_of_mem_drop member)
  cases rest : lines.drop idx with
  | nil => rfl
  | cons line later =>
    rw [rest] at behind
    obtain ⟨here, after⟩ := List.forall_mem_cons.mp behind
    cases starts : docDelimiters.find? (·.isPrefixOf (trim line)) with
    | none => simp [starts]
    | some quotes =>
      obtain ⟨filled, solid⟩ := docDelimiters_solid (List.mem_of_find?_eq_some starts)
      have flatRest : '\n' ∉ (trim line).drop quotes.length :=
        fun member => here (mem_of_mem_trim (List.mem_of_mem_drop member))
      simp only [List.head?_cons, List.tail_cons, Option.bind_eq_bind, Option.bind_some, starts]
      exact closing_eq filled solid flatRest after

theorem quotedText?_append {text : List Char} (found : quotedText? lines idx = some text)
    (more : List Line) : quotedText? (lines ++ more) idx = some text := by
  obtain ⟨⟨quotes, behind⟩, opened, closed⟩ := Option.bind_eq_some_iff.mp found
  obtain ⟨line, here, starts, rfl⟩ := openedText?_eq_some opened
  have inside : idx < lines.length := (List.getElem?_eq_some_iff.mp here).1
  have later : (lines ++ more).drop (idx + 1) = lines.drop (idx + 1) ++ more :=
    List.drop_append_of_le_length (by omega)
  obtain ⟨tail, longer⟩ := intercalate_append_isPrefix ['\n'] (lines.drop (idx + 1)) more
  have extended := textBefore?_append closed tail
  rw [List.append_assoc, List.cons_append, longer] at extended
  rw [quotedText?, openedText?, List.getElem?_append_left inside, here, later]
  simpa [starts] using extended

/-- A documentation string is the text between its quotes, flattened. It never holds the quotes, and
lines behind the closing ones do not matter. -/
theorem docstring_is_quoted_text (flat : ∀ line ∈ lines, '\n' ∉ line) (idx : Nat) :
    docstring? lines idx =
      ((quotedText? lines idx).bind fun text => nonEmpty? (flattened text)) ∧
    (∀ quotes text d, openedText? lines idx = some (quotes, text) →
      docstring? lines idx = some d → ¬ quotes <:+: d) ∧
    ∀ more, (∀ line ∈ more, '\n' ∉ line) → (quotedText? lines idx).isSome = true →
      docstring? (lines ++ more) idx = docstring? lines idx := by
  refine ⟨docstring?_eq flat idx, ?_, ?_⟩
  · intro quotes text d opened found
    obtain ⟨filled, solid⟩ := openedText?_solid opened
    rw [docstring?_eq flat, quotedText?, opened, Option.bind_some] at found
    obtain ⟨inner, closed, kept⟩ := Option.bind_eq_some_iff.mp found
    unfold nonEmpty? at kept
    split at kept
    · cases kept
    · cases kept
      exact not_infix_flattened filled solid closed
  · intro more flatMore closed
    obtain ⟨text, found⟩ := Option.isSome_iff_exists.mp closed
    have flatAll : ∀ line ∈ lines ++ more, '\n' ∉ line := by
      intro line member
      rcases List.mem_append.mp member with here | there
      · exact flat line here
      · exact flatMore line there
    rw [docstring?_eq flatAll, docstring?_eq flat, quotedText?_append found more, found]

end Lines

def quotedLines : List Line :=
  ["def f():".toList, "  \"\"\" \"a ''' b".toList, [], "\tc\"\" d\"\"\"\" + \"\"\"".toList]

theorem docstring_is_quoted_text_over_lines :
    (∀ line ∈ quotedLines, '\n' ∉ line) ∧
    docstring? quotedLines 1 = some "\"a ''' b c\"\" d".toList ∧
    ¬ ['"', '"', '"'] <:+: "\"a ''' b c\"\" d".toList ∧
    docstring? (quotedLines ++ ["\"\"\"".toList]) 1 = docstring? quotedLines 1 := by
  have flat : ∀ line ∈ quotedLines, '\n' ∉ line := by decide
  obtain ⟨whole, free, ends⟩ := docstring_is_quoted_text flat 1
  have text : quotedText? quotedLines 1 = some " \"a ''' b\n\n\tc\"\" d".toList := by
    decide +kernel
  have found : docstring? quotedLines 1 = some "\"a ''' b c\"\" d".toList := by
    rw [whole, text]
    decide +kernel
  exact ⟨flat, found, free _ _ _ rfl found, ends _ (by decide) (by rw [text]; rfl)⟩

end Outline.Source
