import Mathlib.Data.List.Infix
import Mathlib.Data.List.Lemmas
import Outline.Proofs.Text.Padding
import Outline.Proofs.Text.Trim

namespace Outline.Text

def textBefore? (needle s : List Char) : Option (List Char) :=
  s.inits.find? fun front => (front ++ needle).isPrefixOf s

section Search

variable {needle s front : List Char}

theorem textBefore?_nil (filled : needle ≠ []) : textBefore? needle [] = none := by
  simp [textBefore?, filled]

theorem textBefore?_cons (needle : List Char) (c : Char) (s : List Char) :
    textBefore? needle (c :: s) =
      if needle <+: c :: s then some [] else (textBefore? needle s).map (c :: ·) := by
  have later : ((fun front => (front ++ needle).isPrefixOf (c :: s)) ∘ fun front => c :: front) =
      fun front => (front ++ needle).isPrefixOf s := by
    funext front
    simp
  rw [textBefore?, List.inits_cons, List.find?_cons, List.find?_map, later]
  by_cases here : needle <+: c :: s
  · have starts := List.isPrefixOf_iff_prefix.mpr here
    rw [if_pos here, List.nil_append, starts]
  · have differs : needle.isPrefixOf (c :: s) = false := by
      rw [← Bool.not_eq_true, List.isPrefixOf_iff_prefix]
      exact here
    rw [if_neg here, List.nil_append, differs]
    rfl

theorem cut?_front (filled : needle ≠ []) (s : List Char) :
    (cut? needle s).map (·.1) = textBefore? needle s := by
  induction s with
  | nil => simp [cut?, filled, textBefore?_nil]
  | cons c s ih =>
    rw [textBefore?_cons, ← ih, cut?]
    by_cases here : needle <+: c :: s
    · simp [after?, here]
    · simp [after?, here, Function.comp_def]

theorem textBefore?_spec (found : textBefore? needle s = some front) : front ++ needle <+: s := by
  have stands := List.find?_some found
  simpa using stands

theorem not_infix_of_textBefore? (filled : needle ≠ []) (found : textBefore? needle s = some front) :
    ¬ needle <:+: front := by
  induction s generalizing front with
  | nil =>
    rw [textBefore?_nil filled] at found
    cases found
  | cons c s ih =>
    rw [textBefore?_cons] at found
    split at found
    · cases found
      simpa using filled
    · rename_i absent
      obtain ⟨rest, later, rfl⟩ := Option.map_eq_some_iff.mp found
      rw [List.infix_cons_iff, not_or]
      refine ⟨?_, ih later⟩
      intro starts
      apply absent
      have inside : rest <+: s := (List.prefix_append rest needle).trans (textBefore?_spec later)
      exact starts.trans (List.cons_prefix_cons.mpr ⟨rfl, inside⟩)

theorem textBefore?_append (found : textBefore? needle s = some front) (more : List Char) :
    textBefore? needle (s ++ more) = some front := by
  induction s generalizing front with
  | nil =>
    obtain ⟨rfl, rfl⟩ : front = [] ∧ needle = [] := by simpa using textBefore?_spec found
    cases more <;> simp [textBefore?]
  | cons c s ih =>
    have room : needle.length ≤ (c :: s).length := by
      have fits := (textBefore?_spec found).length_le
      rw [List.length_append] at fits
      omega
    have same : needle <+: c :: (s ++ more) ↔ needle <+: c :: s := by
      constructor
      · intro starts
        exact List.prefix_of_prefix_length_le starts (List.prefix_append (c :: s) more) room
      · intro starts
        exact starts.trans (List.prefix_append (c :: s) more)
    rw [textBefore?_cons] at found
    rw [List.cons_append, textBefore?_cons]
    simp only [same]
    split at found
    · rename_i here
      rw [if_pos here]
      exact found
    · rename_i absent
      obtain ⟨rest, later, rfl⟩ := Option.map_eq_some_iff.mp found
      rw [if_neg absent, ih later, Option.map_some]

end Search

section Marks

variable {needle : List Char} {mark : Char}

theorem prefix_append_cons_iff (free : mark ∉ needle) (s rest : List Char) :
    needle <+: s ++ mark :: rest ↔ needle <+: s := by
  constructor
  · rintro ⟨tail, same⟩
    rcases List.append_eq_append_iff.mp same with ⟨between, rfl, -⟩ | ⟨beyond, rfl, behind⟩
    · exact List.prefix_append needle between
    · cases beyond with
      | nil => simp
      | cons c beyond =>
        obtain ⟨rfl, -⟩ := List.cons_eq_cons.mp behind
        simp at free
  · intro starts
    exact starts.trans (List.prefix_append s _)

theorem infix_append_cons (free : mark ∉ needle) {s rest : List Char}
    (inside : needle <:+: s ++ mark :: rest) : needle <:+: s ∨ needle <:+: rest := by
  induction s with
  | nil =>
    rcases List.infix_cons_iff.mp inside with starts | later
    · left
      exact ((prefix_append_cons_iff free [] rest).mp starts).isInfix
    · right
      exact later
  | cons c s ih =>
    rcases List.infix_cons_iff.mp inside with starts | later
    · left
      exact ((prefix_append_cons_iff free (c :: s) rest).mp starts).isInfix
    · rcases ih later with here | behind
      · left
        exact List.infix_cons here
      · right
        exact behind

theorem infix_of_infix_intercalate (free : mark ∉ needle) (filled : needle ≠ [])
    {pieces : List (List Char)} (inside : needle <:+: [mark].intercalate pieces) :
    ∃ piece ∈ pieces, needle <:+: piece := by
  induction pieces with
  | nil =>
    exfalso
    apply filled
    simpa using inside
  | cons piece pieces ih =>
    by_cases last : pieces = []
    · subst last
      exact ⟨piece, by simp, by simpa using inside⟩
    · rw [List.intercalate_cons_of_ne_nil last, List.append_assoc, List.singleton_append] at inside
      rcases infix_append_cons free inside with here | later
      · exact ⟨piece, by simp, here⟩
      · obtain ⟨other, member, among⟩ := ih later
        exact ⟨other, by simp [member], among⟩

theorem intercalate_parts (separator : List Char) {piece : List Char} {pieces : List (List Char)}
    (member : piece ∈ pieces) :
    ∃ before behind, separator.intercalate pieces = before ++ (piece ++ behind) ∧
      (behind = [] ∨ separator <+: behind) := by
  induction pieces with
  | nil => cases member
  | cons first pieces ih =>
    by_cases last : pieces = []
    · subst last
      rw [List.mem_singleton.mp member, List.intercalate_singleton]
      exact ⟨[], [], by simp, .inl rfl⟩
    · rw [List.intercalate_cons_of_ne_nil last, List.append_assoc]
      rcases List.mem_cons.mp member with rfl | later
      · exact ⟨[], _, rfl, .inr (List.prefix_append separator _)⟩
      · obtain ⟨before, behind, same, ends⟩ := ih later
        exact ⟨first ++ (separator ++ before), behind, by simp [same], ends⟩

theorem infix_intercalate {separator piece : List Char} {pieces : List (List Char)}
    (member : piece ∈ pieces) : piece <:+: separator.intercalate pieces := by
  obtain ⟨before, behind, same, -⟩ := intercalate_parts separator member
  exact ⟨before, behind, by rw [same, List.append_assoc]⟩

theorem intercalate_append_isPrefix (separator : List Char) (pieces more : List (List Char)) :
    separator.intercalate pieces <+: separator.intercalate (pieces ++ more) := by
  induction pieces with
  | nil => simp
  | cons first pieces ih =>
    by_cases last : pieces = []
    · subst last
      cases more <;> simp
    · have longer : pieces ++ more ≠ [] := by simp [last]
      rw [List.cons_append, List.intercalate_cons_of_ne_nil last,
        List.intercalate_cons_of_ne_nil longer]
      exact (List.prefix_append_right_inj _).mpr ih

theorem textBefore?_line (filled : needle ≠ []) (free : '\n' ∉ needle) (line rest : List Char) :
    textBefore? needle (line ++ '\n' :: rest) =
      (textBefore? needle line).or ((textBefore? needle rest).map (line ++ '\n' :: ·)) := by
  induction line with
  | nil =>
    have absent : ¬ needle <+: '\n' :: rest := by
      rw [← List.nil_append ('\n' :: rest), prefix_append_cons_iff free]
      simpa using filled
    rw [List.nil_append, textBefore?_cons, if_neg absent, textBefore?_nil filled]
    rfl
  | cons c line ih =>
    rw [List.cons_append, textBefore?_cons, textBefore?_cons, ← List.cons_append, ih]
    simp only [prefix_append_cons_iff free]
    split
    · rfl
    · cases textBefore? needle line <;> simp [Function.comp_def]

end Marks

section Blanks

variable {needle pad : List Char}

theorem textBefore?_blank_append (filled : needle ≠ []) (solid : ∀ c ∈ needle, isBlank c = false)
    (blank : allBlank pad = true) (s : List Char) :
    textBefore? needle (pad ++ s) = (textBefore? needle s).map (pad ++ ·) := by
  induction pad with
  | nil => simp
  | cons c pad ih =>
    obtain ⟨white, later⟩ := allBlank_cons.mp blank
    have absent : ¬ needle <+: c :: (pad ++ s) := by
      intro starts
      obtain ⟨d, rest, rfl⟩ := List.exists_cons_of_ne_nil filled
      obtain ⟨rfl, -⟩ := List.cons_prefix_cons.mp starts
      rw [solid d (by simp)] at white
      cases white
    rw [List.cons_append, textBefore?_cons, if_neg absent, ih later, Option.map_map]
    rfl

theorem textBefore?_append_blank (filled : needle ≠ []) (solid : ∀ c ∈ needle, isBlank c = false)
    (blank : allBlank pad = true) (s : List Char) :
    textBefore? needle (s ++ pad) = textBefore? needle s := by
  have parted : needle.any isBlank = false := by
    rw [List.any_eq_false]
    intro c member
    simp [solid c member]
  induction s with
  | nil =>
    have none := textBefore?_blank_append filled solid blank []
    rw [List.append_nil, textBefore?_nil filled] at none
    rw [List.nil_append, none, textBefore?_nil filled]
    rfl
  | cons c s ih =>
    have same : needle <+: c :: (s ++ pad) ↔ needle <+: c :: s := by
      have step := after?_append_padding parted blank (c :: s)
      by_cases longer : needle <+: c :: (s ++ pad) <;> by_cases here : needle <+: c :: s <;>
        simp [after?, longer, here] at step ⊢
    rw [List.cons_append, textBefore?_cons, textBefore?_cons, ih]
    simp only [same]

theorem trim_parts (s : List Char) :
    ∃ pad more, allBlank pad = true ∧ allBlank more = true ∧ s = pad ++ (trim s ++ more) := by
  obtain ⟨more, behind, same⟩ := trimEnd_pad (trimStart s)
  refine ⟨s.takeWhile isBlank, more, List.all_takeWhile, behind, ?_⟩
  rw [trim, ← same]
  exact List.takeWhile_append_dropWhile.symm

theorem trim_append_left (blank : allBlank pad = true) (s : List Char) :
    trim (pad ++ s) = trim s := by
  rw [trim, trimStart, List.dropWhile_append_of_pos (List.all_eq_true.mp blank), trim, trimStart]

theorem isInfix_trim (s : List Char) : trim s <:+: s := by
  obtain ⟨pad, more, -, -, same⟩ := trim_parts s
  exact ⟨pad, more, by rw [List.append_assoc, ← same]⟩

theorem textBefore?_trim (filled : needle ≠ []) (solid : ∀ c ∈ needle, isBlank c = false)
    (line : List Char) :
    (textBefore? needle (trim line)).map trim = (textBefore? needle line).map trim := by
  obtain ⟨pad, more, before, behind, same⟩ := trim_parts line
  have moved : textBefore? needle line = (textBefore? needle (trim line)).map (pad ++ ·) := by
    rw [same, textBefore?_blank_append filled solid before,
      textBefore?_append_blank filled solid behind, ← same]
  rw [moved, Option.map_map]
  congr 1
  funext front
  exact (trim_append_left before front).symm

end Blanks

end Outline.Text
