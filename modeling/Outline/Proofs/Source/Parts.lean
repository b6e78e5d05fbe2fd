import Outline.Proofs.Distinct
import Outline.Proofs.Source.Member
import Outline.Proofs.Source.Padding
import Outline.Proofs.Text.Trim
import Outline.Source.Import

namespace Outline.Source

open Outline.Text

theorem of_mem_commaList {s entry : List Char} (member : entry ∈ commaList s) :
    entry ≠ [] ∧ IsTrimmed entry ∧ ',' ∉ entry := by
  obtain ⟨listed, filled⟩ := List.mem_filter.mp member
  obtain ⟨piece, split, rfl⟩ := List.mem_map.mp listed
  refine ⟨by simpa using filled, isTrimmed_trim piece, ?_⟩
  intro comma
  exact mark_notMem_of_mem_splitOn split (mem_of_mem_trim comma)

theorem upToParen_accepts {α : Type} {accept : List Char → Option α} {s inner : List Char} {a : α}
    (found : upToParen accept s = some (inner, a)) : ∃ rest, accept rest = some a := by
  induction s generalizing inner with
  | nil => cases found
  | cons c s ih =>
    unfold upToParen at found
    split at found
    · rename_i b accepted
      cases found
      split at accepted
      · exact ⟨s, accepted⟩
      · cases accepted
    · split at found
      · cases found
      · obtain ⟨⟨front, b⟩, later, same⟩ := Option.map_eq_some_iff.mp found
        cases same
        exact ih later

theorem returns?_type {s type : List Char}
    (found : returns? s = some (some type)) : IsTrimmed type ∧ ':' ∉ type := by
  unfold returns? at found
  split at found
  · cases found
  · dsimp only at found
    split at found
    · cases found
    · cases found
      refine ⟨isTrimmed_trim _, ?_⟩
      intro colon
      have kept := List.mem_takeWhile_imp (mem_of_mem_trim colon)
      simp at kept
  · cases found

theorem definition?_type {s name params type : List Char}
    (found : definition? s = some (name, params, some type)) :
    IsTrimmed type ∧ ':' ∉ type := by
  unfold definition? at found
  obtain ⟨s, -, found⟩ := Option.bind_eq_some_iff.mp found
  obtain ⟨s, -, found⟩ := Option.bind_eq_some_iff.mp found
  obtain ⟨⟨word, s⟩, -, found⟩ := Option.bind_eq_some_iff.mp found
  obtain ⟨s, -, found⟩ := Option.bind_eq_some_iff.mp found
  obtain ⟨⟨inner, returns⟩, closed, found⟩ := Option.bind_eq_some_iff.mp found
  cases found
  obtain ⟨rest, accepted⟩ := upToParen_accepts closed
  exact returns?_type accepted

theorem FunctionHeader.parse?_type {line : Line} {header : FunctionHeader}
    {type : List Char} (parsed : FunctionHeader.parse? line = some header)
    (annotated : header.returns = some type) :
    IsTrimmed type ∧ ':' ∉ type := by
  unfold FunctionHeader.parse? at parsed
  obtain ⟨⟨name, params, returns⟩, defined, rfl⟩ := Option.map_eq_some_iff.mp parsed
  subst annotated
  exact definition?_type defined

/-- A return type is an annotation that is not blank, or else the word `None`. -/
theorem returnType_parts {line : Line} {header : FunctionHeader}
    (parsed : FunctionHeader.parse? line = some header) :
    returnType header ≠ [] ∧ IsTrimmed (returnType header) ∧ ':' ∉ returnType header := by
  unfold returnType
  cases given : header.returns.bind nonEmpty? with
  | none =>
    refine ⟨by decide, ⟨?_, ?_⟩, by decide⟩
    · rintro c first
      cases first
      decide
    · rintro c last
      cases last
      decide
  | some type =>
    obtain ⟨found, annotated, filled⟩ := Option.bind_eq_some_iff.mp given
    unfold nonEmpty? at filled
    split at filled
    · cases filled
    · rename_i solid
      cases filled
      refine ⟨by simpa using solid, ?_⟩
      exact FunctionHeader.parse?_type parsed annotated

theorem docFragments_isTrimmed {delimiter : List Char} {lines : List Line}
    {fragments : List (List Char)} (found : docFragments delimiter lines = some fragments) :
    ∀ f ∈ fragments, IsTrimmed f := by
  induction lines generalizing fragments with
  | nil => cases found
  | cons line later ih =>
    unfold docFragments at found
    split at found
    · cases found
      intro f member
      rw [List.mem_singleton.mp member]
      exact isTrimmed_trim _
    · obtain ⟨rest, closed, rfl⟩ := Option.map_eq_some_iff.mp found
      intro f member
      rcases List.mem_cons.mp member with rfl | member
      · exact isTrimmed_trim line
      · exact ih closed f member

theorem joinFragments_isTrimmed {fragments : List (List Char)}
    (trimmed : ∀ f ∈ fragments, IsTrimmed f) : IsTrimmed (joinFragments fragments) := by
  apply IsTrimmed.join
  · intro f member
    simpa using (List.mem_filter.mp member).2
  · intro f member
    exact trimmed f (List.mem_filter.mp member).1

theorem nonEmpty?_parts {s d : List Char} (trimmed : IsTrimmed s) (found : nonEmpty? s = some d) :
    d ≠ [] ∧ IsTrimmed d := by
  unfold nonEmpty? at found
  split at found
  · cases found
  · rename_i solid
    cases found
    exact ⟨by simpa using solid, trimmed⟩

theorem docstring?_parts {lines : List Line} {idx : Nat} {d : List Char}
    (found : docstring? lines idx = some d) : d ≠ [] ∧ IsTrimmed d := by
  unfold docstring? at found
  split at found
  · cases found
  · split at found
    · cases found
    · dsimp only at found
      split at found
      · exact nonEmpty?_parts (isTrimmed_trim _) found
      · split at found
        · cases found
        · rename_i fragments closed
          refine nonEmpty?_parts (joinFragments_isTrimmed ?_) found
          intro f member
          rcases List.mem_cons.mp member with rfl | member
          · exact isTrimmed_trim _
          · exact docFragments_isTrimmed closed f member

theorem Decorator.parse?_name {line : Line} {decorator : Decorator}
    (parsed : Decorator.parse? line = some decorator) : decorator.name ≠ [] := by
  unfold Decorator.parse? at parsed
  split at parsed
  · dsimp only at parsed
    split at parsed
    · cases parsed
    · rename_i filled
      cases parsed
      simpa using filled
  · cases parsed

theorem ne_nil_of_mem_decoratorNames {indent name : List Char} {above : List Line}
    (member : name ∈ decoratorNames indent (decoratorRun above)) : name ≠ [] := by
  obtain ⟨decorator, kept, rfl⟩ := List.mem_map.mp member
  have listed := (List.mem_filter.mp kept).1
  obtain ⟨line, -, parsed⟩ := List.mem_filterMap.mp listed
  exact Decorator.parse?_name parsed

def IsModuleChar (c : Char) : Prop := isBlank c = false ∧ c ≠ ',' ∧ c ≠ '#' ∧ c ≠ ';'

theorem isModuleChar_of_isDotted {c : Char} (dotted : isDotted c = true) : IsModuleChar c := by
  refine ⟨?_, ?_, ?_, ?_⟩
  · cases blank : isBlank c with
    | false => rfl
    | true =>
      rw [isDotted_of_isBlank blank] at dotted
      cases dotted
  all_goals
    rintro rfl
    revert dotted
    decide +kernel

theorem fromTail?_name {name s found : List Char} (tail : fromTail? name s = some found) :
    name ≠ [] ∧ found = name := by
  unfold fromTail? at tail
  split at tail
  · cases tail
  · rename_i filled
    rw [← bind_eq_elim] at tail
    obtain ⟨s, -, tail⟩ := Option.bind_eq_some_iff.mp tail
    rw [← bind_eq_elim] at tail
    obtain ⟨s, -, tail⟩ := Option.bind_eq_some_iff.mp tail
    split at tail
    · cases tail
    · exact ⟨by simpa using filled, (Option.some.inj tail).symm⟩

theorem fromImport?_name {code name : List Char} (found : fromImport? code = some name) :
    name ≠ [] ∧ ∀ c ∈ name, isDotted c = true := by
  rw [fromImport?_eq, ← bind_eq_elim] at found
  obtain ⟨s, -, found⟩ := Option.bind_eq_some_iff.mp found
  rw [← bind_eq_elim] at found
  obtain ⟨s, -, found⟩ := Option.bind_eq_some_iff.mp found
  obtain ⟨filled, rfl⟩ := fromTail?_name found
  exact ⟨filled, fun c member => List.mem_takeWhile_imp member⟩

theorem mem_of_mem_bareImport? {code names : List Char} (found : bareImport? code = some names)
    {c : Char} (member : c ∈ names) : c ∈ code := by
  obtain ⟨rest, word, found⟩ := Option.bind_eq_some_iff.mp found
  have inside : c ∈ trimStart code := by
    rw [after?_eq_some_iff.mp word]
    apply List.mem_append_right
    cases rest with
    | nil => cases found
    | cons d rest =>
      rw [afterBlanks?] at found
      split at found
      · cases found
        exact List.mem_cons_of_mem d ((List.dropWhile_suffix isBlank).subset member)
      · cases found
  exact (List.dropWhile_suffix isBlank).subset inside

theorem of_mem_modulesOf {code name : List Char} (single : ∀ c ∈ code, c ≠ '#' ∧ c ≠ ';')
    (member : name ∈ modulesOf code) : name ≠ [] ∧ ∀ c ∈ name, IsModuleChar c := by
  unfold modulesOf at member
  split at member
  · rename_i word found
    rw [List.mem_singleton.mp member]
    obtain ⟨filled, dotted⟩ := fromImport?_name found
    exact ⟨filled, fun c inside => isModuleChar_of_isDotted (dotted c inside)⟩
  · split at member
    · rename_i names found
      obtain ⟨entry, split, first⟩ := List.mem_filterMap.mp member
      obtain ⟨filled, solid⟩ := of_mem_words (List.mem_of_mem_head? first)
      refine ⟨filled, ?_⟩
      intro c inside
      obtain ⟨noBlank, within⟩ := solid c inside
      obtain ⟨noComma, among⟩ := of_mem_splitOnP split within
      exact ⟨noBlank, by simpa using noComma, single c (mem_of_mem_bareImport? found among)⟩
    · cases member

theorem imports_nodup (text : List Char) : (imports text).Nodup := nodup_eraseDups _

theorem of_mem_imports {text name : List Char} (member : name ∈ imports text) :
    name ≠ [] ∧ ∀ c ∈ name, IsModuleChar c := by
  unfold imports importsOfLines at member
  rw [List.mem_eraseDups, List.mem_flatMap] at member
  obtain ⟨line, -, member⟩ := member
  apply of_mem_modulesOf _ member
  intro c inside
  have kept := List.mem_takeWhile_imp inside
  simpa using kept

theorem dependencyRoots_nodup (modules : List (List Char)) : (dependencyRoots modules).Nodup :=
  nodup_eraseDups _

theorem of_mem_dependencyRoots {modules : List (List Char)} {root : List Char}
    (member : root ∈ dependencyRoots modules) : root ≠ [] ∧ '.' ∉ root := by
  unfold dependencyRoots at member
  rw [List.mem_eraseDups] at member
  obtain ⟨listed, filled⟩ := List.mem_filter.mp member
  obtain ⟨name, -, rfl⟩ := List.mem_map.mp listed
  refine ⟨by simpa using filled, ?_⟩
  intro dot
  have kept := List.mem_takeWhile_imp dot
  simp at kept

end Outline.Source
