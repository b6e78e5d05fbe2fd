import Outline.Proofs.Source.Call
import Outline.Proofs.Source.Header
import Outline.Proofs.Text.Padding
import Outline.Source.Import

namespace Outline.Source

open Outline.Text

theorem separates_of_isBlank {c : Char} (blank : isBlank c = true) : separates c = true := by
  refine separates_iff.mpr ⟨isWord_of_isBlank blank, ?_, ?_⟩
  · rintro rfl
    exact absurd blank (by decide)
  · rintro rfl
    exact absurd blank (by decide)

section Readers

variable {α : Type} {z : α}

theorem afterBlanks?_ignoresPadding {read : List Char → α} (ignores : IgnoresPadding z read) :
    IgnoresPadding z fun s => (afterBlanks? s).elim z read where
  empty := rfl
  padded := by
    intro s pad blank
    cases s with
    | nil =>
      cases pad with
      | nil => rfl
      | cons c rest =>
        obtain ⟨first, later⟩ := allBlank_cons.mp blank
        have same := ignores.trimStart.blank later
        simpa [afterBlanks?, first] using same
    | cons c s =>
      by_cases first : isBlank c = true
      · have same := ignores.trimStart.padded s pad blank
        simpa [afterBlanks?, first] using same
      · simp [afterBlanks?, first]

theorem name?_ignoresPadding {read : List Char → List Char → α}
    (ignores : ∀ name, IgnoresPadding z (read name)) :
    IgnoresPadding z fun s => (name? s).elim z fun found => read found.1 found.2 where
  empty := rfl
  padded := by
    intro s pad blank
    cases s with
    | nil =>
      cases pad with
      | nil => rfl
      | cons c rest =>
        have first := separates_of_isBlank (allBlank_cons.mp blank).1
        simp [name?, startsName_of_separates first]
    | cons c s =>
      by_cases first : startsName c = true
      · have rest : IgnoresPadding z fun s => read (c :: s.takeWhile isWord) (s.dropWhile isWord) :=
          IgnoresPadding.skip isWord (fun front => read (c :: front)) fun _ => ignores _
        have same := rest.padded s pad blank
        simpa [name?, first] using same
      · simp [name?, first]

end Readers

theorem upToParen_ignoresPadding {α : Type} {accept : List Char → Option α}
    (ignores : IgnoresPadding none accept) : IgnoresPadding none (upToParen accept) where
  empty := rfl
  padded := by
    intro s pad blank
    induction s with
    | nil =>
      rw [List.nil_append]
      induction pad with
      | nil => rfl
      | cons c rest ih =>
        obtain ⟨first, later⟩ := allBlank_cons.mp blank
        have noParen : c ≠ ')' := by
          rintro rfl
          exact absurd first (by decide)
        simp [upToParen, noParen, ih later]
    | cons c s ih =>
      simp only [List.cons_append, upToParen, ih]
      rw [ignores.padded s pad blank]

theorem colon?_eq (s : List Char) :
    colon? s = (after? [':'] (trimStart s)).elim none fun _ => some () := by
  unfold colon?
  split
  · rename_i rest same
    rw [same]
    rfl
  · rename_i other
    cases found : after? [':'] (trimStart s) with
    | none => rfl
    | some rest => exact (other rest (after?_eq_some_iff.mp found)).elim

theorem colon?_ignoresPadding : IgnoresPadding none colon? := by
  rw [funext colon?_eq]
  exact IgnoresPadding.trimStart
    (IgnoresPadding.after [':'] (by decide) (by decide) fun _ _ _ => rfl)

def annotation? (s : List Char) : Option (Option (List Char)) :=
  (after? [':'] (s.dropWhile (· != ':'))).elim none fun _ =>
    if (s.takeWhile (· != ':')).isEmpty then none else some (some (trim (s.takeWhile (· != ':'))))

theorem annotation?_eq (s : List Char) :
    annotation? s =
      if (s.takeWhile (· != ':')).isEmpty || (s.dropWhile (· != ':')).isEmpty then none
      else some (some (trim (s.takeWhile (· != ':')))) := by
  unfold annotation?
  cases rest : s.dropWhile (· != ':') with
  | nil => simp [after?]
  | cons c tail =>
    have colon : c = ':' := by
      have head := List.head?_dropWhile_not (· != ':') s
      rw [rest] at head
      simpa using head
    subst colon
    simp [after?]

theorem returns?_eq (s : List Char) :
    returns? s =
      (after? [':'] (trimStart s)).elim ((after? ['-', '>'] (trimStart s)).elim none annotation?)
        fun _ => some none := by
  unfold returns?
  split
  · rename_i rest same
    rw [same]
    rfl
  · rename_i rest same
    rw [same]
    exact (annotation?_eq rest).symm
  · rename_i noColon noArrow
    cases colon : after? [':'] (trimStart s) with
    | some rest => exact (noColon rest (after?_eq_some_iff.mp colon)).elim
    | none =>
      cases arrow : after? ['-', '>'] (trimStart s) with
      | some rest => exact (noArrow rest (after?_eq_some_iff.mp arrow)).elim
      | none => rfl

theorem annotation?_ignoresPadding : IgnoresPadding none annotation? :=
  IgnoresPadding.skip (· != ':')
    (fun front rest => (after? [':'] rest).elim none fun _ =>
      if front.isEmpty then none else some (some (trim front)))
    fun _ => IgnoresPadding.after [':'] (by decide) (by decide) fun _ _ _ => rfl

theorem returns?_ignoresPadding : IgnoresPadding none returns? := by
  rw [funext returns?_eq]
  exact IgnoresPadding.trimStart
    (IgnoresPadding.choice [':'] (by decide) (by decide) (fun _ _ _ => rfl)
      (IgnoresPadding.after ['-', '>'] (by decide) (by decide) annotation?_ignoresPadding.padded))

def parameters? (name s : List Char) : Option (List Char × List Char × Option (List Char)) :=
  (after? ['('] (trimStart s)).elim none fun s =>
    (upToParen returns? s).elim none fun parts => some (name, parts.1, parts.2)

theorem parameters?_ignoresPadding (name : List Char) : IgnoresPadding none (parameters? name) :=
  IgnoresPadding.trimStart
    (IgnoresPadding.after ['('] (by decide) (by decide)
      ((upToParen_ignoresPadding returns?_ignoresPadding).elim _).padded)

theorem definition?_eq (s : List Char) :
    definition? s =
      (after? ['d', 'e', 'f'] s).elim none fun s => (afterBlanks? s).elim none fun s =>
        (name? s).elim none fun found => parameters? found.1 found.2 := by
  simp only [definition?, Option.bind_eq_bind, Option.pure_def, bind_eq_elim, parameters?]

theorem definition?_ignoresPadding : IgnoresPadding none definition? := by
  rw [funext definition?_eq]
  exact IgnoresPadding.after ['d', 'e', 'f'] (by decide) (by decide)
    (afterBlanks?_ignoresPadding (name?_ignoresPadding parameters?_ignoresPadding)).padded

def FunctionHeader.ofParts (indent : List Char) (isAsync : Bool)
    (parts : List Char × List Char × Option (List Char)) : FunctionHeader where
  indent := indent
  isAsync := isAsync
  name := parts.1
  params := parts.2.1
  returns := parts.2.2

def FunctionHeader.behind? (indent code : List Char) : Option FunctionHeader :=
  (after? ['a', 's', 'y', 'n', 'c'] code).elim
    ((definition? code).elim none fun parts => some (.ofParts indent false parts))
    fun s => (afterBlanks? s).elim none fun s =>
      (definition? s).elim none fun parts => some (.ofParts indent true parts)

theorem FunctionHeader.parse?_eq (line : Line) :
    FunctionHeader.parse? line =
      FunctionHeader.behind? (line.takeWhile isIndent) (line.dropWhile isIndent) := by
  simp only [FunctionHeader.parse?, FunctionHeader.behind?, async?, Option.map_eq_bind,
    bind_eq_elim]
  cases word : after? ['a', 's', 'y', 'n', 'c'] (line.dropWhile isIndent) with
  | none => rfl
  | some s =>
    cases blanks : afterBlanks? s with
    | some s =>
      simp only [blanks, Option.elim_some, Option.getD_some, Option.isSome_some]
      rfl
    | none =>
      have noDefinition : definition? (line.dropWhile isIndent) = none := by
        rw [after?_eq_some_iff.mp word]
        rfl
      simp [blanks, noDefinition]

theorem FunctionHeader.parse?_ignoresPadding : IgnoresPadding none FunctionHeader.parse? := by
  rw [funext FunctionHeader.parse?_eq]
  refine IgnoresPadding.skip isIndent FunctionHeader.behind? fun indent => ?_
  exact IgnoresPadding.choice ['a', 's', 'y', 'n', 'c'] (by decide) (by decide)
    (afterBlanks?_ignoresPadding (definition?_ignoresPadding.elim _)).padded
    (definition?_ignoresPadding.elim _)

def ClassHeader.bases? (name s : List Char) : Option ClassHeader :=
  (after? ['('] (trimStart s)).elim
    ((colon? (trimStart s)).elim none fun _ => some { name, bases := [] })
    fun s => (upToParen colon? s).elim none fun parts => some { name, bases := parts.1 }

theorem ClassHeader.parse?_eq (line : Line) :
    ClassHeader.parse? line =
      (after? ['c', 'l', 'a', 's', 's'] line).elim none fun s => (afterBlanks? s).elim none fun s =>
        (name? s).elim none fun found => ClassHeader.bases? found.1 found.2 := by
  have trimmed (s : List Char) : colon? (trimStart s) = colon? s := by
    simp only [colon?, trimStart, List.dropWhile_idempotent]
  simp only [ClassHeader.parse?, ClassHeader.bases?, Option.bind_eq_bind, Option.pure_def,
    bind_eq_elim, trimmed]
  congr 1
  funext s
  congr 1
  funext s
  congr 1
  funext found
  cases after? ['('] (trimStart found.2) <;> rfl

theorem ClassHeader.parse?_ignoresPadding : IgnoresPadding none ClassHeader.parse? := by
  rw [funext ClassHeader.parse?_eq]
  refine IgnoresPadding.after ['c', 'l', 'a', 's', 's'] (by decide) (by decide)
    (afterBlanks?_ignoresPadding (name?_ignoresPadding fun name => ?_)).padded
  exact IgnoresPadding.trimStart
    (IgnoresPadding.choice ['('] (by decide) (by decide)
      ((upToParen_ignoresPadding colon?_ignoresPadding).elim _).padded
      (colon?_ignoresPadding.elim _))

theorem isDotted_of_isBlank {c : Char} (blank : isBlank c = true) : isDotted c = false := by
  have noWord := isWord_of_isBlank blank
  have noDot : c ≠ '.' := by
    rintro rfl
    exact absurd blank (by decide)
  simp [isDotted, noWord, noDot]

def Decorator.behind? (indent code : List Char) : Option Decorator :=
  (after? ['@'] code).elim none fun s =>
    if (s.takeWhile isDotted).isEmpty then none else some { indent, name := s.takeWhile isDotted }

theorem Decorator.parse?_eq (line : Line) :
    Decorator.parse? line =
      Decorator.behind? (line.takeWhile isIndent) (line.dropWhile isIndent) := by
  unfold Decorator.parse?
  split
  · rename_i rest same
    rw [same]
    rfl
  · rename_i other
    cases found : after? ['@'] (line.dropWhile isIndent) with
    | none => simp [Decorator.behind?, found]
    | some rest => exact (other rest (after?_eq_some_iff.mp found)).elim

theorem Decorator.parse?_ignoresPadding : IgnoresPadding none Decorator.parse? := by
  rw [funext Decorator.parse?_eq]
  refine IgnoresPadding.skip isIndent Decorator.behind? fun indent => ?_
  refine IgnoresPadding.after ['@'] (by decide) (by decide) fun s pad blank => ?_
  rw [takeWhile_append_padding (fun c => isDotted_of_isBlank) blank]

theorem allBlank_dropWhile_isIndent (line : Line) :
    allBlank (line.dropWhile isIndent) = allBlank line := by
  have front : allBlank (line.takeWhile isIndent) = true :=
    List.all_eq_true.mpr fun _ member => isIndent_isBlank (List.mem_takeWhile_imp member)
  conv_rhs => rw [← List.takeWhile_append_dropWhile (p := isIndent) (l := line)]
  rw [allBlank, allBlank, List.all_append]
  rw [allBlank] at front
  rw [front, Bool.true_and]

theorem closesBlock_ignoresPadding (indent : Nat) :
    IgnoresPadding false (closesBlock indent) := by
  have split (line : Line) : closesBlock indent line =
      (!allBlank (line.dropWhile isIndent) &&
        total ((line.takeWhile isIndent).map indentUnit) ≤ indent) := by
    rw [closesBlock, allBlank_dropWhile_isIndent, indentWidth]
  rw [funext split]
  refine IgnoresPadding.skip isIndent
    (fun front rest => !allBlank rest && total (front.map indentUnit) ≤ indent) fun front => ?_
  exact ⟨rfl, fun s pad blank => by rw [allBlank_ignoresPadding.padded s pad blank]⟩

theorem chains_ignoresPadding : IgnoresPadding [] chains where
  empty := rfl
  padded := by
    intro line pad blank
    induction pad generalizing line with
    | nil => rw [List.append_nil]
    | cons c rest ih =>
      obtain ⟨first, later⟩ := allBlank_cons.mp blank
      have none : chains rest = [] := ih [] later
      rw [chains_line (separates_of_isBlank first), none, List.map_nil, List.append_nil]

theorem Caller.lineSites_trimEnd (caller : Caller) (number : Nat) (line : Line) :
    caller.lineSites number (trimEnd line) = caller.lineSites number line := by
  rw [Caller.lineSites, chains_ignoresPadding.trimmed, Caller.lineSites]

def fromTail? (name s : List Char) : Option (List Char) :=
  if name.isEmpty then none
  else (afterBlanks? s).elim none fun s =>
    (after? ['i', 'm', 'p', 'o', 'r', 't'] s).elim none fun s =>
      if (s.head?.map isWord).getD false then none else some name

theorem fromTail?_ignoresPadding (name : List Char) : IgnoresPadding none (fromTail? name) := by
  unfold fromTail?
  by_cases empty : name.isEmpty = true
  · simp only [empty, if_true]
    exact IgnoresPadding.const
  · simp only [empty]
    refine afterBlanks?_ignoresPadding (IgnoresPadding.after ['i', 'm', 'p', 'o', 'r', 't']
      (by decide) (by decide) fun s pad blank => ?_)
    cases s with
    | cons c s => rfl
    | nil =>
      cases pad with
      | nil => rfl
      | cons c rest =>
        simp [isWord_of_isBlank (allBlank_cons.mp blank).1]

theorem fromImport?_eq (code : List Char) :
    fromImport? code =
      (after? ['f', 'r', 'o', 'm'] (trimStart code)).elim none fun s =>
        (afterBlanks? s).elim none fun s =>
          fromTail? (s.takeWhile isDotted) (s.dropWhile isDotted) := by
  simp only [fromImport?, Option.bind_eq_bind, Option.pure_def, bind_eq_elim, Option.elim_none,
    fromTail?]

theorem fromImport?_ignoresPadding : IgnoresPadding none fromImport? := by
  rw [funext fromImport?_eq]
  exact IgnoresPadding.trimStart
    (IgnoresPadding.after ['f', 'r', 'o', 'm'] (by decide) (by decide)
      (afterBlanks?_ignoresPadding
        (IgnoresPadding.skip isDotted fromTail? fromTail?_ignoresPadding)).padded)

def listedModules (names : List Char) : List (List Char) :=
  (names.splitOn ',').filterMap fun entry => (words entry).head?

theorem listedModules_ignoresPadding : IgnoresPadding [] listedModules where
  empty := by simp [listedModules, words]
  padded := by
    intro s pad blank
    have entry : IgnoresPadding none fun entry => (words entry).head? :=
      ⟨by rw [words_ignoresPadding.empty]; rfl,
        fun s pad blank => by rw [words_ignoresPadding.padded s pad blank]⟩
    exact splitOn_filterMap_append_padding (by decide) entry blank s

theorem modulesOf_eq (code : List Char) :
    modulesOf code =
      (fromImport? code).elim
        ((after? ['i', 'm', 'p', 'o', 'r', 't'] (trimStart code)).elim [] fun s =>
          (afterBlanks? s).elim [] listedModules)
        fun name => [name] := by
  unfold modulesOf bareImport?
  cases fromImport? code with
  | some name => rfl
  | none =>
    cases after? ['i', 'm', 'p', 'o', 'r', 't'] (trimStart code) with
    | none => rfl
    | some s => cases blanks : afterBlanks? s <;> simp [blanks, listedModules]

theorem modulesOf_ignoresPadding : IgnoresPadding [] modulesOf := by
  have bare : IgnoresPadding [] fun code =>
      (after? ['i', 'm', 'p', 'o', 'r', 't'] (trimStart code)).elim [] fun s =>
        (afterBlanks? s).elim [] listedModules :=
    IgnoresPadding.trimStart
      (IgnoresPadding.after ['i', 'm', 'p', 'o', 'r', 't'] (by decide) (by decide)
        (afterBlanks?_ignoresPadding listedModules_ignoresPadding).padded)
  rw [funext modulesOf_eq]
  constructor
  · rfl
  · intro s pad blank
    rw [fromImport?_ignoresPadding.padded s pad blank, bare.padded s pad blank]

end Outline.Source
