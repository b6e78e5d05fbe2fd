import Mathlib.Data.List.TakeDrop
import Mathlib.Data.List.TakeWhile
import Outline.PathText
import Outline.Proofs.Text.Basic

namespace Outline.PathText

open Outline.Text

section Replaced

variable {f : Char → Char}

theorem fileName_map (separators : ∀ c, isSeparator (f c) = isSeparator c) (path : List Char) :
    fileName (path.map f) = (fileName path).map f := by
  simp only [fileName, ← List.map_reverse, List.takeWhile_map, Function.comp_def, separators]

theorem cutLast?_map {mark : Char} (marks : ∀ c, (f c == mark) = (c == mark)) (s : List Char) :
    cutLast? mark (s.map f) =
      (cutLast? mark s).map fun (before, behind) => (before.map f, behind.map f) := by
  have others : ((· != mark) ∘ f) = (· != mark) := by
    funext c
    simp only [Function.comp_apply, bne, marks]
  simp only [cutLast?, List.span_eq_takeWhile_dropWhile, ← List.map_reverse, List.takeWhile_map,
    List.dropWhile_map, others]
  cases s.reverse.dropWhile (· != mark) with
  | nil => rfl
  | cons c before => simp

theorem fileStem_map (separators : ∀ c, isSeparator (f c) = isSeparator c)
    (dots : ∀ c, (f c == '.') = (c == '.')) (path : List Char) :
    fileStem (path.map f) = (fileStem path).map f := by
  simp only [fileStem, fileName_map separators, cutLast?_map dots]
  cases cutLast? '.' (fileName path) with
  | none => rfl
  | some parts =>
    obtain ⟨_ | ⟨c, stem⟩, behind⟩ := parts <;> rfl

theorem dropSeparators_map (separators : ∀ c, isSeparator (f c) = isSeparator c)
    (path : List Char) : dropSeparators (path.map f) = (dropSeparators path).map f := by
  simp only [dropSeparators, List.dropWhile_map, Function.comp_def, separators]

end Replaced

def slashed (c : Char) : Char := if c == '\\' then '/' else c

theorem normalize_eq_map (path : List Char) : normalize path = path.map slashed := rfl

theorem isSeparator_slashed (c : Char) : isSeparator (slashed c) = isSeparator c := by
  unfold slashed
  split
  · rename_i backslash
    rw [beq_iff_eq.mp backslash]
    rfl
  · rfl

theorem slashed_of_not_isSeparator {c : Char} (other : isSeparator c = false) : slashed c = c := by
  have plain : (c == '\\') = false := (Bool.or_eq_false_iff.mp other).2
  simp [slashed, plain]

theorem length_normalize (path : List Char) : (normalize path).length = path.length :=
  List.length_map _

theorem normalize_append (front behind : List Char) :
    normalize (front ++ behind) = normalize front ++ normalize behind := List.map_append

theorem any_head?_normalize (path : List Char) :
    (normalize path).head?.any isSeparator = path.head?.any isSeparator := by
  cases path with
  | nil => rfl
  | cons c path => exact isSeparator_slashed c

theorem any_getLast?_normalize (path : List Char) :
    (normalize path).getLast?.any isSeparator = path.getLast?.any isSeparator := by
  rw [normalize_eq_map, List.getLast?_map, Option.any_map]
  simp only [isSeparator_slashed]

theorem normalize_eq_self {s : List Char} (free : ∀ c ∈ s, isSeparator c = false) :
    normalize s = s := by
  have fixed : s.map slashed = s.map id :=
    List.map_congr_left fun c member => slashed_of_not_isSeparator (free c member)
  rw [normalize_eq_map, fixed, List.map_id]

theorem normalize_normalize (path : List Char) : normalize (normalize path) = normalize path := by
  have twice : slashed ∘ slashed = slashed := by
    funext c
    by_cases backslash : c = '\\'
    · subst backslash
      rfl
    · simp [slashed, backslash]
  rw [normalize_eq_map, normalize_eq_map, List.map_map, twice]

theorem not_isSeparator_of_mem_fileName {path : List Char} {c : Char}
    (member : c ∈ fileName path) : isSeparator c = false := by
  have kept := List.mem_takeWhile_imp (List.mem_reverse.mp member)
  simpa using kept

theorem fileName_normalize (path : List Char) : fileName (normalize path) = fileName path := by
  rw [normalize_eq_map, fileName_map isSeparator_slashed, ← normalize_eq_map]
  exact normalize_eq_self fun c member => not_isSeparator_of_mem_fileName member

theorem fileStem_congr {path other : List Char} (same : fileName path = fileName other) :
    fileStem path = fileStem other := by
  unfold fileStem
  rw [same]

theorem fileStem_normalize (path : List Char) : fileStem (normalize path) = fileStem path :=
  fileStem_congr (fileName_normalize path)

def IsBelow (path base : List Char) : Prop :=
  ∃ rest, path = base ++ rest ∧
    (rest = [] ∨ rest.head?.any isSeparator = true ∨ base.getLast?.any isSeparator = true)

theorem getD_map_eq_any (o : Option Char) : (o.map isSeparator).getD false = o.any isSeparator := by
  cases o <;> rfl

theorem relativeTo_of_isBelow {path base : List Char} (below : IsBelow path base) :
    relativeTo path base = dropSeparators (path.drop base.length) := by
  obtain ⟨rest, rfl, ends⟩ := below
  unfold relativeTo
  cases base with
  | nil => rfl
  | cons c base =>
    have found : after? (c :: base) (c :: base ++ rest) = some rest := after?_eq_some_iff.mpr rfl
    have breaks : (rest.isEmpty || rest.head?.any isSeparator ||
        (c :: base).getLast?.any isSeparator) = true := by
      simpa [or_assoc] using ends
    simp only [found, getD_map_eq_any, breaks, List.isEmpty_cons, Bool.false_eq_true, if_false,
      if_true, List.drop_left]

theorem relativeTo_of_not_isBelow {path base : List Char} (apart : ¬ IsBelow path base) :
    relativeTo path base = path := by
  unfold relativeTo
  cases base with
  | nil =>
    -- without a base only leading separators could go
    cases path with
    | nil => rfl
    | cons c path =>
      have solid : isSeparator c = false := by
        rw [← Bool.not_eq_true]
        intro leads
        exact apart ⟨c :: path, rfl, .inr (.inl leads)⟩
      exact List.dropWhile_cons_of_neg (by simp [solid])
  | cons c base =>
    cases found : after? (c :: base) path with
    | none => rfl
    | some rest =>
      have inside : (rest.isEmpty || rest.head?.any isSeparator ||
          (c :: base).getLast?.any isSeparator) = false := by
        rw [← Bool.not_eq_true]
        intro breaks
        exact apart ⟨rest, after?_eq_some_iff.mp found, by simpa [or_assoc] using breaks⟩
      simp only [getD_map_eq_any, inside, List.isEmpty_cons, Bool.false_eq_true, if_false]

theorem IsBelow.normalize {path base : List Char} (below : IsBelow path base) :
    IsBelow (normalize path) (normalize base) := by
  obtain ⟨rest, rfl, ends⟩ := below
  refine ⟨PathText.normalize rest, normalize_append base rest, ?_⟩
  rwa [any_head?_normalize, any_getLast?_normalize, normalize_eq_map, List.map_eq_nil_iff]

/-- A path that lies below its base once both are written with forward slashes also does so as they
are spelt. -/
def SpeltAlike (path base : List Char) : Prop :=
  IsBelow (normalize path) (normalize base) → IsBelow path base

theorem relativeTo_normalize {path base : List Char} (alike : SpeltAlike path base) :
    relativeTo (normalize path) (normalize base) = normalize (relativeTo path base) := by
  by_cases below : IsBelow path base
  · rw [relativeTo_of_isBelow below, relativeTo_of_isBelow below.normalize, length_normalize,
      normalize_eq_map, normalize_eq_map, ← List.map_drop, dropSeparators_map isSeparator_slashed]
  · have apart : ¬ IsBelow (normalize path) (normalize base) := fun other => below (alike other)
    rw [relativeTo_of_not_isBelow below, relativeTo_of_not_isBelow apart]

/-- Where only the rewritten path lies below the rewritten base, the path itself is kept whole, and
the rewritten one is cut. -/
theorem relativeTo_of_not_speltAlike {path base : List Char} (differs : ¬ SpeltAlike path base) :
    relativeTo path base = path ∧
      (relativeTo (normalize path) (normalize base)).length < path.length := by
  obtain ⟨below, apart⟩ := Classical.not_imp.mp differs
  refine ⟨relativeTo_of_not_isBelow apart, ?_⟩
  have filled : base ≠ [] := by
    rintro rfl
    obtain ⟨rest, same, ends⟩ := below
    have whole : rest = normalize path := same.symm
    rw [whole, any_head?_normalize, any_getLast?_normalize, normalize_eq_map,
      List.map_eq_nil_iff] at ends
    exact apart ⟨path, rfl, ends⟩
  have shorter : (dropSeparators ((normalize path).drop (normalize base).length)).length ≤
      ((normalize path).drop (normalize base).length).length :=
    (List.dropWhile_suffix isSeparator).length_le
  have fits : base.length ≤ path.length := by
    obtain ⟨rest, same, -⟩ := below
    have lengths := congrArg List.length same
    rw [List.length_append, length_normalize, length_normalize] at lengths
    omega
  have positive := List.length_pos_iff.mpr filled
  rw [List.length_drop, length_normalize, length_normalize] at shorter
  rw [relativeTo_of_isBelow below, length_normalize]
  omega

end Outline.PathText
