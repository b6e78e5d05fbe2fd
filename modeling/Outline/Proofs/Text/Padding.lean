import Mathlib.Data.List.DropRight
import Outline.Proofs.Text.Basic

namespace Outline.Text

/-- A reader that answers `z` to the empty text, and to a text whatever white space follows it. -/
structure IgnoresPadding {α : Type} (z : α) (read : List Char → α) : Prop where
  empty : read [] = z
  padded : ∀ s pad, allBlank pad = true → read (s ++ pad) = read s

theorem IgnoresPadding.blank {α : Type} {z : α} {read : List Char → α}
    (ignores : IgnoresPadding z read) {pad : List Char} (blank : allBlank pad = true) :
    read pad = z := by
  have same := ignores.padded [] pad blank
  rwa [List.nil_append, ignores.empty] at same

theorem isBlank_of_mem {pad : List Char} {c : Char} (blank : allBlank pad = true)
    (member : c ∈ pad) : isBlank c = true :=
  List.all_eq_true.mp blank c member

theorem allBlank_cons {c : Char} {rest : List Char} :
    allBlank (c :: rest) = true ↔ isBlank c = true ∧ allBlank rest = true := by
  simp [allBlank]

theorem allBlank_of_subset {s t : List Char} (blank : allBlank s = true) (subset : t ⊆ s) :
    allBlank t = true :=
  List.all_eq_true.mpr fun _ member => isBlank_of_mem blank (subset member)

theorem allBlank_ignoresPadding : IgnoresPadding true allBlank where
  empty := rfl
  padded := by
    intro s pad blank
    unfold allBlank at blank ⊢
    rw [List.all_append, blank, Bool.and_true]

theorem takeWhile_append_padding {p : Char → Bool} (solid : ∀ c, isBlank c = true → p c = false)
    {pad : List Char} (blank : allBlank pad = true) (s : List Char) :
    (s ++ pad).takeWhile p = s.takeWhile p := by
  have none : pad.takeWhile p = [] := by
    cases pad with
    | nil => rfl
    | cons c rest => simp [solid c (allBlank_cons.mp blank).1]
  rw [List.takeWhile_append, none, List.append_nil]
  split
  · rename_i whole
    exact ((List.takeWhile_prefix p).eq_of_length whole).symm
  · rfl

theorem after?_append_padding {start pad : List Char} (solid : start.any isBlank = false)
    (blank : allBlank pad = true) (s : List Char) :
    after? start (s ++ pad) = (after? start s).map (· ++ pad) := by
  cases found : after? start s with
  | some rest =>
    obtain rfl := after?_eq_some_iff.mp found
    exact after?_eq_some_iff.mpr (List.append_assoc ..)
  | none =>
    cases longer : after? start (s ++ pad) with
    | none => rfl
    | some rest =>
      exfalso
      rcases List.append_eq_append_iff.mp (after?_eq_some_iff.mp longer) with
        ⟨inside, same, split⟩ | ⟨inside, same, -⟩
      · cases inside with
        | nil =>
          have whole : after? start s = some [] := after?_eq_some_iff.mpr (by simp [same])
          rw [whole] at found
          cases found
        | cons c tail =>
          have first : c ∈ start := by simp [same]
          have other : isBlank c = true := isBlank_of_mem blank (by simp [split])
          exact List.any_eq_false.mp solid c first other
      · rw [after?_eq_some_iff.mpr same] at found
        cases found

section Readers

variable {α : Type} {z : α}

theorem IgnoresPadding.skip (p : Char → Bool) (read : List Char → List Char → α)
    (ignores : ∀ front, IgnoresPadding z (read front)) :
    IgnoresPadding z fun s => read (s.takeWhile p) (s.dropWhile p) where
  empty := (ignores []).empty
  padded := by
    intro s pad blank
    have parts : (s.takeWhile p).length + (s.dropWhile p).length = s.length := by
      rw [← List.length_append, List.takeWhile_append_dropWhile]
    rw [List.dropWhile_append, List.takeWhile_append]
    by_cases whole : s.dropWhile p = []
    · have rest : allBlank (pad.dropWhile p) = true :=
        allBlank_of_subset blank (List.dropWhile_suffix p).subset
      rw [if_pos (List.isEmpty_iff.mpr whole), (ignores _).blank rest, whole, (ignores _).empty]
    · have stopped := List.length_pos_iff.mpr whole
      rw [if_neg (by omega), if_neg (mt List.isEmpty_iff.mp whole), (ignores _).padded _ _ blank]

theorem IgnoresPadding.takeWhile (p : Char → Bool) {read : List Char → α}
    (ignores : IgnoresPadding z read) : IgnoresPadding z fun s => read (s.takeWhile p) where
  empty := ignores.empty
  padded := by
    intro s pad blank
    rw [List.takeWhile_append]
    split
    · rename_i whole
      have front : allBlank (pad.takeWhile p) = true :=
        allBlank_of_subset blank (List.takeWhile_prefix p).subset
      rw [ignores.padded _ _ front, (List.takeWhile_prefix p).eq_of_length whole]
    · rfl

theorem IgnoresPadding.trimStart {read : List Char → α} (ignores : IgnoresPadding z read) :
    IgnoresPadding z fun s => read (trimStart s) :=
  IgnoresPadding.skip isBlank (fun _ => read) fun _ => ignores

theorem IgnoresPadding.choice (start : List Char) (nonempty : start ≠ [])
    (solid : start.any isBlank = false) {read other : List Char → α}
    (padded : ∀ s pad, allBlank pad = true → read (s ++ pad) = read s)
    (ignores : IgnoresPadding z other) :
    IgnoresPadding z fun s => (after? start s).elim (other s) read where
  empty := by
    cases start with
    | nil => exact absurd rfl nonempty
    | cons c rest => exact ignores.empty
  padded := by
    intro s pad blank
    rw [after?_append_padding solid blank]
    cases after? start s with
    | none => exact ignores.padded s pad blank
    | some rest => exact padded rest pad blank

theorem IgnoresPadding.const : IgnoresPadding z fun _ => z := ⟨rfl, fun _ _ _ => rfl⟩

theorem IgnoresPadding.after (start : List Char) (nonempty : start ≠ [])
    (solid : start.any isBlank = false) {read : List Char → α}
    (padded : ∀ s pad, allBlank pad = true → read (s ++ pad) = read s) :
    IgnoresPadding z fun s => (after? start s).elim z read :=
  IgnoresPadding.choice start nonempty solid padded IgnoresPadding.const

theorem bind_eq_elim {β : Type} (o : Option α) (f : α → Option β) : o.bind f = o.elim none f := by
  cases o <;> rfl

theorem IgnoresPadding.elim {β : Type} (f : β → α) {read : List Char → Option β}
    (ignores : IgnoresPadding none read) : IgnoresPadding z fun s => (read s).elim z f where
  empty := by rw [ignores.empty, Option.elim_none]
  padded := fun s pad blank => by rw [ignores.padded s pad blank]

end Readers

theorem trimEnd_append {pad : List Char} (blank : allBlank pad = true) (s : List Char) :
    trimEnd (s ++ pad) = trimEnd s := by
  have all : ∀ c ∈ pad.reverse, isBlank c = true :=
    fun c member => isBlank_of_mem blank (List.mem_reverse.mp member)
  rw [trimEnd, List.reverse_append, List.dropWhile_append_of_pos all, trimEnd]

theorem trim_ignoresPadding : IgnoresPadding [] trim :=
  IgnoresPadding.trimStart ⟨rfl, fun s _ blank => trimEnd_append blank s⟩

theorem words_ignoresPadding : IgnoresPadding [] words where
  empty := by simp [words]
  padded := by
    intro s pad blank
    induction pad generalizing s with
    | nil => rw [List.append_nil]
    | cons c rest ih =>
      obtain ⟨first, later⟩ := allBlank_cons.mp blank
      have none : words rest = [] := by simpa [words] using ih [] later
      unfold words at none ⊢
      rw [List.splitOnP_append_cons s rest first, List.filter_append, none, List.append_nil]

theorem splitOn_filterMap_append_padding {β : Type} {mark : Char} (solid : isBlank mark = false)
    {read : List Char → Option β} (ignores : IgnoresPadding none read) {pad : List Char}
    (blank : allBlank pad = true) (s : List Char) :
    ((s ++ pad).splitOn mark).filterMap read = (s.splitOn mark).filterMap read := by
  have absent : mark ∉ pad := by
    intro member
    simp [isBlank_of_mem blank member] at solid
  -- The beginning of the current part, which the induction extends up to the next mark.
  suffices all : ∀ front, mark ∉ front →
      ((front ++ (s ++ pad)).splitOn mark).filterMap read =
        ((front ++ s).splitOn mark).filterMap read from all [] (by simp)
  induction s with
  | nil =>
    intro front free
    have whole : mark ∉ front ++ pad := by simp [free, absent]
    rw [List.nil_append, List.append_nil, List.splitOn_eq_singleton whole,
      List.splitOn_eq_singleton free, List.filterMap_cons, List.filterMap_cons,
      ignores.padded front pad blank]
  | cons c s ih =>
    intro front free
    by_cases cut : c = mark
    · subst cut
      have here : ∀ x ∈ front, (x == c) = false := by
        intro x member
        rw [beq_eq_false_iff_ne]
        rintro rfl
        exact free member
      have rest := ih [] (by simp)
      simp only [List.nil_append] at rest
      rw [List.cons_append, List.splitOn_eq_splitOnP, List.splitOn_eq_splitOnP,
        List.splitOnP_append_cons_of_forall_mem here c (by simp),
        List.splitOnP_append_cons_of_forall_mem here c (by simp), List.filterMap_cons,
        List.filterMap_cons, ← List.splitOn_eq_splitOnP, ← List.splitOn_eq_splitOnP, rest]
    · have next := ih (front ++ [c]) (by simp [free, Ne.symm cut])
      simpa using next

theorem trimEnd_pad (s : List Char) : ∃ pad, allBlank pad = true ∧ s = trimEnd s ++ pad := by
  refine ⟨(s.reverse.takeWhile isBlank).reverse, ?_, ?_⟩
  · rw [allBlank, List.all_reverse, List.all_takeWhile]
  · rw [trimEnd, ← List.reverse_append, List.takeWhile_append_dropWhile, List.reverse_reverse]

theorem IgnoresPadding.trimmed {α : Type} {z : α} {read : List Char → α}
    (ignores : IgnoresPadding z read) (s : List Char) : read (trimEnd s) = read s := by
  obtain ⟨pad, blank, same⟩ := trimEnd_pad s
  nth_rewrite 2 [same]
  exact (ignores.padded _ pad blank).symm

end Outline.Text
