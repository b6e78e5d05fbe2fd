import Outline.Proofs.Text.Basic

namespace Outline.Text

structure IsTrimmed (s : List Char) : Prop where
  front : ∀ c, s.head? = some c → isBlank c = false
  back : ∀ c, s.getLast? = some c → isBlank c = false

theorem head?_trimStart {s : List Char} {c : Char} (first : (trimStart s).head? = some c) :
    isBlank c = false := by
  have stopped := List.head?_dropWhile_not isBlank s
  unfold trimStart at first
  rw [first] at stopped
  exact stopped

theorem trimEnd_prefix (s : List Char) : trimEnd s <+: s := by
  have behind : s.reverse.dropWhile isBlank <:+ s.reverse := List.dropWhile_suffix isBlank
  rw [← List.reverse_prefix, List.reverse_reverse] at behind
  exact behind

theorem isTrimmed_trim (s : List Char) : IsTrimmed (trim s) where
  front := by
    intro c first
    unfold trim at first
    obtain ⟨behind, whole⟩ := trimEnd_prefix (trimStart s)
    apply head?_trimStart (s := s)
    rw [← whole, List.head?_append, first, Option.some_or]
  back := by
    intro c last
    unfold trim trimEnd at last
    rw [List.getLast?_reverse] at last
    exact head?_trimStart last

theorem mem_of_mem_trim {s : List Char} {c : Char} (member : c ∈ trim s) : c ∈ s := by
  have front := trimEnd_prefix (trimStart s)
  exact (List.dropWhile_suffix isBlank).subset (front.subset member)

theorem IsTrimmed.trim_eq {s : List Char} (trimmed : IsTrimmed s) : trim s = s := by
  have kept : ∀ t : List Char, (∀ c, t.head? = some c → isBlank c = false) →
      t.dropWhile isBlank = t := by
    intro t solid
    cases t with
    | nil => rfl
    | cons c t => exact List.dropWhile_cons_of_neg (by simp [solid c rfl])
  have back := kept s.reverse fun c last => trimmed.back c (by rwa [List.head?_reverse] at last)
  rw [trim, trimStart, kept s trimmed.front, trimEnd, back, List.reverse_reverse]

theorem IsTrimmed.join {fragments : List (List Char)} (filled : ∀ f ∈ fragments, f ≠ [])
    (trimmed : ∀ f ∈ fragments, IsTrimmed f) : IsTrimmed ([' '].intercalate fragments) := by
  induction fragments with
  | nil => exact ⟨by simp, by simp⟩
  | cons f fragments ih =>
    have here := trimmed f (by simp)
    by_cases last : fragments = []
    · subst last
      simpa using here
    · have rest := ih (fun g member => filled g (by simp [member]))
        (fun g member => trimmed g (by simp [member]))
      have more : [' '].intercalate fragments ≠ [] := by
        obtain ⟨g, others, rfl⟩ := List.exists_cons_of_ne_nil last
        have filled' := filled g (by simp)
        cases others <;> simp [filled']
      rw [List.intercalate_cons_of_ne_nil last]
      constructor
      · intro c first
        apply here.front
        obtain ⟨d, tail, rfl⟩ := List.exists_cons_of_ne_nil (filled f (by simp))
        simpa using first
      · intro c final
        have ends := List.getLast?_eq_some_getLast more
        rw [List.getLast?_append, ends, Option.some_or, ← ends] at final
        exact rest.back c final

theorem of_mem_splitOnP {α : Type} {p : α → Bool} {s piece : List α}
    (member : piece ∈ s.splitOnP p) {c : α} (inside : c ∈ piece) : p c = false ∧ c ∈ s := by
  induction s generalizing piece with
  | nil =>
    rw [List.splitOnP_nil, List.mem_singleton] at member
    subst member
    cases inside
  | cons d rest ih =>
    obtain ⟨first, others, pieces⟩ := List.exists_cons_of_ne_nil (List.splitOnP_ne_nil p rest)
    have later : ∀ q ∈ first :: others, c ∈ q → p c = false ∧ c ∈ d :: rest := by
      intro q listed held
      rw [← pieces] at listed
      exact (ih listed held).imp id (List.mem_cons_of_mem d)
    rw [List.splitOnP_cons_eq_if_modifyHead, pieces] at member
    split at member
    · rcases List.mem_cons.mp member with rfl | listed
      · cases inside
      · exact later piece listed inside
    · rename_i kept
      rw [List.modifyHead_cons] at member
      rcases List.mem_cons.mp member with rfl | listed
      · rcases List.mem_cons.mp inside with rfl | inside
        · exact ⟨by simpa using kept, by simp⟩
        · exact later first (by simp) inside
      · exact later piece (by simp [listed]) inside

theorem mark_notMem_of_mem_splitOn {mark : Char} {s piece : List Char}
    (member : piece ∈ s.splitOn mark) : mark ∉ piece := by
  intro inside
  have other := (of_mem_splitOnP member inside).1
  simp at other

theorem splitOn_append_cons {mark : Char} {s : List Char} (free : mark ∉ s) (rest : List Char) :
    (s ++ mark :: rest).splitOn mark = s :: rest.splitOn mark := by
  have kept : ∀ c ∈ s, (c == mark) = false := by
    intro c member
    rw [beq_eq_false_iff_ne]
    exact ne_of_mem_of_not_mem member free
  rw [List.splitOn_eq_splitOnP, List.splitOnP_append_cons_of_forall_mem kept mark (by simp),
    ← List.splitOn_eq_splitOnP]

theorem of_mem_words {s word : List Char} (member : word ∈ words s) :
    word ≠ [] ∧ ∀ c ∈ word, isBlank c = false ∧ c ∈ s := by
  obtain ⟨listed, filled⟩ := List.mem_filter.mp member
  exact ⟨by simpa using filled, fun c inside => of_mem_splitOnP listed inside⟩

end Outline.Text
