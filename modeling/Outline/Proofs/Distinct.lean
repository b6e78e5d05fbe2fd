import Mathlib.Algebra.BigOperators.Group.List.Lemmas
import Mathlib.Algebra.Ring.Nat
import Mathlib.Data.Finset.Card
import Mathlib.Data.List.Dedup

namespace Outline

section Distinct

variable {α : Type} [BEq α] [LawfulBEq α]

theorem nodup_eraseDups (l : List α) : l.eraseDups.Nodup := by
  cases l with
  | nil => simp
  | cons a rest =>
    rw [List.eraseDups_cons, List.nodup_cons]
    refine ⟨?_, nodup_eraseDups (rest.filter fun other => !other == a)⟩
    rw [List.mem_eraseDups, List.mem_filter]
    simp
termination_by l.length
decreasing_by
  have fewer := List.length_filter_le (fun other => !other == a) rest
  rw [List.length_cons]
  omega

theorem length_eraseDups [DecidableEq α] (l : List α) : l.eraseDups.length = l.toFinset.card := by
  have same : l.eraseDups.toFinset = l.toFinset := by
    ext a
    simp
  rw [← List.toFinset_card_of_nodup (nodup_eraseDups l), same]

theorem eraseDups_of_nodup {l : List α} (distinct : l.Nodup) : l.eraseDups = l := by
  induction l with
  | nil => rfl
  | cons a rest ih =>
    obtain ⟨fresh, later⟩ := List.nodup_cons.mp distinct
    have kept : (rest.filter fun other => !other == a) = rest := by
      rw [List.filter_eq_self]
      intro other member
      simpa using ne_of_mem_of_not_mem member fresh
    rw [List.eraseDups_cons, kept, ih later]

/-- Leaving elements out does not change which occurrence of the others is the first. -/
theorem eraseDups_filter (p : α → Bool) (l : List α) :
    (l.filter p).eraseDups = l.eraseDups.filter p := by
  induction l using List.reverseRecOn with
  | nil => rfl
  | append_singleton front a ih =>
    rw [List.filter_append, List.eraseDups_append, List.eraseDups_append, List.filter_append, ih]
    congr 1
    by_cases kept : p a = true
    · by_cases seen : a ∈ front <;> simp [List.removeAll, List.eraseDups_cons, kept, seen]
    · by_cases seen : a ∈ front <;> simp [List.removeAll, List.eraseDups_cons, kept, seen]

theorem eraseDups_append (xs ys : List α) :
    (xs ++ ys).eraseDups = xs.eraseDups ++ ys.eraseDups.filter (· ∉ xs.eraseDups) := by
  rw [List.eraseDups_append, List.removeAll, eraseDups_filter]
  congr 2
  funext y
  simp

end Distinct

theorem sum_count_eraseDups {α : Type} [DecidableEq α] (l : List α) :
    (l.eraseDups.map l.count).sum = l.length := by
  have perm : l.eraseDups.Perm l.dedup := by
    rw [List.perm_ext_iff_of_nodup (nodup_eraseDups l) (List.nodup_dedup l)]
    simp
  rw [(perm.map l.count).sum_eq]
  exact List.sum_map_count_dedup_eq_length l

end Outline
