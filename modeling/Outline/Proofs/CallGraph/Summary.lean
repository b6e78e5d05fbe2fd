import Outline.CallGraph
import Outline.Proofs.Distinct
import Outline.Proofs.Text.Utf8

namespace Outline.CallGraph

open Outline.Text

/-- The more frequent target, and of two equally frequent ones the one with the smaller bytes. -/
def Outranks (a b : String × Nat) : Prop := b.2 < a.2 ∨ a.2 = b.2 ∧ bytesOf a.1 < bytesOf b.1

instance (a b : String × Nat) : Decidable (Outranks a b) :=
  inferInstanceAs (Decidable (b.2 < a.2 ∨ a.2 = b.2 ∧ bytesOf a.1 < bytesOf b.1))

/-- Every target of some calls once, with the number of its calls and in strict order. -/
structure IsRanking (calls : List CallSite) (ranking : List (String × Nat)) : Prop where
  distinct : (ranking.map (·.1)).Nodup
  mem_iff : ∀ name count, (name, count) ∈ ranking ↔
    name ∈ calls.map target ∧ count = (calls.map target).count name
  total : (ranking.map (·.2)).sum = calls.length
  ordered : ranking.Pairwise Outranks

theorem ranksBefore_iff (a b : String × Nat) :
    ranksBefore a b = true ↔ b.2 < a.2 ∨ a.2 = b.2 ∧ a.1 ≤ b.1 := by
  simp [ranksBefore]

theorem ranksBefore_trans (a b c : String × Nat) (first : ranksBefore a b = true)
    (second : ranksBefore b c = true) : ranksBefore a c = true := by
  rw [ranksBefore_iff] at first second ⊢
  rcases first with more | ⟨same, before⟩
  · rcases second with fewer | ⟨same, -⟩
    · exact .inl (by omega)
    · exact .inl (by omega)
  · rcases second with fewer | ⟨also, behind⟩
    · exact .inl (by omega)
    · exact .inr ⟨by omega, String.le_trans before behind⟩

theorem ranksBefore_total (a b : String × Nat) : (ranksBefore a b || ranksBefore b a) = true := by
  rw [Bool.or_eq_true, ranksBefore_iff, ranksBefore_iff]
  rcases Nat.lt_trichotomy a.2 b.2 with fewer | same | more
  · exact .inr (.inl fewer)
  · rcases String.le_total a.1 b.1 with before | behind
    · exact .inl (.inr ⟨same, before⟩)
    · exact .inr (.inr ⟨same.symm, behind⟩)
  · exact .inl (.inl more)

theorem outranks_of_ne {a b : String × Nat} (before : ranksBefore a b = true)
    (differ : a.1 ≠ b.1) : Outranks a b := by
  rw [ranksBefore_iff] at before
  rcases before with more | ⟨same, le⟩
  · exact .inl more
  · exact .inr ⟨same, bytesOf_lt_iff.mpr (Std.lt_of_le_of_ne le differ)⟩

theorem Outranks.asymm {a b : String × Nat} (before : Outranks a b) : ¬ Outranks b a := by
  rintro (more | ⟨same, smaller⟩)
  · rcases before with fewer | ⟨equal, -⟩ <;> omega
  · rcases before with fewer | ⟨-, less⟩
    · omega
    · exact List.lt_asymm less smaller

theorem eq_of_perm_of_ordered {ranking other : List (String × Nat)} (perm : ranking.Perm other)
    (ordered : ranking.Pairwise Outranks) (also : other.Pairwise Outranks) : ranking = other := by
  refine List.Perm.eq_of_pairwise ?_ ordered also perm
  intro a b _ _ before behind
  exact absurd behind before.asymm

section Ranking

variable (graph : CallGraph)

theorem targetCounts_perm :
    graph.targetCounts.Perm
      ((graph.calls.map target).eraseDups.map fun t => (t, (graph.calls.map target).count t)) :=
  List.mergeSort_perm _ _

theorem nodup_targetCounts : (graph.targetCounts.map (·.1)).Nodup := by
  have names := (targetCounts_perm graph).map (·.1)
  rw [names.nodup_iff, List.map_map]
  simpa [Function.comp_def] using nodup_eraseDups (graph.calls.map target)

theorem isRanking_targetCounts : IsRanking graph.calls graph.targetCounts where
  distinct := nodup_targetCounts graph
  mem_iff := by
    intro name count
    rw [(targetCounts_perm graph).mem_iff, List.mem_map]
    constructor
    · rintro ⟨t, listed, same⟩
      cases same
      exact ⟨List.mem_eraseDups.mp listed, rfl⟩
    · rintro ⟨listed, rfl⟩
      exact ⟨name, List.mem_eraseDups.mpr listed, rfl⟩
  total := by
    have counts := ((targetCounts_perm graph).map (·.2)).sum_eq
    have occurrences := sum_count_eraseDups (graph.calls.map target)
    rw [List.length_map] at occurrences
    rw [List.map_map] at counts
    exact counts.trans occurrences
  ordered := by
    have ranked := List.pairwise_mergeSort ranksBefore_trans ranksBefore_total
      ((graph.calls.map target).eraseDups.map fun t => (t, (graph.calls.map target).count t))
    -- The sort is not strict by itself; it is because no name comes twice.
    have apart := List.pairwise_map.mp (nodup_targetCounts graph)
    exact ranked.imp₂ (fun _ _ => outranks_of_ne) apart

end Ranking

theorem IsRanking.unique {calls others : List CallSite} (perm : calls.Perm others)
    {ranking other : List (String × Nat)} (first : IsRanking calls ranking)
    (second : IsRanking others other) : ranking = other := by
  have targets := perm.map target
  have same : ranking.Perm other := by
    rw [List.perm_ext_iff_of_nodup first.distinct.of_map second.distinct.of_map]
    rintro ⟨name, count⟩
    rw [first.mem_iff, second.mem_iff, targets.mem_iff, targets.count_eq]
  exact eq_of_perm_of_ordered same first.ordered second.ordered

theorem foldl_merge (graph : CallGraph) (groups : List (List CallSite)) :
    groups.foldl merge graph = ⟨graph.calls ++ groups.flatten⟩ := by
  induction groups generalizing graph with
  | nil => simp
  | cons calls groups ih =>
    rw [List.foldl_cons, ih, merge, List.flatten_cons, List.append_assoc]

theorem summary_eq (graph : CallGraph) (top : Nat) :
    graph.summary top =
      { totalCalls := graph.calls.length
        files := (graph.calls.map (·.filePath)).toFinset.card
        distinctCallers := (graph.calls.map caller).toFinset.card
        distinctTargets := (graph.calls.map target).toFinset.card
        topTargets := graph.targetCounts.take top } := by
  have targets : graph.targetCounts.length = (graph.calls.map target).toFinset.card := by
    rw [(targetCounts_perm graph).length_eq, List.length_map, length_eraseDups]
  simp only [summary, byFile, files, List.length_map, List.length_mergeSort, length_eraseDups,
    targets]

theorem summary_perm {graph other : CallGraph} (perm : graph.calls.Perm other.calls) (top : Nat) :
    graph.summary top = other.summary top := by
  have ranking := IsRanking.unique perm (isRanking_targetCounts graph)
    (isRanking_targetCounts other)
  rw [summary_eq, summary_eq, ranking, perm.length_eq,
    List.toFinset_eq_of_perm _ _ (perm.map (·.filePath)),
    List.toFinset_eq_of_perm _ _ (perm.map caller), List.toFinset_eq_of_perm _ _ (perm.map target)]

/-- Exact counts of some calls, with as many of the targets in their ranking as are asked for. -/
def Counts (calls : List CallSite) (summary : Nat → Summary) : Prop :=
  ∃ ranking, IsRanking calls ranking ∧ ∀ top,
    summary top =
      { totalCalls := calls.length
        files := (calls.map (·.filePath)).toFinset.card
        distinctCallers := (calls.map caller).toFinset.card
        distinctTargets := (calls.map target).toFinset.card
        topTargets := ranking.take top }

theorem counts_of_perm {graph : CallGraph} {calls : List CallSite} (perm : graph.calls.Perm calls) :
    Counts calls graph.summary := by
  refine ⟨_, isRanking_targetCounts ⟨calls⟩, fun top => ?_⟩
  have same : graph.summary top = (mk calls).summary top := summary_perm perm top
  rw [same, summary_eq]

/-- The summary of a graph is exact for its calls, and for the calls that were merged into it in
whatever groups and order. -/
theorem summary_exact_and_unordered :
    (∀ calls : List CallSite, Counts calls (CallGraph.mk calls).summary) ∧
    (∀ (calls : List CallSite) (groups : List (List CallSite)), groups.flatten.Perm calls →
      Counts calls (groups.foldl merge empty).summary) ∧
    ∀ groups others : List (List CallSite), groups.flatten.Perm others.flatten → ∀ top,
      (groups.foldl merge empty).summary top = (others.foldl merge empty).summary top := by
  have merged : ∀ groups : List (List CallSite),
      (groups.foldl merge empty).calls = groups.flatten := by
    intro groups
    rw [foldl_merge]
    rfl
  refine ⟨fun calls => counts_of_perm (.refl calls), ?_, ?_⟩
  · intro calls groups perm
    exact counts_of_perm (by rwa [merged])
  · intro groups others perm top
    exact summary_perm (by rwa [merged, merged]) top

def callTo (calledType calledMember : String) : CallSite where
  filePath := "a.py"
  callerType := "A"
  callerMember := "f"
  calledType
  calledMember
  line := 1

/-- Two targets are called once each, a third twice and not written the same way. -/
def tied : List CallSite :=
  [callTo "é" "x", callTo "a.b" "y", callTo "Z" "y", callTo "a" "b.y"]

theorem summary_exact_and_unordered_ties :
    [(tied.drop 2).reverse, [], (tied.take 2).reverse].flatten.Perm tied ∧
    ([tied.take 1, tied.drop 1].foldl merge empty).summary 2 =
      ([(tied.drop 2).reverse, [], (tied.take 2).reverse].foldl merge empty).summary 2 ∧
    ([(tied.drop 2).reverse, [], (tied.take 2).reverse].foldl merge empty).summary 2 =
      { totalCalls := 4, files := 1, distinctCallers := 1, distinctTargets := 3
        topTargets := [("a.b.y", 2), ("Z.y", 1)] } := by
  obtain ⟨-, counted, unordered⟩ := summary_exact_and_unordered
  have perm : [(tied.drop 2).reverse, [], (tied.take 2).reverse].flatten.Perm tied := by decide
  obtain ⟨ranking, ranks, counts⟩ := counted tied _ perm
  have listed : (mk tied).targetCounts.Perm [("a.b.y", 2), ("Z.y", 1), ("é.x", 1)] :=
    (targetCounts_perm ⟨tied⟩).trans (by decide +kernel)
  have ranked := isRanking_targetCounts ⟨tied⟩
  have computed := eq_of_perm_of_ordered listed ranked.ordered (by decide +kernel)
  have determined := (ranks.unique (List.Perm.refl _) ranked).trans computed
  refine ⟨perm, unordered _ _ (by decide) 2, ?_⟩
  rw [counts, determined]
  decide +kernel

end Outline.CallGraph
