import Mathlib.Order.Interval.Set.Basic
import Outline.Proofs.Source.Member

namespace Outline.Source

open Outline.Text

def decoratorAt? (lines : List Line) (k : Nat) : Option Decorator :=
  lines[k]?.bind Decorator.parse?

def headerAt? (lines : List Line) (k : Nat) : Option FunctionHeader :=
  lines[k]?.bind FunctionHeader.parse?

/-- The lines from `top` to the one above `idx` hold decorators, and no longer run of such lines ends
there, as far as lines from `first` on are looked at. -/
structure IsRunAbove (lines : List Line) (first idx top : Nat) : Prop where
  bounds : first ≤ top ∧ top ≤ idx
  unbroken : ∀ k, top ≤ k → k < idx → (decoratorAt? lines k).isSome = true
  longest : ∀ other, first ≤ other →
    (∀ k, other ≤ k → k < idx → (decoratorAt? lines k).isSome = true) → top ≤ other

/-- The decorator in the line `k` counts to the header in the line `idx`. -/
structure Decorates (lines : List Line) (first k idx : Nat) : Prop where
  inRun : ∃ top, IsRunAbove lines first idx top ∧ top ≤ k ∧ k < idx
  aligned : ∃ decorator header, decoratorAt? lines k = some decorator ∧
    headerAt? lines idx = some header ∧ decorator.indent = header.indent

section Run

variable {lines : List Line} {first idx top : Nat}

theorem IsRunAbove.self (lines : List Line) (first : Nat) : IsRunAbove lines first first first where
  bounds := ⟨Nat.le_refl _, Nat.le_refl _⟩
  unbroken := by
    intro k low high
    omega
  longest := fun _ low _ => low

theorem IsRunAbove.extend (run : IsRunAbove lines first idx top)
    (found : (decoratorAt? lines idx).isSome = true) : IsRunAbove lines first (idx + 1) top where
  bounds := ⟨run.bounds.1, Nat.le_succ_of_le run.bounds.2⟩
  unbroken := by
    intro k low high
    rcases Nat.lt_succ_iff_lt_or_eq.mp high with before | rfl
    · exact run.unbroken k low before
    · exact found
  longest := by
    intro other low held
    exact run.longest other low fun k after before => held k after (Nat.lt_succ_of_lt before)

theorem IsRunAbove.restart (order : first ≤ idx) (missing : decoratorAt? lines idx = none) :
    IsRunAbove lines first (idx + 1) (idx + 1) where
  bounds := ⟨Nat.le_succ_of_le order, Nat.le_refl _⟩
  unbroken := by
    intro k low high
    omega
  longest := by
    intro other _ held
    by_contra early
    have here := held idx (by omega) (Nat.lt_succ_self idx)
    rw [missing] at here
    cases here

theorem drop_take_succ {line : Line} {start : Nat} (found : lines[idx]? = some line)
    (order : start ≤ idx) :
    (lines.take (idx + 1)).drop start = (lines.take idx).drop start ++ [line] := by
  have inside := (List.getElem?_eq_some_iff.mp found).1
  have fits : start ≤ (lines.take idx).length := by
    rw [List.length_take]
    omega
  rw [List.take_add_one, found, Option.toList_some, List.drop_append_of_le_length fits]

theorem exists_isRunAbove (order : first ≤ idx) (inside : idx ≤ lines.length) :
    ∃ top, IsRunAbove lines first idx top ∧
      decoratorRun ((lines.take idx).drop first) =
        ((lines.take idx).drop top).filterMap Decorator.parse? := by
  induction idx, order using Nat.le_induction with
  | base =>
    refine ⟨first, IsRunAbove.self lines first, ?_⟩
    rw [List.drop_eq_nil_of_le (by rw [List.length_take]; omega)]
    rfl
  | succ idx order ih =>
    obtain ⟨top, run, same⟩ := ih (by omega)
    have found : lines[idx]? = some lines[idx] := List.getElem?_eq_getElem (by omega)
    have here : decoratorAt? lines idx = Decorator.parse? lines[idx] := by
      rw [decoratorAt?, found, Option.bind_some]
    rw [drop_take_succ found order]
    cases parsed : Decorator.parse? lines[idx] with
    | some decorator =>
      refine ⟨top, run.extend (by rw [here, parsed]; rfl), ?_⟩
      rw [decoratorRun_concat_of_some _ parsed, same, drop_take_succ found run.bounds.2,
        List.filterMap_append]
      simp [parsed]
    | none =>
      refine ⟨idx + 1, IsRunAbove.restart order (by rw [here, parsed]), ?_⟩
      rw [decoratorRun_concat_of_none _ parsed,
        List.drop_eq_nil_of_le (by rw [List.length_take]; omega)]
      rfl

end Run

def alignedNames (indent : List Char) (above : List Line) : List String :=
  above.filterMap fun line =>
    ((Decorator.parse? line).filter (·.indent == indent)).map fun d => String.ofList d.name

theorem alignedNames_eq (indent : List Char) (above : List Line) :
    (decoratorNames indent (above.filterMap Decorator.parse?)).map String.ofList =
      alignedNames indent above := by
  rw [decoratorNames, List.map_map, List.filter_filterMap, List.map_filterMap]
  rfl

theorem decorates_apart {lines : List Line} {first i j : Nat} (before : i < j)
    {header : FunctionHeader} (found : headerAt? lines i = some header) (k : Nat)
    (upper : Decorates lines first k i) : ¬ Decorates lines first k j := by
  intro lower
  obtain ⟨top, -, -, above⟩ := upper.inRun
  obtain ⟨other, run, begun, -⟩ := lower.inRun
  -- The run above the later header would go on over the earlier one.
  have covered := run.unbroken i (by omega) before
  obtain ⟨line, there, parsed⟩ := Option.bind_eq_some_iff.mp found
  rw [decoratorAt?, there, Option.bind_some, FunctionHeader.not_decorator parsed] at covered
  cases covered

theorem members_decorated (lines : List Line) (first last : Nat) (scope : Scope) (owner : Owner) :
    (∀ m ∈ members lines first last scope owner, ∃ idx header top,
      m.info.startLine = idx + 1 ∧ headerAt? lines idx = some header ∧
      IsRunAbove lines first idx top ∧
      m.info.decorators = alignedNames header.indent ((lines.take idx).drop top)) ∧
    (members lines first last scope owner).Pairwise fun a b => ∀ k,
      Decorates lines first k (a.info.startLine - 1) →
        ¬ Decorates lines first k (b.info.startLine - 1) := by
  constructor
  · intro m member
    obtain ⟨idx, line, header, low, -, found, parsed, -, rfl⟩ :=
      exists_header_of_mem_members member
    have inside : idx < lines.length := (List.getElem?_eq_some_iff.mp found).1
    obtain ⟨top, run, same⟩ := exists_isRunAbove low (Nat.le_of_lt inside)
    refine ⟨idx, header, top, rfl, Option.bind_eq_some_iff.mpr ⟨line, found, parsed⟩, run, ?_⟩
    rw [← alignedNames_eq, ← same]
    rfl
  · apply members_pairwise
    rintro ⟨lineI, i⟩ ⟨lineJ, j⟩ a b before foundI - madeA madeB
    obtain ⟨headerI, decoratorsI, parsed, -, rfl⟩ := memberAt?_eq_some madeA
    obtain ⟨headerJ, decoratorsJ, -, -, rfl⟩ := memberAt?_eq_some madeB
    exact decorates_apart before (Option.bind_eq_some_iff.mpr ⟨lineI, foundI, parsed⟩)

def mixedRun : List Line :=
  ["  @a".toList, "  @b".toList, "@c".toList, "  @d.e(1)".toList, "  def f(): pass".toList,
    "  def g(): pass".toList]

theorem members_decorated_mixedRun :
    ∃ m ∈ members mixedRun 1 5 .classBody ⟨"A", "a.py"⟩, ∃ idx header top,
      m.info.startLine = idx + 1 ∧ headerAt? mixedRun idx = some header ∧
      IsRunAbove mixedRun 1 idx top ∧ m.info.decorators = ["b", "d.e"] ∧
      alignedNames header.indent ((mixedRun.take idx).drop top) = ["b", "d.e"] := by
  have listed : ∃ m ∈ members mixedRun 1 5 .classBody ⟨"A", "a.py"⟩,
      m.info.decorators = ["b", "d.e"] := by
    decide +kernel
  obtain ⟨m, member, names⟩ := listed
  obtain ⟨idx, header, top, starts, found, run, same⟩ :=
    (members_decorated mixedRun 1 5 .classBody ⟨"A", "a.py"⟩).1 m member
  exact ⟨m, member, idx, header, top, starts, found, run, names, same.symm.trans names⟩

end Outline.Source
