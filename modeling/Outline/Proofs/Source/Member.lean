import Mathlib.Data.List.DropRight
import Outline.Proofs.Source.Header
import Outline.Source.Member

namespace Outline.Source

open Outline.Text

def Scope.header? (scope : Scope) (line : Line) : Option FunctionHeader :=
  (FunctionHeader.parse? line).filter fun header => scope.accepts header.indent

theorem Scope.header?_eq_some_iff {scope : Scope} {line : Line} {header : FunctionHeader} :
    scope.header? line = some header ↔
      FunctionHeader.parse? line = some header ∧ scope.accepts header.indent = true :=
  Option.filter_eq_some_iff

theorem Scope.header?_of_parse {line : Line} {header : FunctionHeader} (scope : Scope)
    (parsed : FunctionHeader.parse? line = some header) :
    scope.header? line = if scope.accepts header.indent then some header else none := by
  rw [Scope.header?, parsed, Option.filter_some]

theorem Scope.accepts_file {indent : List Char} :
    Scope.file.accepts indent = true ↔ indent = [] := by
  cases indent <;> simp [Scope.accepts]

theorem Scope.header?_of_decorator {line : Line} {decorator : Decorator} (scope : Scope)
    (found : Decorator.parse? line = some decorator) : scope.header? line = none := by
  cases other : scope.header? line with
  | none => rfl
  | some header =>
    have silent := FunctionHeader.not_decorator (Scope.header?_eq_some_iff.mp other).1
    rw [found] at silent
    cases silent

def decoratorRun (above : List Line) : List Decorator :=
  (above.rtakeWhile fun line => (Decorator.parse? line).isSome).filterMap Decorator.parse?

theorem decoratorRun_concat_of_some {line : Line} {decorator : Decorator} (above : List Line)
    (found : Decorator.parse? line = some decorator) :
    decoratorRun (above ++ [line]) = decoratorRun above ++ [decorator] := by
  unfold decoratorRun
  rw [List.rtakeWhile_concat_pos _ _ _ (by simp [found])]
  simp [found]

theorem decoratorRun_concat_of_none {line : Line} (above : List Line)
    (missing : Decorator.parse? line = none) : decoratorRun (above ++ [line]) = [] := by
  unfold decoratorRun
  rw [List.rtakeWhile_concat_neg _ _ _ (by simp [missing])]
  rfl

def memberAt? (lines : List Line) (first : Nat) (scope : Scope) (owner : Owner)
    (entry : Line × Nat) : Option Extracted :=
  (scope.header? entry.1).map fun header =>
    Extracted.ofHeader lines entry.2 header
      (decoratorNames header.indent (decoratorRun ((lines.take entry.2).drop first))) scope owner

theorem membersFrom_decoratorRun (lines : List Line) (scope : Scope) (owner : Owner) (first : Nat)
    (above block below : List Line) (front : lines.drop first = above ++ block ++ below) :
    membersFrom lines scope owner (decoratorRun above) (first + above.length) block =
      (block.zipIdx (first + above.length)).filterMap (memberAt? lines first scope owner) := by
  -- What the scan holds at a line is the decorator run of the lines above it.
  induction block generalizing above with
  | nil => rfl
  | cons line rest ih =>
    have tail := ih (above ++ [line]) (by rw [front]; simp)
    have next : first + (above ++ [line]).length = first + above.length + 1 := by simp; omega
    have seen : (lines.take (first + above.length)).drop first = above := by
      rw [List.drop_take, front]
      simp
    rw [next] at tail
    rw [List.zipIdx_cons, List.filterMap_cons, ← tail, membersFrom]
    cases found : Decorator.parse? line with
    | some decorator =>
      rw [memberAt?, Scope.header?_of_decorator scope found,
        decoratorRun_concat_of_some above found]
      rfl
    | none =>
      rw [decoratorRun_concat_of_none above found, memberAt?, seen, Scope.header?]
      cases (FunctionHeader.parse? line).filter fun header => scope.accepts header.indent <;> rfl

def numberedLines (lines : List Line) (first last : Nat) : List (Line × Nat) :=
  ((lines.take (last + 1)).drop first).zipIdx first

theorem mem_numberedLines {lines : List Line} {first last : Nat} {entry : Line × Nat} :
    entry ∈ numberedLines lines first last ↔
      first ≤ entry.2 ∧ entry.2 ≤ last ∧ lines[entry.2]? = some entry.1 := by
  unfold numberedLines
  rw [List.mem_zipIdx_iff_le_and_getElem?_sub, List.getElem?_drop, List.getElem?_take]
  constructor
  · rintro ⟨low, found⟩
    have same : first + (entry.2 - first) = entry.2 := by omega
    rw [same] at found
    split at found
    · exact ⟨low, by omega, found⟩
    · cases found
  · rintro ⟨low, high, found⟩
    have same : first + (entry.2 - first) = entry.2 := by omega
    exact ⟨low, by rw [same, if_pos (by omega), found]⟩

theorem zipIdx_increasing (lines : List Line) (first : Nat) :
    (lines.zipIdx first).Pairwise fun a b => a.2 < b.2 := by
  rw [← List.pairwise_map (f := Prod.snd), List.zipIdx_map_snd]
  exact List.pairwise_lt_range'

theorem numberedLines_whole (lines : List Line) :
    numberedLines lines 0 (lines.length - 1) = lines.zipIdx := by
  unfold numberedLines
  rw [List.take_of_length_le (by omega), List.drop_zero]

theorem members_eq (lines : List Line) (first last : Nat) (scope : Scope) (owner : Owner) :
    members lines first last scope owner =
      (numberedLines lines first last).filterMap (memberAt? lines first scope owner) := by
  have front : (lines.take (last + 1)).drop first <+: lines.drop first := by
    rw [List.drop_take]
    exact List.take_prefix _ _
  obtain ⟨below, front⟩ := front
  exact membersFrom_decoratorRun lines scope owner first [] _ below front.symm

theorem fileFunctions_eq (lines : List Line) (owner : Owner) :
    fileFunctions lines owner = lines.zipIdx.filterMap (memberAt? lines 0 .file owner) := by
  rw [fileFunctions, members_eq, numberedLines_whole]

theorem mem_members {lines : List Line} {first last : Nat} {scope : Scope} {owner : Owner}
    {m : Extracted} (member : m ∈ members lines first last scope owner) :
    ∃ entry, first ≤ entry.2 ∧ entry.2 ≤ last ∧ lines[entry.2]? = some entry.1 ∧
      memberAt? lines first scope owner entry = some m := by
  rw [members_eq, List.mem_filterMap] at member
  obtain ⟨entry, inside, made⟩ := member
  obtain ⟨low, high, found⟩ := mem_numberedLines.mp inside
  exact ⟨entry, low, high, found, made⟩

theorem memberAt?_run {lines : List Line} {first : Nat} {scope : Scope} {owner : Owner}
    {entry : Line × Nat} {m : Extracted} (made : memberAt? lines first scope owner entry = some m) :
    ∃ header, FunctionHeader.parse? entry.1 = some header ∧ scope.accepts header.indent = true ∧
      m = Extracted.ofHeader lines entry.2 header
        (decoratorNames header.indent (decoratorRun ((lines.take entry.2).drop first)))
        scope owner := by
  obtain ⟨header, found, rfl⟩ := Option.map_eq_some_iff.mp made
  obtain ⟨parsed, accepted⟩ := Scope.header?_eq_some_iff.mp found
  exact ⟨header, parsed, accepted, rfl⟩

theorem memberAt?_eq_some {lines : List Line} {first : Nat} {scope : Scope} {owner : Owner}
    {entry : Line × Nat} {m : Extracted} (made : memberAt? lines first scope owner entry = some m) :
    ∃ header decorators, FunctionHeader.parse? entry.1 = some header ∧
      scope.accepts header.indent = true ∧
      m = Extracted.ofHeader lines entry.2 header decorators scope owner := by
  obtain ⟨header, parsed, accepted, same⟩ := memberAt?_run made
  exact ⟨header, _, parsed, accepted, same⟩

/-- All that the scan can list: a header that stands where the scope wants it, with the decorators
above it. -/
theorem exists_header_of_mem_members {lines : List Line} {first last : Nat} {scope : Scope}
    {owner : Owner} {m : Extracted} (member : m ∈ members lines first last scope owner) :
    ∃ idx line header, first ≤ idx ∧ idx ≤ last ∧ lines[idx]? = some line ∧
      FunctionHeader.parse? line = some header ∧ scope.accepts header.indent = true ∧
      m = Extracted.ofHeader lines idx header
        (decoratorNames header.indent (decoratorRun ((lines.take idx).drop first)))
        scope owner := by
  obtain ⟨⟨line, idx⟩, low, high, found, made⟩ := mem_members member
  obtain ⟨header, parsed, accepted, same⟩ := memberAt?_run made
  exact ⟨idx, line, header, low, high, found, parsed, accepted, same⟩

/-- Members are listed in the order of their lines, so a relation between any two of them needs to
be shown for an earlier and a later line only. -/
theorem members_pairwise {lines : List Line} {first last : Nat} {scope : Scope} {owner : Owner}
    {R : Extracted → Extracted → Prop}
    (related : ∀ i j a b, i.2 < j.2 → lines[i.2]? = some i.1 → lines[j.2]? = some j.1 →
      memberAt? lines first scope owner i = some a → memberAt? lines first scope owner j = some b →
      R a b) :
    (members lines first last scope owner).Pairwise R := by
  rw [members_eq, List.pairwise_filterMap]
  refine (zipIdx_increasing _ first).imp_of_mem ?_
  intro i j atI atJ before a madeA b madeB
  exact related i j a b before (mem_numberedLines.mp atI).2.2 (mem_numberedLines.mp atJ).2.2
    madeA madeB

end Outline.Source
