import Mathlib.Data.List.Induction
import Mathlib.Data.List.Lex
import Outline.Proofs.Disk.Place
import Outline.Scan.Basic

namespace Outline

inductive Component where
  | root
  | here
  | above
  | name (name : Name)
deriving Repr, DecidableEq

namespace Component

def ofSegment (segment : Name) : Component :=
  if segment = [Path.dot, Path.dot] then .above else .name segment

def rank : Component → Nat
  | .root => 0
  | .here => 1
  | .above => 2
  | .name _ => 3

/-- Names are compared byte by byte, and come behind all other components. -/
def Precedes : Component → Component → Prop
  | .name a, .name b => a < b
  | a, b => a.rank < b.rank

theorem not_precedes_self (component : Component) : ¬component.Precedes component := by
  cases component with
  | name name => exact List.lt_irrefl name
  | _ => exact Nat.lt_irrefl _

end Component

namespace Path

def components (path : Path) : List Component :=
  (if path.isAbsolute then [.root]
    else if path.segments.head? = some [dot] then [.here] else []) ++
    (path.segments.filter (!isTrivial ·)).map .ofSegment

def Precedes (a b : Path) : Prop := List.Lex Component.Precedes a.components b.components

theorem Precedes.ne {a b : Path} (before : a.Precedes b) : a ≠ b := by
  rintro rfl
  exact List.lex_irrefl Component.not_precedes_self _ before

theorem components_join {path : Path} {name : Name} (filled : path.bytes ≠ [])
    (plain : name.IsPlain) : (path.join ⟨name⟩).components = path.components ++ [.name name] := by
  have leads : isTrivial name = false := by
    simp [isTrivial, plain.filled, plain.notHere]
  have named : Component.ofSegment name = .name name := by
    simp [Component.ofSegment, plain.notAbove]
  unfold components
  rw [isAbsolute_join filled plain.noSlash]
  rcases segments_join filled plain.noSlash with parts | ⟨front, nonempty, before, parts⟩
  · have nonempty : path.segments ≠ [] := List.splitOnP_ne_nil _ _
    rw [parts, List.head?_append, List.head?_eq_some_head nonempty, Option.some_or]
    simp [leads, named]
  · rw [parts, before, List.head?_append, List.head?_append,
      List.head?_eq_some_head nonempty, Option.some_or, Option.some_or]
    have empty : isTrivial [] = true := rfl
    simp [leads, named, empty]

end Path

namespace Scan

variable {root : Path} {names others : List Name}

theorem pathBelow_concat (root : Path) (names : List Name) (name : Name) :
    pathBelow root (names ++ [name]) = (pathBelow root names).join ⟨name⟩ := by
  rw [pathBelow, List.foldl_append]
  rfl

theorem pathBelow_ne_nil (filled : root.bytes ≠ []) (plain : ∀ name ∈ names, name.IsPlain) :
    (pathBelow root names).bytes ≠ [] := by
  induction names using List.reverseRecOn with
  | nil => exact filled
  | append_singleton names name ih =>
    rw [pathBelow_concat]
    exact Path.join_ne_nil (ih fun n member => plain n (by simp [member])) (plain name (by simp))

theorem components_pathBelow (filled : root.bytes ≠ []) (plain : ∀ name ∈ names, name.IsPlain) :
    (pathBelow root names).components = root.components ++ names.map .name := by
  induction names using List.reverseRecOn with
  | nil => simp [pathBelow]
  | append_singleton names name ih =>
    have before : ∀ n ∈ names, n.IsPlain := fun n member => plain n (by simp [member])
    have last := plain name (by simp)
    rw [pathBelow_concat, Path.components_join (pathBelow_ne_nil filled before) last, ih before]
    simp

theorem lex_map_name (before : names < others) :
    List.Lex Component.Precedes (names.map .name) (others.map .name) := by
  have lex : List.Lex (· < ·) names others := before
  induction lex with
  | nil => exact .nil
  | cons _ ih => exact .cons (ih ‹_›)
  | rel less => exact .rel less

theorem precedes_pathBelow (filled : root.bytes ≠ []) (plain : ∀ name ∈ names, name.IsPlain)
    (alsoPlain : ∀ name ∈ others, name.IsPlain) (before : names < others) :
    (pathBelow root names).Precedes (pathBelow root others) := by
  unfold Path.Precedes
  rw [components_pathBelow filled plain, components_pathBelow filled alsoPlain]
  exact .append_left _ (lex_map_name before) _

theorem comesBefore_trans (a b c : List Name × Nat) (first : comesBefore a b = true)
    (second : comesBefore b c = true) : comesBefore a c = true := by
  unfold comesBefore at first second ⊢
  rw [decide_eq_true_eq] at first second ⊢
  exact List.le_trans first second

theorem comesBefore_total (a b : List Name × Nat) :
    (comesBefore a b || comesBefore b a) = true := by
  unfold comesBefore
  rw [Bool.or_eq_true, decide_eq_true_eq, decide_eq_true_eq]
  exact List.le_total a.1 b.1

theorem pairwise_lt_mergeSort {files : List (List Name × Nat)}
    (distinct : files.Pairwise fun a b => a.1 ≠ b.1) :
    (files.mergeSort comesBefore).Pairwise fun a b => a.1 < b.1 := by
  have ordered := List.pairwise_mergeSort comesBefore_trans comesBefore_total files
  have apart := ((List.mergeSort_perm files comesBefore).pairwise_iff Ne.symm).mpr distinct
  refine ordered.imp₂ ?_ apart
  intro a b before different
  exact Std.lt_of_le_of_ne (by simpa [comesBefore] using before) different

end Scan

end Outline
