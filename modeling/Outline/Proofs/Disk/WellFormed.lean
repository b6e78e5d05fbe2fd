import Mathlib.Data.List.MinMax
import Mathlib.Data.List.Nodup
import Mathlib.Order.Nat
import Outline.Proofs.Disk.Place
import Outline.Proofs.Text.Trim

namespace Outline

namespace FileTree

variable {tree : FileTree} {location directory : Location} {name : Name} {entry : Entry}

theorem find?_eq_some_iff (below : location ≠ []) :
    tree.find? location = some entry ↔ (location, entry) ∈ tree.entries := by
  unfold find?
  rw [if_neg below]
  constructor
  · intro found
    obtain ⟨⟨place, held⟩, first, rfl⟩ := Option.map_eq_some_iff.mp found
    have here : place = location := by simpa using List.find?_some first
    rw [← here]
    exact List.mem_of_find?_eq_some first
  · intro member
    cases first : tree.entries.find? (·.1 = location) with
    | none => simpa using List.find?_eq_none.mp first _ member
    | some other =>
      have same : other.1 = location := by simpa using List.find?_some first
      have listed := List.mem_of_find?_eq_some first
      rw [List.inj_on_of_nodup_map tree.distinct listed member same, Option.map_some]

theorem mem_children :
    (name, entry) ∈ tree.children directory ↔ tree.find? (directory ++ [name]) = some entry := by
  have below : directory ++ [name] ≠ [] := by simp
  constructor
  · intro member
    obtain ⟨⟨location, held⟩, listed, kept⟩ := List.mem_filterMap.mp member
    obtain ⟨last, named, same⟩ := Option.map_eq_some_iff.mp kept
    cases same
    rw [Location.nameIn?_eq_some_iff.mp named] at listed
    exact (find?_eq_some_iff below).mpr listed
  · intro found
    have named : Location.nameIn? (directory ++ [name]) directory = some name :=
      Location.nameIn?_eq_some_iff.mpr rfl
    have listed := (find?_eq_some_iff below).mp found
    refine List.mem_filterMap.mpr ⟨(directory ++ [name], entry), listed, ?_⟩
    dsimp only
    rw [named, Option.map_some]

theorem pairwise_children (tree : FileTree) (directory : Location) :
    (tree.children directory).Pairwise fun a b => a.1 ≠ b.1 := by
  unfold children
  rw [List.pairwise_filterMap]
  have distinct := List.pairwise_map.mp tree.distinct
  refine distinct.imp ?_
  rintro ⟨first, held⟩ ⟨second, other⟩ apart a kept b listed same
  obtain ⟨name, named, rfl⟩ := Option.map_eq_some_iff.mp kept
  obtain ⟨last, also, rfl⟩ := Option.map_eq_some_iff.mp listed
  cases same
  have whole := Location.nameIn?_eq_some_iff.mp named
  rw [← Location.nameIn?_eq_some_iff.mp also] at whole
  exact apart whole

theorem length_le_depth (found : tree.find? location = some entry) :
    location.length ≤ tree.depth := by
  by_cases top : location = []
  · simp [top]
  · have member : location.length ∈ tree.entries.map (·.1.length) :=
      List.mem_map.mpr ⟨_, (find?_eq_some_iff top).mp found, rfl⟩
    exact List.le_max_of_le member le_rfl

/-- Everything stands in a directory, under a plain name. -/
structure WellFormed (tree : FileTree) : Prop where
  parent : ∀ {directory : Location} {name : Name} {entry : Entry},
    tree.find? (directory ++ [name]) = some entry → tree.find? directory = some .directory
  plain : ∀ {directory : Location} {name : Name} {entry : Entry},
    tree.find? (directory ++ [name]) = some entry → name.IsPlain

theorem wellFormed_empty : empty.WellFormed := by
  have nothing : ∀ (directory : Location) (name : Name),
      empty.find? (directory ++ [name]) = none := by
    intro directory name
    simp [find?, empty]
  constructor
  · intro directory name entry found
    rw [nothing] at found
    cases found
  · intro directory name entry found
    rw [nothing] at found
    cases found

theorem WellFormed.directory_above (wellFormed : tree.WellFormed) {rest : List Name}
    (further : rest ≠ []) (found : tree.find? (location ++ rest) = some entry) :
    tree.find? location = some .directory := by
  induction rest generalizing location with
  | nil => exact absurd rfl further
  | cons name rest ih =>
    rw [List.append_cons] at found
    by_cases last : rest = []
    · rw [last, List.append_nil] at found
      exact wellFormed.parent found
    · exact wellFormed.parent (ih last found)

theorem WellFormed.plain_of_mem (wellFormed : tree.WellFormed) {rest : List Name}
    (found : tree.find? (location ++ rest) = some entry) : ∀ name ∈ rest, name.IsPlain := by
  intro name member
  obtain ⟨front, behind, rfl⟩ := List.append_of_mem member
  by_cases last : behind = []
  · subst last
    rw [← List.append_assoc] at found
    exact wellFormed.plain found
  · rw [List.append_cons, ← List.append_assoc] at found
    have above := wellFormed.directory_above last found
    rw [← List.append_assoc] at above
    exact wellFormed.plain above

/-- A tree stays well formed when something is put in one of its directories and no directory is
lost. -/
theorem WellFormed.put (wellFormed : tree.WellFormed) (plain : name.IsPlain)
    (inside : tree.find? directory = some .directory)
    (free : tree.find? (directory ++ [name]) ≠ some .directory) (entry : Entry) :
    (tree.put (directory ++ [name]) entry).WellFormed := by
  have keeps : ∀ {place : Location}, tree.find? place = some .directory →
      (tree.put (directory ++ [name]) entry).find? place = some .directory := by
    intro place held
    rw [find?_put_of_ne]
    · exact held
    · rintro rfl
      exact free held
  constructor
  · intro above last held found
    by_cases same : above ++ [last] = directory ++ [name]
    · rw [(List.append_inj_left' same rfl : above = directory)]
      exact keeps inside
    · rw [find?_put_of_ne _ _ _ same] at found
      exact keeps (wellFormed.parent found)
  · intro above last held found
    by_cases same : above ++ [last] = directory ++ [name]
    · have named : [last] = [name] := List.append_inj_right' same rfl
      cases named
      exact plain
    · rw [find?_put_of_ne _ _ _ same] at found
      exact wellFormed.plain found

end FileTree

namespace Disk

variable {disk : Disk} {path : Path}

theorem of_mem_segments {name : Name} (faultless : pathFault? path = none)
    (member : name ∈ path.segments) : Path.slash ∉ name ∧ (0 : UInt8) ∉ name := by
  obtain ⟨noZero, -⟩ := pathFault?_eq_none.mp faultless
  constructor
  · intro slash
    have other := (Text.of_mem_splitOnP member slash).1
    simp at other
  · intro zero
    exact noZero (Text.of_mem_splitOnP member zero).2

theorem mem_segments_of_mem_namedSegments {name : Name} (member : name ∈ namedSegments path) :
    name ∈ path.segments := by
  have listed := (List.dropWhile_suffix _).subset (List.mem_reverse.mp member)
  exact List.mem_reverse.mp listed

theorem of_locateNew {unnamed : DiskFault} {location : Location}
    (found : disk.locateNew path unnamed = .ok location) :
    ∃ directory name, location = directory ++ [name] ∧ name.IsPlain ∧
      disk.tree.find? directory = some .directory := by
  unfold locateNew at found
  cases fault : pathFault? path with
  | some fault =>
    rw [fault] at found
    cases found
  | none =>
    rw [fault] at found
    dsimp only at found
    cases last : (namedSegments path).getLast? with
    | none =>
      rw [last] at found
      cases found
    | some name =>
      rw [last] at found
      dsimp only at found
      obtain ⟨above, -, found⟩ := bind_eq_ok found
      obtain ⟨there, final, found⟩ := bind_eq_ok found
      have member := mem_segments_of_mem_namedSegments (List.mem_of_getLast? last)
      obtain ⟨noSlash, noZero⟩ := of_mem_segments fault member
      have directory := step_ok final
      split at found
      · cases found
      · rename_i named
        cases found
        simp only [Path.isTrivial, Bool.or_eq_true, beq_iff_eq, decide_eq_true_eq, not_or] at named
        obtain ⟨⟨filled, notHere⟩, notAbove⟩ := named
        have short : ¬maxNameLength < name.length := by
          intro long
          simp [step, directory, Path.isTrivial, filled, notHere, notAbove, long] at final
        have plain : name.IsPlain :=
          ⟨filled, noSlash, noZero, notHere, notAbove, Nat.le_of_not_lt short⟩
        rw [step_of_isPlain plain directory] at final
        cases final
        exact ⟨above, name, rfl, plain, directory⟩

theorem wellFormed_makeDirectory (wellFormed : disk.tree.WellFormed) (path : Path) :
    (disk.makeDirectory path).1.tree.WellFormed := by
  unfold makeDirectory
  split
  · exact wellFormed
  · rename_i location found
    split
    · exact wellFormed
    · rename_i nothing
      obtain ⟨directory, name, rfl, plain, inside⟩ := of_locateNew found
      exact wellFormed.put plain inside (by simp [nothing]) _

theorem wellFormed_putFile (wellFormed : disk.tree.WellFormed) {location : Location}
    (found : disk.locateFile path = .ok location) (content : ByteArray) :
    (disk.putFile location content).tree.WellFormed := by
  obtain ⟨new, -, free⟩ := locateFile_ok found
  obtain ⟨directory, name, rfl, plain, inside⟩ := of_locateNew new
  exact wellFormed.put plain inside free _

end Disk

end Outline
