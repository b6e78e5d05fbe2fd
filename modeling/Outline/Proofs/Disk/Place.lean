import Outline.Proofs.Disk.Write

namespace Outline

structure Name.IsPlain (name : Name) : Prop where
  filled : name ≠ []
  noSlash : Path.slash ∉ name
  noZero : (0 : UInt8) ∉ name
  notHere : name ≠ [Path.dot]
  notAbove : name ≠ [Path.dot, Path.dot]
  short : name.length ≤ Disk.maxNameLength

instance (name : Name) : Decidable name.IsPlain :=
  decidable_of_iff (name ≠ [] ∧ Path.slash ∉ name ∧ (0 : UInt8) ∉ name ∧ name ≠ [Path.dot] ∧
      name ≠ [Path.dot, Path.dot] ∧ name.length ≤ Disk.maxNameLength)
    ⟨fun ⟨filled, noSlash, noZero, notHere, notAbove, short⟩ =>
      ⟨filled, noSlash, noZero, notHere, notAbove, short⟩,
    fun ⟨filled, noSlash, noZero, notHere, notAbove, short⟩ =>
      ⟨filled, noSlash, noZero, notHere, notAbove, short⟩⟩

namespace Path

variable {path : Path} {name : Name}

theorem isAbsolute_of_noSlash (noSlash : slash ∉ name) : isAbsolute ⟨name⟩ = false := by
  cases name with
  | nil => rfl
  | cons b rest => simpa [isAbsolute] using Ne.symm (List.ne_of_not_mem_cons noSlash)

theorem join_of_slash (filled : path.bytes ≠ []) (noSlash : slash ∉ name)
    (ends : path.bytes.getLast? = some slash) : path.join ⟨name⟩ = ⟨path.bytes ++ name⟩ := by
  simp [join, isAbsolute_of_noSlash noSlash, filled, ends]

theorem join_of_not_slash (filled : path.bytes ≠ []) (noSlash : slash ∉ name)
    (ends : path.bytes.getLast? ≠ some slash) :
    path.join ⟨name⟩ = ⟨path.bytes ++ slash :: name⟩ := by
  simp [join, isAbsolute_of_noSlash noSlash, filled, ends]

/-- The name comes behind the other segments, or takes the place of an empty last one. -/
theorem segments_join (filled : path.bytes ≠ []) (noSlash : slash ∉ name) :
    (path.join ⟨name⟩).segments = path.segments ++ [name] ∨
      ∃ front, front ≠ [] ∧ path.segments = front ++ [[]] ∧
        (path.join ⟨name⟩).segments = front ++ [name] := by
  have single : name.splitOnP (· == slash) = [name] :=
    List.splitOnP_eq_singleton fun b member => by
      have other : b ≠ slash := ne_of_mem_of_not_mem member noSlash
      simpa using other
  by_cases ends : path.bytes.getLast? = some slash
  · right
    obtain ⟨front, whole⟩ := List.getLast?_eq_some_iff.mp ends
    refine ⟨front.splitOnP (· == slash), List.splitOnP_ne_nil _ _, ?_, ?_⟩
    · rw [segments, whole]
      exact List.splitOnP_append_cons front [] (by simp)
    · rw [join_of_slash filled noSlash ends, segments, whole, List.append_assoc]
      exact (List.splitOnP_append_cons front name (by simp)).trans (by rw [single])
  · left
    rw [join_of_not_slash filled noSlash ends]
    exact (List.splitOnP_append_cons path.bytes name (by simp)).trans (by rw [single]; rfl)

theorem isAbsolute_join (filled : path.bytes ≠ []) (noSlash : slash ∉ name) :
    (path.join ⟨name⟩).isAbsolute = path.isAbsolute := by
  unfold isAbsolute
  by_cases ends : path.bytes.getLast? = some slash
  · rw [join_of_slash filled noSlash ends, List.head?_append, List.head?_eq_some_head filled,
      Option.some_or]
  · rw [join_of_not_slash filled noSlash ends, List.head?_append, List.head?_eq_some_head filled,
      Option.some_or]

theorem mem_join (filled : path.bytes ≠ []) (noSlash : slash ∉ name) {b : UInt8}
    (other : b ≠ slash) : b ∈ (path.join ⟨name⟩).bytes ↔ b ∈ path.bytes ∨ b ∈ name := by
  by_cases ends : path.bytes.getLast? = some slash
  · rw [join_of_slash filled noSlash ends, List.mem_append]
  · rw [join_of_not_slash filled noSlash ends]
    simp [other]

theorem length_lt_join (filled : path.bytes ≠ []) (plain : name.IsPlain) :
    path.bytes.length < (path.join ⟨name⟩).bytes.length := by
  have positive := List.length_pos_iff.mpr plain.filled
  by_cases ends : path.bytes.getLast? = some slash
  · rw [join_of_slash filled plain.noSlash ends, List.length_append]
    omega
  · rw [join_of_not_slash filled plain.noSlash ends, List.length_append, List.length_cons]
    omega

theorem join_ne_nil (filled : path.bytes ≠ []) (plain : name.IsPlain) :
    (path.join ⟨name⟩).bytes ≠ [] := by
  have longer := length_lt_join filled plain
  exact List.ne_nil_of_length_pos (by omega)

theorem getLast?_join (filled : path.bytes ≠ []) (plain : name.IsPlain) :
    (path.join ⟨name⟩).bytes.getLast? ≠ some slash := by
  intro same
  have last : name.getLast? = some slash := by
    by_cases ends : path.bytes.getLast? = some slash
    · rwa [join_of_slash filled plain.noSlash ends, List.getLast?_append,
        List.getLast?_eq_some_getLast plain.filled, Option.some_or,
        ← List.getLast?_eq_some_getLast] at same
    · rwa [join_of_not_slash filled plain.noSlash ends, List.getLast?_append,
        List.getLast?_cons_of_ne_nil plain.filled, List.getLast?_eq_some_getLast plain.filled,
        Option.some_or, ← List.getLast?_eq_some_getLast] at same
  exact plain.noSlash (List.mem_of_getLast? last)

end Path

namespace Disk

variable {disk : Disk} {path : Path} {name : Name}

theorem entry_of_isFile (file : disk.isFile path = true) :
    ∃ content, disk.entry path = .ok (.file content) := by
  unfold isFile at file
  split at file
  · rename_i content found
    exact ⟨content, found⟩
  · cases file

theorem entry_of_isDirectory (directory : disk.isDirectory path = true) :
    disk.entry path = .ok .directory := by
  unfold isDirectory at directory
  split at directory
  · assumption
  · cases directory

theorem locate_of_entry {entry : Entry} (found : disk.entry path = .ok entry) :
    ∃ location, disk.locate path = .ok location ∧ disk.tree.find? location = some entry := by
  unfold Disk.entry at found
  cases located : disk.locate path with
  | error fault =>
    rw [located] at found
    cases found
  | ok location =>
    rw [located] at found
    dsimp only at found
    cases there : disk.tree.find? location with
    | none =>
      rw [there] at found
      cases found
    | some held =>
      rw [there] at found
      cases found
      exact ⟨location, rfl, there⟩

theorem entry_of_locate {location : Location} {entry : Entry}
    (located : disk.locate path = .ok location) (found : disk.tree.find? location = some entry) :
    disk.entry path = .ok entry := by
  simp [Disk.entry, located, found]

theorem pathFault?_eq_none :
    pathFault? path = none ↔
      (0 : UInt8) ∉ path.bytes ∧ path.bytes ≠ [] ∧ path.bytes.length < maxPathLength := by
  unfold pathFault?
  split
  · simp_all
  · split
    · simp_all
    · simp_all

theorem locate_ok {location : Location} (located : disk.locate path = .ok location) :
    pathFault? path = none ∧
      path.segments.foldlM (step disk.tree) (disk.start path) = .ok location := by
  unfold locate at located
  cases fault : pathFault? path with
  | none =>
    rw [fault] at located
    exact ⟨rfl, located⟩
  | some fault' =>
    rw [fault] at located
    cases located

theorem length_lt_of_isFile (file : disk.isFile path = true) :
    path.bytes.length < maxPathLength := by
  obtain ⟨content, there⟩ := entry_of_isFile file
  obtain ⟨location, leads, -⟩ := locate_of_entry there
  exact (pathFault?_eq_none.mp (locate_ok leads).1).2.2

theorem step_step (tree : FileTree) (here : Location) (name : Name) :
    (step tree here [] >>= fun there => step tree there name) = step tree here name := by
  cases found : tree.find? here with
  | none => simp [step, found, bind, Except.bind]
  | some entry =>
    cases entry with
    | file content => simp [step, found, bind, Except.bind]
    | directory => simp [step, found, Path.isTrivial, bind, Except.bind]

theorem foldlM_step_join (tree : FileTree) (start : Location) (filled : path.bytes ≠ [])
    (noSlash : Path.slash ∉ name) :
    (path.join ⟨name⟩).segments.foldlM (step tree) start =
      path.segments.foldlM (step tree) start >>= fun here => step tree here name := by
  rcases Path.segments_join filled noSlash with parts | ⟨front, -, parts, joined⟩
  · rw [parts, List.foldlM_append]
    simp only [List.foldlM_cons, List.foldlM_nil, bind_pure]
  · rw [parts, joined, List.foldlM_append, List.foldlM_append]
    simp only [List.foldlM_cons, List.foldlM_nil, bind_pure, bind_assoc, step_step]

theorem start_join (filled : path.bytes ≠ []) (noSlash : Path.slash ∉ name) :
    disk.start (path.join ⟨name⟩) = disk.start path := by
  rw [start, start, Path.isAbsolute_join filled noSlash]

theorem pathFault?_of_join (filled : path.bytes ≠ []) (plain : name.IsPlain)
    (faultless : pathFault? (path.join ⟨name⟩) = none) : pathFault? path = none := by
  obtain ⟨noZero, -, short⟩ := pathFault?_eq_none.mp faultless
  have longer := Path.length_lt_join filled plain
  rw [Path.mem_join filled plain.noSlash (by decide)] at noZero
  exact pathFault?_eq_none.mpr ⟨fun zero => noZero (.inl zero), filled, by omega⟩

theorem locate_join (filled : path.bytes ≠ []) (plain : name.IsPlain)
    (faultless : pathFault? (path.join ⟨name⟩) = none) :
    disk.locate (path.join ⟨name⟩) =
      disk.locate path >>= fun here => step disk.tree here name := by
  rw [locate, locate, faultless, pathFault?_of_join filled plain faultless]
  dsimp only
  rw [start_join filled plain.noSlash, foldlM_step_join _ _ filled plain.noSlash]

theorem step_of_isPlain {tree : FileTree} {here : Location} (plain : name.IsPlain)
    (directory : tree.find? here = some .directory) :
    step tree here name = .ok (here ++ [name]) := by
  have short := plain.short
  simp [step, directory, Path.isTrivial, plain.filled, plain.notHere, plain.notAbove]
  omega

theorem locate_of_locate_join {there : Location} (filled : path.bytes ≠ [])
    (plain : name.IsPlain) (located : disk.locate (path.join ⟨name⟩) = .ok there) :
    ∃ here, disk.locate path = .ok here ∧ disk.tree.find? here = some .directory ∧
      there = here ++ [name] := by
  rw [locate_join filled plain (locate_ok located).1] at located
  obtain ⟨here, before, last⟩ := bind_eq_ok located
  have directory := step_ok last
  rw [step_of_isPlain plain directory] at last
  cases last
  exact ⟨here, before, directory, rfl⟩

theorem locateNew_join (filled : path.bytes ≠ []) (plain : name.IsPlain) (unnamed : DiskFault) :
    disk.locateNew (path.join ⟨name⟩) unnamed = disk.locate (path.join ⟨name⟩) := by
  obtain ⟨front, parts⟩ : ∃ front, (path.join ⟨name⟩).segments = front ++ [name] := by
    rcases Path.segments_join filled plain.noSlash with parts | ⟨front, -, -, parts⟩
    · exact ⟨_, parts⟩
    · exact ⟨front, parts⟩
  have named : namedSegments (path.join ⟨name⟩) = front ++ [name] := by
    rw [namedSegments_eq (Path.join_ne_nil filled plain) (Path.getLast?_join filled plain), parts]
  have leads : (Path.isTrivial name || name = [Path.dot, Path.dot]) = false := by
    simp [Path.isTrivial, plain.filled, plain.notHere, plain.notAbove]
  unfold locateNew locate
  cases pathFault? (path.join ⟨name⟩) with
  | some fault => rfl
  | none =>
    simp only [named, parts, List.getLast?_concat, List.dropLast_concat, List.foldlM_append, leads,
      List.foldlM_cons, List.foldlM_nil]
    rfl

/-- What one new directory preserves is preserved by a directory with those above it. -/
theorem makeDirectoriesAlong_preserves {Holds : Disk → Prop}
    (step : ∀ disk path, Holds disk → Holds (disk.makeDirectory path).1) (paths : List Path)
    (disk : Disk) (holds : Holds disk) : Holds (disk.makeDirectoriesAlong paths).1 := by
  -- Only a directory that could not be made leads to the ones above it, and back to itself.
  induction paths generalizing disk with
  | nil => exact holds
  | cons path above ih =>
    have first := step disk path holds
    unfold makeDirectoriesAlong
    split
    · rename_i made done
      rwa [done] at first
    · rename_i left failed
      rw [failed] at first
      have further := ih left first
      split
      · rename_i stopped fault ended
        rwa [ended] at further
      · rename_i ready done
        rw [done] at further
        have again := step ready path further
        split
        · rename_i made finished
          rwa [finished] at again
        · rename_i last fault failed
          rw [failed] at again
          split <;> exact again
    · rename_i left fault failed other
      rw [other] at first
      split <;> exact first

end Disk

end Outline
