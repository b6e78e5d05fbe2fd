import Outline.Disk.Basic
import Outline.Proofs.Config.Load

namespace Outline

theorem getLast?_splitOnP {bytes : List UInt8} (filled : bytes ≠ [])
    (ends : bytes.getLast? ≠ some Path.slash) :
    ∃ name, (bytes.splitOnP (· == Path.slash)).getLast? = some name ∧ name ≠ [] := by
  induction bytes with
  | nil => exact absurd rfl filled
  | cons b rest ih =>
    rw [List.splitOnP_cons_eq_if_modifyHead]
    by_cases last : rest = []
    · subst last
      have other : b ≠ Path.slash := fun same => ends (by rw [same]; rfl)
      exact ⟨[b], by simp [other], by simp⟩
    · have later : rest.getLast? ≠ some Path.slash := by
        rwa [List.getLast?_cons_of_ne_nil last] at ends
      obtain ⟨name, found, nonempty⟩ := ih last later
      cases parts : rest.splitOnP (· == Path.slash) with
      | nil => exact absurd parts (List.splitOnP_ne_nil _ _)
      | cons first others =>
        rw [parts] at found
        split
        · exact ⟨name, by simpa using found, nonempty⟩
        · rw [List.modifyHead_cons]
          cases others with
          | nil => exact ⟨b :: first, rfl, by simp⟩
          | cons second others => exact ⟨name, by simpa using found, nonempty⟩

namespace Disk

theorem namedSegments_eq {path : Path} (filled : path.bytes ≠ [])
    (ends : path.bytes.getLast? ≠ some Path.slash) : namedSegments path = path.segments := by
  obtain ⟨name, found, nonempty⟩ := getLast?_splitOnP filled ends
  have reversed : path.segments.reverse.head? = some name := by
    rw [List.head?_reverse]
    exact found
  rw [namedSegments]
  cases parts : path.segments.reverse with
  | nil =>
    rw [parts] at reversed
    cases reversed
  | cons last others =>
    rw [parts] at reversed
    cases reversed
    rw [List.dropWhile_cons_of_neg (by simpa using nonempty), ← parts, List.reverse_reverse]

theorem step_ok {tree : FileTree} {here location : Location} {segment : Name}
    (led : step tree here segment = .ok location) : tree.find? here = some .directory := by
  unfold step at led
  cases found : tree.find? here with
  | none =>
    rw [found] at led
    cases led
  | some entry =>
    cases entry with
    | directory => rfl
    | file content =>
      rw [found] at led
      cases led

theorem step_congr {tree other : FileTree} {here : Location}
    (directory : tree.find? here = some .directory) (kept : other.find? here = some .directory)
    (segment : Name) : step other here segment = step tree here segment := by
  rw [step, step, directory, kept]

theorem foldlM_step_of_kept {tree other : FileTree}
    (kept : ∀ here, tree.find? here = some .directory → other.find? here = some .directory)
    {segments : List Name} {start location : Location}
    (led : segments.foldlM (step tree) start = .ok location) :
    segments.foldlM (step other) start = .ok location := by
  induction segments generalizing start with
  | nil => exact led
  | cons segment segments ih =>
    rw [List.foldlM_cons] at led ⊢
    obtain ⟨next, first, later⟩ := bind_eq_ok led
    have directory := step_ok first
    rw [step_congr directory (kept start directory), first]
    exact ih later

theorem locateNew_ok {disk : Disk} {path : Path} {unnamed : DiskFault} {location : Location}
    (found : disk.locateNew path unnamed = .ok location)
    (ends : path.bytes.getLast? ≠ some Path.slash) :
    pathFault? path = none ∧
      path.segments.foldlM (step disk.tree) (disk.start path) = .ok location := by
  unfold locateNew at found
  cases fault : pathFault? path with
  | some fault =>
    rw [fault] at found
    cases found
  | none =>
    have nonempty : path.bytes ≠ [] := by
      intro empty
      simp [pathFault?, empty] at fault
    rw [fault] at found
    dsimp only at found
    rw [namedSegments_eq nonempty ends] at found
    cases last : path.segments.getLast? with
    | none =>
      rw [last] at found
      cases found
    | some name =>
      rw [last] at found
      dsimp only at found
      obtain ⟨above, upTo, found⟩ := bind_eq_ok found
      obtain ⟨there, final, found⟩ := bind_eq_ok found
      split at found
      · cases found
      · cases found
        obtain ⟨front, whole⟩ := List.getLast?_eq_some_iff.mp last
        rw [whole, List.dropLast_concat] at upTo
        refine ⟨rfl, ?_⟩
        rw [whole, List.foldlM_append, upTo]
        exact (bind_pure _).trans final

theorem locateFile_ok {disk : Disk} {path : Path} {location : Location}
    (found : disk.locateFile path = .ok location) :
    disk.locateNew path .isDirectory = .ok location ∧ path.bytes.getLast? ≠ some Path.slash ∧
      disk.tree.find? location ≠ some .directory := by
  unfold locateFile at found
  cases new : disk.locateNew path .isDirectory with
  | error fault =>
    rw [new] at found
    cases found
  | ok place =>
    rw [new] at found
    dsimp only at found
    split at found
    · cases found
    · rename_i ends
      split at found
      · cases found
      · rename_i free
        cases found
        exact ⟨rfl, by simpa using ends, free⟩

theorem find?_putFile_of_directory {disk : Disk} {location here : Location} (content : ByteArray)
    (free : disk.tree.find? location ≠ some .directory)
    (directory : disk.tree.find? here = some .directory) :
    (disk.putFile location content).tree.find? here = some .directory := by
  rw [putFile, FileTree.find?_put_of_ne]
  · exact directory
  · rintro rfl
    exact free directory

theorem locate_putFile {disk : Disk} {path : Path} {location : Location}
    (found : disk.locateFile path = .ok location) (content : ByteArray) :
    location ≠ [] ∧ (disk.putFile location content).locate path = .ok location := by
  obtain ⟨new, ends, free⟩ := locateFile_ok found
  obtain ⟨faultless, led⟩ := locateNew_ok new ends
  have below : location ≠ [] := by
    rintro rfl
    exact free rfl
  refine ⟨below, ?_⟩
  rw [locate, faultless]
  exact foldlM_step_of_kept (fun _ => find?_putFile_of_directory content free) led

/-- A write cannot open its file and changes nothing, or puts there what is taken of the content. -/
theorem write_cases (disk : Disk) (path : Path) (content : ByteArray) :
    (∃ fault, disk.write path content = (disk, .error fault)) ∨
    ∃ location, disk.locateFile path = .ok location ∧ disk.write path content =
      (disk.putFile location (disk.taken location content).1, (disk.taken location content).2) := by
  unfold write
  cases disk.locateFile path with
  | error fault => exact .inl ⟨fault, rfl⟩
  | ok location => exact .inr ⟨location, rfl, rfl⟩

theorem taken_ok {disk : Disk} {location : Location} {content : ByteArray}
    (complete : (disk.taken location content).2 = .ok ()) :
    disk.outage location content = none ∧ (disk.taken location content).1 = content := by
  unfold taken at complete ⊢
  cases broken : disk.outage location content with
  | none => exact ⟨rfl, rfl⟩
  | some failure =>
    rw [broken] at complete
    cases complete

theorem taken_error {disk : Disk} {location : Location} {content : ByteArray} {fault : DiskFault}
    (partly : (disk.taken location content).2 = .error fault) :
    ∃ count words, disk.outage location content = some (count, words) ∧ fault = .other words ∧
      (disk.taken location content).1 = content.extract 0 count := by
  unfold taken at partly ⊢
  cases broken : disk.outage location content with
  | none =>
    rw [broken] at partly
    cases partly
  | some failure =>
    rw [broken] at partly
    cases partly
    exact ⟨failure.1, failure.2, rfl, rfl, rfl⟩

theorem write_ok {disk after : Disk} {path : Path} {content : ByteArray}
    (done : disk.write path content = (after, .ok ())) :
    ∃ location, disk.locateFile path = .ok location ∧ disk.outage location content = none ∧
      after = disk.putFile location content := by
  rcases write_cases disk path content with ⟨fault, failed⟩ | ⟨location, found, wrote⟩
  · rw [done] at failed
    cases failed
  · rw [done] at wrote
    obtain ⟨rfl, complete⟩ := Prod.mk.inj wrote
    obtain ⟨whole, part⟩ := taken_ok complete.symm
    exact ⟨location, found, whole, by rw [part]⟩

theorem write_error {disk after : Disk} {path : Path} {content : ByteArray} {fault : DiskFault}
    (failed : disk.write path content = (after, .error fault)) :
    after = disk ∨ ∃ location count words, disk.locateFile path = .ok location ∧
      disk.outage location content = some (count, words) ∧ fault = .other words ∧
      after = disk.putFile location (content.extract 0 count) := by
  rcases write_cases disk path content with ⟨_, unopened⟩ | ⟨location, found, wrote⟩
  · rw [failed] at unopened
    cases unopened
    exact .inl rfl
  · rw [failed] at wrote
    obtain ⟨rfl, partly⟩ := Prod.mk.inj wrote
    obtain ⟨count, words, broken, same, part⟩ := taken_error partly.symm
    exact .inr ⟨location, count, words, found, broken, same, by rw [part]⟩

theorem entry_putFile {disk : Disk} {path : Path} {location : Location}
    (found : disk.locateFile path = .ok location) (content : ByteArray) :
    (disk.putFile location content).entry path = .ok (.file content) := by
  obtain ⟨below, located⟩ := locate_putFile found content
  rw [entry, located]
  dsimp only
  rw [putFile, FileTree.find?_put_self _ _ below]

theorem entry_of_write {disk after : Disk} {path : Path} {content : ByteArray}
    (done : disk.write path content = (after, .ok ())) :
    after.entry path = .ok (.file content) := by
  obtain ⟨location, found, -, rfl⟩ := write_ok done
  exact entry_putFile found content

theorem fromUTF8?_toUTF8 (text : String) : String.fromUTF8? text.toUTF8 = some text :=
  dif_pos text.isValidUTF8

theorem readNearest?_of_entry {disk : Disk} {path : Path} {text : String}
    (entry : disk.entry path = .ok (.file text.toUTF8)) :
    disk.hasEntry path = true ∧ disk.readNearest? path = some (.ok text) := by
  have file : disk.isFile path = true := by rw [isFile, entry]
  have read : disk.readText path = .ok text := by
    rw [readText, readBytes, entry]
    dsimp only
    rw [fromUTF8?_toUTF8]
  have nearest : ∀ others, (disk :: others).find? (·.isFile path) = some disk :=
    fun others => List.find?_cons_of_pos file
  refine ⟨by rw [hasEntry, entry]; rfl, ?_⟩
  rw [readNearest?, nearest, Option.map_some, read]

end Disk

theorem Config.optionalLayer_of_entry {disk : Disk} {path : Path} {text : String}
    (entry : disk.entry path = .ok (.file text.toUTF8)) :
    optionalLayer disk path = textLayer text := by
  obtain ⟨present, read⟩ := Disk.readNearest?_of_entry entry
  rw [optionalLayer, if_pos present, fileLayer, read]

end Outline
