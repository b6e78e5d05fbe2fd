import Outline.Proofs.Disk.Place
import Outline.Settings.Store

namespace Outline.Disk

variable {disk after : Disk} {path : Path}

theorem fileAt?_putFile {location : Location} (below : location ≠ []) (content : ByteArray)
    (other : Location) :
    (disk.putFile location content).fileAt? other =
      if other = location then some content else disk.fileAt? other := by
  split
  · rename_i here
    rw [here, fileAt?, putFile, FileTree.find?_put_self _ _ below]
  · rename_i elsewhere
    rw [fileAt?, fileAt?, putFile, FileTree.find?_put_of_ne _ _ _ elsewhere]

theorem fileAt?_makeDirectory (disk : Disk) (path : Path) (location : Location) :
    (disk.makeDirectory path).1.fileAt? location = disk.fileAt? location := by
  unfold makeDirectory
  split
  · rfl
  · rename_i place _
    split
    · rfl
    · rename_i nothing
      by_cases here : location = place
      · subst here
        have below : location ≠ [] := by
          rintro rfl
          cases nothing
        rw [fileAt?, fileAt?, FileTree.find?_put_self _ _ below, nothing]
      · rw [fileAt?, fileAt?, FileTree.find?_put_of_ne _ _ _ here]

theorem fileAt?_makeDirectories (disk : Disk) (path : Path) (location : Location) :
    (disk.makeDirectories path).1.fileAt? location = disk.fileAt? location :=
  makeDirectoriesAlong_preserves
    (fun made path same => (fileAt?_makeDirectory made path location).trans same)
    path.selfAndAbove disk rfl

theorem fileAt?_of_write {content : ByteArray} (done : disk.write path content = (after, .ok ())) :
    after.outage = disk.outage ∧ ∃ place, after.locate path = .ok place ∧
      ∀ location, after.fileAt? location =
        if location = place then some content else disk.fileAt? location := by
  obtain ⟨place, found, -, rfl⟩ := write_ok done
  obtain ⟨below, located⟩ := locate_putFile found content
  exact ⟨rfl, place, located, fileAt?_putFile below content⟩

/-- A write that fails changes nothing, or breaks off and leaves the beginning of the content. -/
theorem fileAt?_of_write_error {content : ByteArray} {fault : DiskFault}
    (failed : disk.write path content = (after, .error fault)) :
    after = disk ∨ ∃ place count words, disk.outage place content = some (count, words) ∧
      fault = .other words ∧ after.locate path = .ok place ∧
      ∀ location, after.fileAt? location =
        if location = place then some (content.extract 0 count) else disk.fileAt? location := by
  rcases write_error failed with same | ⟨place, count, words, found, broken, rfl, rfl⟩
  · exact .inl same
  · obtain ⟨below, located⟩ := locate_putFile found (content.extract 0 count)
    exact .inr ⟨place, count, words, broken, rfl, located, fileAt?_putFile below _⟩

def noted (disk : Disk) (log : Option Log) (message : String) (location : Location) : ByteArray :=
  match log with
  | none => .empty
  | some log =>
    if location = log.place then (disk.taken location (log.record message).toUTF8).1 else .empty

theorem noted_congr (same : after.outage = disk.outage) (log : Option Log) (message : String)
    (location : Location) : after.noted log message location = disk.noted log message location := by
  simp only [noted, taken, same]

theorem find?_of_fileAt? {location : Location} {content : ByteArray}
    (held : disk.fileAt? location = some content) :
    disk.tree.find? location = some (.file content) := by
  unfold fileAt? at held
  split at held
  · cases held
    assumption
  · cases held

theorem find?_note_of_directory {here : Location} (log : Option Log) (message : String)
    (directory : disk.tree.find? here = some .directory) :
    (disk.note log message).tree.find? here = some .directory := by
  cases log with
  | none => exact directory
  | some log =>
    unfold note append
    dsimp only
    split
    · exact directory
    · rename_i content held
      refine find?_putFile_of_directory _ ?_ directory
      simp [find?_of_fileAt? held]

theorem locate_note {location : Location} (log : Option Log) (message : String)
    (located : disk.locate path = .ok location) :
    (disk.note log message).locate path = .ok location := by
  obtain ⟨faultless, led⟩ := locate_ok located
  have start : (disk.note log message).start path = disk.start path := by
    cases log with
    | none => rfl
    | some log =>
      unfold note append
      dsimp only
      split <;> rfl
  rw [locate, faultless, start]
  exact foldlM_step_of_kept (fun _ => find?_note_of_directory log message) led

theorem fileAt?_append (disk : Disk) (location : Location) (content : ByteArray)
    (other : Location) :
    (disk.append location content).fileAt? other =
      (disk.fileAt? other).map
        (· ++ if other = location then (disk.taken location content).1 else .empty) := by
  have kept : ∀ held : Option ByteArray, held.map (· ++ ByteArray.empty) = held := by
    intro held
    cases held <;> simp
  unfold append
  cases held : disk.fileAt? location with
  | none =>
    dsimp only
    split
    · rename_i here
      rw [here, held, Option.map_none]
    · rw [kept]
  | some content =>
    have below : location ≠ [] := by
      rintro rfl
      cases held
    dsimp only
    rw [fileAt?_putFile below]
    split
    · rename_i here
      rw [here, held, Option.map_some]
    · rw [kept]

theorem fileAt?_note (disk : Disk) (log : Option Log) (message : String) (location : Location) :
    (disk.note log message).fileAt? location =
      (disk.fileAt? location).map (· ++ disk.noted log message location) := by
  cases log with
  | none => cases held : disk.fileAt? location <;> simp [note, noted, held]
  | some log =>
    rw [note, fileAt?_append, noted]
    split
    · rename_i here
      rw [here]
    · rfl

theorem entry_note_putFile {place : Location} (found : disk.locateFile path = .ok place)
    (content : ByteArray) (log : Option Log) (message : String) :
    ((disk.putFile place content).note log message).entry path =
      .ok (.file (content ++ disk.noted log message place)) := by
  obtain ⟨below, located⟩ := locate_putFile found content
  have same : (disk.putFile place content).noted log message place =
      disk.noted log message place := noted_congr rfl log message place
  have held : ((disk.putFile place content).note log message).fileAt? place =
      some (content ++ disk.noted log message place) := by
    rw [fileAt?_note, fileAt?_putFile below, if_pos rfl, Option.map_some, same]
  exact entry_of_locate (locate_note log message located) (find?_of_fileAt? held)

end Outline.Disk
