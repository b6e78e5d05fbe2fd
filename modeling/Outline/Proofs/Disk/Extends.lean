import Outline.Proofs.Disk.Place

namespace Outline.Disk

/-- All that a disk holds is held by another one, which is seen from the same directory and takes
the same writes. -/
structure Extends (before after : Disk) : Prop where
  sameStart : after.workingDirectory = before.workingDirectory
  sameOutage : after.outage = before.outage
  kept : ∀ {location : Location} {entry : Entry}, before.tree.find? location = some entry →
    after.tree.find? location = some entry

theorem Extends.refl (disk : Disk) : Extends disk disk := ⟨rfl, rfl, fun found => found⟩

theorem Extends.trans {first middle last : Disk} (earlier : Extends first middle)
    (later : Extends middle last) : Extends first last :=
  ⟨later.sameStart.trans earlier.sameStart, later.sameOutage.trans earlier.sameOutage,
    fun found => later.kept (earlier.kept found)⟩

theorem Extends.locate {before after : Disk} (extended : Extends before after) {path : Path}
    {location : Location} (located : before.locate path = .ok location) :
    after.locate path = .ok location := by
  obtain ⟨faultless, led⟩ := locate_ok located
  have start : after.start path = before.start path := by
    rw [Disk.start, Disk.start, extended.sameStart]
  rw [Disk.locate, faultless, start]
  exact foldlM_step_of_kept (fun here directory => extended.kept directory) led

theorem Extends.entry {before after : Disk} (extended : Extends before after) {path : Path}
    {entry : Entry} (found : before.entry path = .ok entry) : after.entry path = .ok entry := by
  obtain ⟨location, located, there⟩ := locate_of_entry found
  exact entry_of_locate (extended.locate located) (extended.kept there)

theorem extends_put {disk : Disk} {location : Location} (entry : Entry)
    (free : ∀ held, disk.tree.find? location = some held →
      (disk.tree.put location entry).find? location = some held) :
    Extends disk { disk with tree := disk.tree.put location entry } where
  sameStart := rfl
  sameOutage := rfl
  kept := by
    intro other held found
    by_cases here : other = location
    · subst here
      exact free held found
    · rw [FileTree.find?_put_of_ne _ _ _ here]
      exact found

theorem extends_makeDirectory (disk : Disk) (path : Path) :
    Extends disk (disk.makeDirectory path).1 := by
  unfold makeDirectory
  split
  · exact .refl disk
  · split
    · exact .refl disk
    · rename_i nothing
      refine extends_put _ fun held found => ?_
      rw [nothing] at found
      cases found

theorem extends_makeDirectories (disk : Disk) (path : Path) :
    Extends disk (disk.makeDirectories path).1 :=
  makeDirectoriesAlong_preserves
    (fun made path extended => extended.trans (extends_makeDirectory made path))
    path.selfAndAbove disk (.refl disk)

theorem extends_touch (disk : Disk) (path : Path) : Extends disk (disk.touch path).1 := by
  unfold touch
  split
  · exact .refl disk
  · rename_i location found
    obtain ⟨-, -, free⟩ := locateFile_ok found
    refine extends_put _ fun held there => ?_
    cases held with
    | directory => exact absurd there free
    | file content =>
      have opened : disk.fileAt? location = some content := by rw [fileAt?, there]
      rw [FileTree.find?_put_self _ _ (locate_putFile found .empty).1, opened, Option.getD_some]

variable {disk : Disk} {path : Path} {name : Name}

theorem makeDirectories_of_isDirectory (filled : path.bytes ≠ []) (plain : name.IsPlain)
    (directory : disk.isDirectory (path.join ⟨name⟩) = true) :
    disk.makeDirectories (path.join ⟨name⟩) = (disk, .ok ()) := by
  obtain ⟨location, located, there⟩ := locate_of_entry (entry_of_isDirectory directory)
  have taken : disk.makeDirectory (path.join ⟨name⟩) = (disk, .error .exists) := by
    rw [makeDirectory, locateNew_join filled plain, located]
    dsimp only
    rw [there]
  rw [makeDirectories, Path.selfAndAbove, Path.selfAndAboveWithin]
  split
  · rfl
  · rw [makeDirectoriesAlong, taken]
    dsimp only
    rw [if_pos directory]

theorem locateFile_of_entry (filled : path.bytes ≠ []) (plain : name.IsPlain)
    {content : ByteArray} (held : disk.entry (path.join ⟨name⟩) = .ok (.file content)) :
    disk.locateFile (path.join ⟨name⟩) = disk.locate (path.join ⟨name⟩) := by
  obtain ⟨location, located, there⟩ := locate_of_entry held
  have ends := Path.getLast?_join filled plain
  unfold locateFile
  rw [locateNew_join filled plain, located]
  dsimp only
  rw [if_neg (by simpa using ends), there]

end Outline.Disk
