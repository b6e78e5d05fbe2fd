import Outline.Command.Run
import Outline.Proofs.Disk.Extends
import Outline.Proofs.Disk.Files
import Outline.Proofs.Disk.WellFormed
import Outline.Proofs.Settings.History

namespace Outline

/-- Directories and files stay where they are, though files may change, and the tree stays well
formed. -/
structure Disk.Keeps (before after : Disk) : Prop where
  sameStart : after.workingDirectory = before.workingDirectory
  directory : ∀ {location : Location}, before.tree.find? location = some .directory →
    after.tree.find? location = some .directory
  file : ∀ {location : Location}, (before.fileAt? location).isSome →
    (after.fileAt? location).isSome
  wellFormed : before.tree.WellFormed → after.tree.WellFormed

namespace Disk

theorem Keeps.refl (disk : Disk) : disk.Keeps disk := ⟨rfl, id, id, id⟩

theorem Keeps.trans {first middle last : Disk} (earlier : first.Keeps middle)
    (later : middle.Keeps last) : first.Keeps last where
  sameStart := later.sameStart.trans earlier.sameStart
  directory := later.directory ∘ earlier.directory
  file := later.file ∘ earlier.file
  wellFormed := later.wellFormed ∘ earlier.wellFormed

variable {disk : Disk} {path : Path}

theorem keeps_makeDirectory (disk : Disk) (path : Path) : disk.Keeps (disk.makeDirectory path).1 where
  sameStart := (extends_makeDirectory disk path).sameStart
  directory := (extends_makeDirectory disk path).kept
  file := by
    intro location held
    rwa [fileAt?_makeDirectory]
  wellFormed wellFormed := wellFormed_makeDirectory wellFormed path

theorem keeps_makeDirectories (disk : Disk) (path : Path) :
    disk.Keeps (disk.makeDirectories path).1 :=
  makeDirectoriesAlong_preserves
    (fun made path kept => kept.trans (keeps_makeDirectory made path)) path.selfAndAbove disk
    (.refl disk)

theorem keeps_makeParent (disk : Disk) (path : Path) :
    disk.Keeps ((path.parent?.map disk.makeDirectories).getD (disk, .ok ())).1 := by
  cases path.parent? with
  | none => exact .refl disk
  | some parent => exact disk.keeps_makeDirectories parent

theorem keeps_putFile {location : Location} (below : location ≠ [])
    (free : disk.tree.find? location ≠ some .directory) (content : ByteArray)
    (wellFormed : disk.tree.WellFormed → (disk.putFile location content).tree.WellFormed) :
    disk.Keeps (disk.putFile location content) where
  sameStart := rfl
  directory := find?_putFile_of_directory content free
  file := by
    intro other held
    rw [fileAt?_putFile below]
    split
    · rfl
    · exact held
  wellFormed := wellFormed

theorem keeps_putFile_of_locateFile {location : Location}
    (found : disk.locateFile path = .ok location) (content : ByteArray) :
    disk.Keeps (disk.putFile location content) :=
  keeps_putFile (locate_putFile found content).1 (locateFile_ok found).2.2 content
    fun wellFormed => wellFormed_putFile wellFormed found content

theorem keeps_write (disk : Disk) (path : Path) (content : ByteArray) :
    disk.Keeps (disk.write path content).1 := by
  rcases write_cases disk path content with ⟨fault, failed⟩ | ⟨location, found, wrote⟩
  · rw [failed]
    exact .refl disk
  · rw [wrote]
    exact keeps_putFile_of_locateFile found _

theorem keeps_touch (disk : Disk) (path : Path) : disk.Keeps (disk.touch path).1 := by
  unfold touch
  split
  · exact .refl disk
  · rename_i location found
    exact keeps_putFile_of_locateFile found _

theorem keeps_append (disk : Disk) (location : Location) (content : ByteArray) :
    disk.Keeps (disk.append location content) := by
  unfold append
  split
  · exact .refl disk
  · rename_i held there
    have file := find?_of_fileAt? there
    have below : location ≠ [] := by
      rintro rfl
      cases there
    refine keeps_putFile below (by simp [file]) _ fun wellFormed => ?_
    obtain ⟨directory, name, rfl⟩ := List.eq_nil_or_concat' location |>.resolve_left below
    exact wellFormed.put (wellFormed.plain file) (wellFormed.parent file) (by simp [file]) _

theorem keeps_note (disk : Disk) (log : Option Log) (message : String) :
    disk.Keeps (disk.note log message) := by
  cases log with
  | none => exact .refl disk
  | some log => exact keeps_append disk log.place _

end Disk

theorem SettingsStore.keeps_save (store : SettingsStore) (disk : Disk) (draft : Draft)
    (log : Option Log) : disk.Keeps (store.save disk draft log).1 := by
  have made := disk.keeps_makeDirectories (Config.projectDirectory store.workspace)
  have ended := store.saves disk draft log
  generalize store.save disk draft log = outcome at ended ⊢
  cases ended with
  | early unwritten =>
    rcases unwritten with rfl | rfl
    · exact .refl _
    · exact made
  | @unwritable config _ _ _ wrote =>
    have written := made.trans (Disk.keeps_write _ store.configPath config.fileContent)
    rwa [show Disk.write _ _ config.fileContent = _ from wrote] at written
  | @written config _ _ _ wrote =>
    have written := made.trans (Disk.keeps_write _ store.configPath config.fileContent)
    rw [show Disk.write _ _ config.fileContent = _ from wrote] at written
    exact written.trans (Disk.keeps_note _ log _)

theorem SettingsStore.keeps_init (disk : Disk) (workspace : Path) (force : Bool)
    (log : Option Log) : disk.Keeps (init disk workspace force log).1 := by
  have saved := keeps_save (new workspace .default) disk Config.default log
  unfold init
  dsimp only
  split
  · exact Disk.keeps_note _ log _
  · split
    · rename_i left e failed
      rwa [failed] at saved
    · rename_i left kept done
      rwa [done] at saved

theorem keeps_writeReport (disk : Disk) (path : Path) (text : String) :
    disk.Keeps (writeReport disk path text).1 := by
  have written := disk.keeps_write path text.toUTF8
  unfold writeReport Disk.writeText
  split
  · rename_i left done
    rwa [done] at written
  · rename_i left fault failed
    rwa [failed] at written

theorem keeps_writeReportsTo (disk : Disk) (texts : List (Path × String)) :
    disk.Keeps (writeReportsTo disk texts).1 := by
  induction texts generalizing disk with
  | nil => exact .refl disk
  | cons first rest ih =>
    obtain ⟨path, text⟩ := first
    have written := keeps_writeReport disk path text
    unfold writeReportsTo
    split
    · rename_i left e failed
      rwa [failed] at written
    · rename_i left done
      rw [done] at written
      have later := written.trans (ih left)
      split
      · rename_i last e failed
        rwa [failed] at later
      · rename_i last paths finished
        rwa [finished] at later

theorem keeps_writeReports (disk : Disk) (now : String) (directory : Path) (format : Format)
    (report : Report) (graph : Option CallGraph) :
    disk.Keeps (writeReports disk now directory format report graph).1 := by
  have made := disk.keeps_makeDirectories directory
  unfold writeReports
  split
  · rename_i left fault failed
    rwa [failed] at made
  · rename_i left done
    rw [done] at made
    exact made.trans (keeps_writeReportsTo left _)

theorem keeps_runAnalyze (disk : Disk) (env : Environment) (now : String) (context : Context)
    (options : AnalyzeOptions) (quiet : Bool) :
    disk.Keeps (runAnalyze disk env now context options quiet).1 := by
  unfold runAnalyze
  dsimp only
  split
  · exact .refl disk
  · rename_i report graph _
    split
    · exact .refl disk
    · split
      · rename_i left e failed
        exact congrArg Prod.fst failed ▸ keeps_writeReports disk now _ _ report _
      · rename_i left paths done
        exact congrArg Prod.fst done ▸ keeps_writeReports disk now _ _ report _

theorem keeps_openLog (disk : Disk) (logging : LoggingSettings) :
    disk.Keeps (openLog disk logging).1 := by
  unfold openLog
  split
  · exact .refl disk
  · rename_i file named
    have ready := disk.keeps_makeParent (Path.ofText file)
    dsimp only
    split
    · rename_i stopped fault failed
      rwa [failed] at ready
    · rename_i made done
      rw [done] at ready
      exact ready.trans (made.keeps_touch _)

theorem keeps_runInit (disk : Disk) (workspace : Path) (force quiet : Bool) (log : Option Log) :
    disk.Keeps (runInit disk workspace force quiet log).1 := by
  have started := SettingsStore.keeps_init disk workspace force log
  unfold runInit
  split
  · rename_i left e failed
    rwa [failed] at started
  · rename_i left path done
    rwa [done] at started

theorem keeps_inWorkingDirectory {disk : Disk} {work : Path → Disk × Except Error Printed}
    (kept : ∀ workspace, disk.Keeps (work workspace).1) :
    disk.Keeps (inWorkingDirectory disk work).1 := by
  unfold inWorkingDirectory
  split
  · exact kept _
  · exact .refl disk

theorem keeps_runCommand (disk : Disk) (env : Environment) (now : String)
    (context : Except Error Context) (log : Option Log) (quiet : Bool) (command : Command) :
    disk.Keeps (runCommand disk env now context log quiet command).1 := by
  cases command with
  | analyze path options =>
    cases context with
    | ok context => exact keeps_runAnalyze disk env now context options _
    | error e => exact .refl disk
  | file path base => exact .refl disk
  | showConfig format => exact keeps_inWorkingDirectory fun _ => .refl disk
  | showPaths => exact keeps_inWorkingDirectory fun _ => .refl disk
  | initConfig force =>
    exact keeps_inWorkingDirectory fun workspace => keeps_runInit disk workspace force quiet log

/-- No command line takes a directory or a file away, and none leaves a tree that is not well
formed. -/
theorem keeps_runWords (disk : Disk) (env : Environment) (now : String) (words : List String)
    (record : String → String) : disk.Keeps (runWords disk env now words record).1 := by
  unfold runWords
  split
  · rename_i invocation _
    have opened := keeps_openLog disk (loggingOf (Context.load disk env invocation.workspace?))
    unfold Invocation.run
    dsimp only
    split
    · rename_i left fault failed
      rwa [failed] at opened
    · rename_i left place done
      rw [done] at opened
      have ran := opened.trans (keeps_runCommand left env now
        (Context.load disk env invocation.workspace?) (place.map (Log.mk · record))
        invocation.quiet invocation.command)
      split
      · rename_i last printed finished
        rwa [finished] at ran
      · rename_i last e failed
        rwa [failed] at ran
  · exact .refl disk

namespace Session

theorem keeps_afterSave (session : Session) (draft : Draft) :
    session.disk.Keeps
      (session.afterSave (session.context.settings.save session.disk draft)).1.disk := by
  have saved := session.context.settings.keeps_save session.disk draft none
  unfold afterSave
  split
  · rename_i left settings done
    rwa [done] at saved
  · rename_i left e failed
    rwa [failed] at saved

theorem keeps_place (disk : Disk) (path : Path) (content : ByteArray) :
    disk.Keeps (place disk path content).1 := by
  have ready := disk.keeps_makeParent path
  unfold place
  split
  · rename_i stopped fault failed
    rwa [failed] at ready
  · rename_i made done
    rw [done] at ready
    exact ready.trans (made.keeps_write path content)

theorem keeps_step (session : Session) (step : Step) :
    session.disk.Keeps (session.step step).1.disk := by
  cases step with
  | openRoot =>
    unfold Session.step
    dsimp only
    split <;> exact .refl _
  | load path =>
    unfold Session.step
    dsimp only
    split <;> exact .refl _
  | create config => exact .refl _
  | init force => exact SettingsStore.keeps_init session.disk session.root force none
  | save draft => exact session.keeps_afterSave draft
  | update change => exact session.keeps_afterSave (change session.current)
  | subscribe => exact .refl _
  | take receiver =>
    unfold Session.step
    dsimp only
    split <;> exact .refl _
  | write path content =>
    have placed := keeps_place session.disk path content
    unfold Session.step
    dsimp only
    split
    · rename_i left done
      rwa [done] at placed
    · rename_i left fault failed
      rwa [failed] at placed

theorem keeps_run (session : Session) (steps : List Step) :
    session.disk.Keeps (session.run steps).disk := by
  induction steps generalizing session with
  | nil => exact .refl _
  | cons step steps ih => exact (session.keeps_step step).trans (ih (session.step step).1)

end Session

end Outline
