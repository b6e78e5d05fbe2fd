import Outline.Proofs.Disk.Extends
import Outline.Proofs.Disk.Files
import Outline.Proofs.Settings.History

namespace Outline

namespace Session

/-- Every receiver follows a store of the session and has seen no version that is yet to come. -/
def Sound (session : Session) : Prop :=
  ∀ r ∈ session.receivers,
    ∃ store : SettingsStore, session.stores[r.store]? = some store ∧ r.seen ≤ store.version

variable {session after : Session}

theorem Sound.of_stores (sound : session.Sound) (receivers : after.receivers = session.receivers)
    (grown : ∀ (i : Nat) (store : SettingsStore), session.stores[i]? = some store →
      ∃ newer : SettingsStore, after.stores[i]? = some newer ∧ store.version ≤ newer.version) :
    after.Sound := by
  intro r member
  rw [receivers] at member
  obtain ⟨store, followed, seen⟩ := sound r member
  obtain ⟨newer, kept, later⟩ := grown r.store store followed
  exact ⟨newer, kept, Nat.le_trans seen later⟩

theorem Sound.replaceContext (sound : session.Sound) (context : Context) :
    (session.replaceContext context).Sound := by
  refine sound.of_stores rfl ?_
  intro i store followed
  have inside : i < session.stores.length := (List.getElem?_eq_some_iff.mp followed).1
  have added : (session.replaceContext context).stores = session.stores ++ [context.settings] := rfl
  exact ⟨store, by rw [added, List.getElem?_append_left inside, followed], Nat.le_refl _⟩

theorem Sound.afterSave (sound : session.Sound) (disk : Disk) (draft : Draft) :
    (session.afterSave (session.context.settings.save disk draft)).1.Sound := by
  have ended := session.context.settings.saves disk draft none
  generalize session.context.settings.save disk draft = outcome at ended ⊢
  cases ended with
  | early _ => exact sound
  | unwritable _ _ => exact sound
  | @written config _ _ _ _ =>
    refine sound.of_stores rfl ?_
    intro i store followed
    change (session.replaced ++ [session.context.settings])[i]? = some store at followed
    change ∃ newer : SettingsStore, (session.replaced ++
      [session.context.settings.publish config])[i]? = some newer ∧ store.version ≤ newer.version
    by_cases older : i < session.replaced.length
    · rw [List.getElem?_append_left older] at followed ⊢
      exact ⟨store, followed, Nat.le_refl _⟩
    · have inside := (List.getElem?_eq_some_iff.mp followed).1
      rw [List.length_append, List.length_singleton] at inside
      obtain rfl : i = session.replaced.length := by omega
      rw [List.getElem?_concat_length] at followed ⊢
      cases followed
      exact ⟨_, rfl, Nat.le_succ _⟩

theorem Sound.subscribe (sound : session.Sound) : (session.step .subscribe).1.Sound := by
  intro r member
  rcases List.mem_append.mp member with old | new
  · exact sound r old
  · cases List.mem_singleton.mp new
    exact ⟨session.context.settings, List.getElem?_concat_length, Nat.le_refl _⟩

theorem Sound.take (sound : session.Sound) (receiver : Nat) :
    (session.step (.take receiver)).1.Sound := by
  unfold Session.step
  dsimp only
  split
  · rename_i store followed
    intro r member
    change ∃ own : SettingsStore, session.stores[r.store]? = some own ∧ r.seen ≤ own.version
    obtain ⟨i, found⟩ := List.mem_iff_getElem?.mp member
    rw [List.getElem?_modify] at found
    obtain ⟨old, held, rfl⟩ := Option.map_eq_some_iff.mp found
    by_cases same : receiver = i
    · subst same
      rw [storeOf?, held] at followed
      exact ⟨store, by simpa using followed, by simp⟩
    · simpa [same] using sound old (List.mem_of_getElem? held)
  · exact sound

theorem Sound.step (sound : session.Sound) (step : Step) : (session.step step).1.Sound := by
  cases step with
  | openRoot =>
    unfold Session.step
    dsimp only
    split
    · exact sound.replaceContext _
    · exact sound
  | load path =>
    unfold Session.step
    dsimp only
    split
    · exact sound.replaceContext _
    · exact sound
  | create config => exact sound.replaceContext _
  | init force => exact sound
  | save draft => exact sound.afterSave session.disk draft
  | update change => exact sound.afterSave session.disk (change session.current)
  | subscribe => exact sound.subscribe
  | take receiver => exact sound.take receiver
  | write path content =>
    unfold Session.step
    dsimp only
    split <;> exact sound

theorem Sound.run (sound : session.Sound) (steps : List Step) : (session.run steps).Sound := by
  induction steps generalizing session with
  | nil => exact sound
  | cons step steps ih => exact ih (sound.step step)

theorem start_sound (disk : Disk) (env : Environment) (root : Path) :
    (start disk env root).Sound := by
  intro r member
  cases member

def SavesWhole (session : Session) (draft : Draft) (log : Option Log) :
    Session × Except Error Unit → Prop
  | (after, .error e) =>
    after.current = session.current ∧
    (∀ receiver, after.notice? receiver = session.notice? receiver ∧
      after.published? receiver = session.published? receiver) ∧
    ((∀ location, after.disk.fileAt? location = session.disk.fileAt? location) ∨
      ∃ config place count words, draft.config? = some config ∧
        session.disk.outage place config.fileContent = some (count, words) ∧
        e = .disk (.other words) ∧
        after.disk.locate session.context.settings.configPath = .ok place ∧
        ∀ location, after.disk.fileAt? location =
          if location = place then some (config.fileContent.extract 0 count)
          else session.disk.fileAt? location)
  | (after, .ok ()) =>
    ∃ config, draft.config? = some config ∧ after.current = config ∧
    (∀ receiver r, session.receivers[receiver]? = some r → r.store = session.replaced.length →
      after.notice? receiver = some .changed ∧ after.published? receiver = some config) ∧
    ∃ place, after.disk.locate session.context.settings.configPath = .ok place ∧
      ∀ location, after.disk.fileAt? location =
        (if location = place then some config.fileContent
          else session.disk.fileAt? location).map
          (· ++ session.disk.noted log session.context.settings.savedMessage location)

theorem Sound.savesWhole (sound : session.Sound) (draft : Draft) (log : Option Log) :
    session.SavesWhole draft log
      (session.afterSave (session.context.settings.save session.disk draft log)) := by
  have ended := session.context.settings.saves session.disk draft log
  generalize session.context.settings.save session.disk draft log = outcome at ended ⊢
  have made := session.disk.extends_makeDirectories
    (Config.projectDirectory session.context.settings.workspace)
  cases ended with
  | early unwritten =>
    refine ⟨rfl, fun receiver => ⟨rfl, rfl⟩, .inl ?_⟩
    intro location
    rcases unwritten with rfl | rfl
    · rfl
    · exact Disk.fileAt?_makeDirectories _ _ location
  | unwritable text wrote =>
    refine ⟨rfl, fun receiver => ⟨rfl, rfl⟩, ?_⟩
    rcases Disk.fileAt?_of_write_error wrote with rfl | ⟨place, count, words, broken, rfl, found⟩
    · exact .inl (Disk.fileAt?_makeDirectories _ _)
    · rw [made.sameOutage] at broken
      simp only [Disk.fileAt?_makeDirectories] at found
      exact .inr ⟨_, place, count, words, text, broken, rfl, found⟩
  | @written config _ text valid wrote =>
    refine ⟨config, text, rfl, ?_, ?_⟩
    · intro receiver r found live
      obtain ⟨store, followed, seen⟩ := sound r (List.mem_of_getElem? found)
      rw [live, stores, List.getElem?_concat_length] at followed
      cases followed
      -- A receiver has not seen the version that is published now.
      have behind : r.seen ≠ session.context.settings.version + 1 := by omega
      constructor
      · simp [notice?, found, live, SettingsStore.publish, behind]
      · simp [published?, storeOf?, stores, found, live, SettingsStore.publish]
    · obtain ⟨outage, place, located, files⟩ := Disk.fileAt?_of_write wrote
      simp only [Disk.fileAt?_makeDirectories] at files
      refine ⟨place, Disk.locate_note _ _ located, ?_⟩
      intro location
      change (Disk.note _ log _).fileAt? location = _
      rw [Disk.fileAt?_note, files, Disk.noted_congr (outage.trans made.sameOutage)]
      rfl

/-- After any steps and on any disk, what saving settings or updating them comes to. -/
theorem save_all_or_nothing (disk now : Disk) (env : Environment) (root : Path)
    (steps : List Step) (draft : Draft) (change : Config → Draft) (log : Option Log) :
    let session : Session := { (start disk env root).run steps with disk := now }
    session.SavesWhole draft log
        (session.afterSave (session.context.settings.save now draft log)) ∧
      session.SavesWhole (change session.current) log
        (session.afterSave (session.context.settings.update now change log)) := by
  intro session
  have sound : session.Sound := (start_sound disk env root).run steps
  exact ⟨sound.savesWhole draft log, sound.savesWhole (change session.current) log⟩

def settingsPlace : Location :=
  [Text.bytesOf "ws", Text.bytesOf ".pyweave", Text.bytesOf "config.toml"]

def logPlace : Location := [Text.bytesOf "ws", Text.bytesOf "x.log"]

def settledWorkspace : Disk where
  tree := (((emptyWorkspace.tree.put [Text.bytesOf "ws", Text.bytesOf ".pyweave"] .directory).put
    settingsPlace (.file Config.default.fileContent)).put logPlace (.file .empty))
  workingDirectory := []

def noRoom : (content : ByteArray) → Option (Fin content.size × String)
  | ⟨⟨[]⟩⟩ => none
  | ⟨⟨_ :: rest⟩⟩ => some (⟨0, Nat.succ_pos rest.length⟩, "No space left on device (os error 28)")

def fullWorkspace : Disk := { settledWorkspace with outage := fun _ => noRoom }

def datedLog : Log where
  place := logPlace
  record message :=
    "2024-01-02T03:04:05.000000Z  INFO pyweave::config::store: " ++ message ++ "\n"

def failedSave : Session × Except Error Unit :=
  (start fullWorkspace ⟨[]⟩ (.ofText "ws")).step (.save otherVersion)

def notedSave : Session × Except Error Unit :=
  let session := start settledWorkspace ⟨[]⟩ (.ofText "ws")
  session.afterSave (session.context.settings.save session.disk otherVersion (some datedLog))

/-- On a full disk a save fails and takes the old settings with it, and where there is a log a save
changes a second file. -/
theorem save_is_not_all_or_nothing :
    (failedSave.2 = .error (.disk (.other "No space left on device (os error 28)")) ∧
      fullWorkspace.fileAt? settingsPlace = some Config.default.fileContent ∧
      failedSave.1.disk.fileAt? settingsPlace = some .empty) ∧
    notedSave.2 = .ok () ∧ settledWorkspace.fileAt? logPlace = some .empty ∧
      notedSave.1.disk.fileAt? logPlace =
        some (datedLog.record "Saved settings: ws/.pyweave/config.toml").toUTF8 := by
  refine ⟨⟨?_, rfl, ?_⟩, rfl, rfl, rfl⟩
  · decide +kernel
  · decide +kernel

end Session

end Outline
