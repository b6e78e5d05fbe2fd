import Mathlib.Data.List.DropRight
import Outline.Proofs.Config.Draft
import Outline.Proofs.Config.Load
import Outline.Proofs.Disk.Files
import Outline.Settings.Session

namespace Outline

def Config.fileContent (c : Config) : ByteArray := (String.ofList c.toToml).toUTF8

namespace SettingsStore

variable {store : SettingsStore} {disk : Disk} {draft : Draft} {log : Option Log}

/-- How a save can end: before the file of the workspace is written, with a write that fails, or with
the file written. -/
inductive Saves (store : SettingsStore) (disk : Disk) (draft : Draft) (log : Option Log) :
    Disk × Except Error SettingsStore → Prop where
  | early {e : Error} {after : Disk}
    (unwritten : after = disk ∨
      after = (disk.makeDirectories (Config.projectDirectory store.workspace)).1) :
    Saves store disk draft log (after, .error e)
  | unwritable {config : Config} {fault : DiskFault} {after : Disk}
    (text : draft.config? = some config)
    (wrote : (disk.makeDirectories (Config.projectDirectory store.workspace)).1.writeText
      store.configPath (String.ofList config.toToml) = (after, .error fault)) :
    Saves store disk draft log (after, .error (.disk fault))
  | written {config : Config} {after : Disk} (text : draft.config? = some config)
    (valid : config.validate = .ok ())
    (wrote : (disk.makeDirectories (Config.projectDirectory store.workspace)).1.writeText
      store.configPath (String.ofList config.toToml) = (after, .ok ())) :
    Saves store disk draft log (after.note log store.savedMessage, .ok (store.publish config))

theorem saves (store : SettingsStore) (disk : Disk) (draft : Draft) (log : Option Log) :
    store.Saves disk draft log (store.save disk draft log) := by
  unfold save
  split
  · exact .early (.inl rfl)
  · rename_i valid
    split
    · rename_i fault tried
      exact .early (.inr (by rw [tried]))
    · rename_i made done
      split
      · exact .early (.inr (by rw [done]))
      · rename_i config text
        rw [Draft.validate_of_config? text] at valid
        split
        · rename_i fault wrote
          exact .unwritable text (by rw [done, wrote])
        · rename_i wrote
          exact .written text valid (by rw [done, wrote])

theorem save_ok {after : SettingsStore} {left : Disk}
    (saved : store.save disk draft log = (left, .ok after)) :
    ∃ config, draft.config? = some config ∧ config.validate = .ok () ∧
      after = store.publish config ∧ ∃ made written : Disk,
        made.writeText store.configPath (String.ofList config.toToml) = (written, .ok ()) ∧
        left = written.note log store.savedMessage := by
  have ended := saves store disk draft log
  rw [saved] at ended
  cases ended with
  | written text valid wrote => exact ⟨_, text, valid, rfl, _, _, wrote, rfl⟩

theorem save_config {config : Config} (store : SettingsStore) (disk : Disk) (log : Option Log)
    (checked : config.validate = .ok ()) :
    store.save disk config log =
      match disk.makeDirectories (Config.projectDirectory store.workspace) with
      | (disk, .error fault) => (disk, .error (.disk fault))
      | (disk, .ok ()) =>
        match disk.writeText store.configPath (String.ofList config.toToml) with
        | (disk, .error fault) => (disk, .error (.disk fault))
        | (disk, .ok ()) => (disk.note log store.savedMessage, .ok (store.publish config)) := by
  have valid := config.validate_draft.trans checked
  rcases made : disk.makeDirectories (Config.projectDirectory store.workspace) with
    ⟨ready, fault | ⟨⟩⟩
  · simp only [save, valid, made]
  · rcases wrote : ready.writeText store.configPath (String.ofList config.toToml) with
      ⟨written, fault | ⟨⟩⟩
    · simp only [save, valid, made, Config.config?_draft, wrote]
    · simp only [save, valid, made, Config.config?_draft, wrote]

theorem save_of_locateFile {config : Config} (log : Option Log) (checked : config.validate = .ok ())
    (ready : disk.makeDirectories (Config.projectDirectory store.workspace) = (disk, .ok ()))
    {place : Location} (found : disk.locateFile store.configPath = .ok place) :
    store.save disk config log =
      match disk.outage place config.fileContent with
      | none =>
        ((disk.putFile place config.fileContent).note log store.savedMessage,
          .ok (store.publish config))
      | some (count, words) =>
        (disk.putFile place (config.fileContent.extract 0 count), .error (.disk (.other words))) := by
  have wrote : disk.writeText store.configPath (String.ofList config.toToml) =
      (disk.putFile place (disk.taken place config.fileContent).1,
        (disk.taken place config.fileContent).2) := by
    simp only [Disk.writeText, Disk.write, found, Config.fileContent]
  rw [save_config store disk log checked]
  simp only [ready, wrote, Disk.taken]
  cases disk.outage place config.fileContent with
  | none => simp only
  | some failure => simp only

theorem save_config_ok {config : Config} {after : SettingsStore} {left : Disk}
    (saved : store.save disk config = (left, .ok after)) :
    config.validate = .ok () ∧ ∃ made : Disk,
      made.writeText store.configPath (String.ofList config.toToml) = (left, .ok ()) := by
  obtain ⟨same, text, valid, -, made, written, wrote, rfl⟩ := save_ok saved
  rw [Config.config?_draft] at text
  cases text
  exact ⟨valid, made, wrote⟩

end SettingsStore

theorem Context.validate_of_load {disk : Disk} {env : Environment} {path : Option Path}
    {context : Context} (loaded : Context.load disk env path = .ok context) :
    context.config.validate = .ok () := by
  obtain ⟨workspace, -, loaded⟩ := bind_eq_ok loaded
  obtain ⟨settings, found, loaded⟩ := bind_eq_ok loaded
  cases loaded
  unfold SettingsStore.load at found
  cases read : Config.load disk env workspace with
  | error e =>
    rw [read] at found
    cases found
  | ok config =>
    rw [read] at found
    cases found
    exact Config.validate_of_load read

namespace Session

inductive Event where
  | opened (config : Config)
  | published (config : Config)
  | subscribed
  | took (receiver : Nat)
  /-- A failure, or a step that concerns the disk only. -/
  | silent
deriving Repr, DecidableEq

namespace Event

def config? : Event → Option Config
  | .opened config => some config
  | .published config => some config
  | _ => none

def opens : Event → Bool
  | .opened _ => true
  | _ => false

def publishes : Event → Bool
  | .published _ => true
  | _ => false

end Event

def published (outcome : Session × Except Error Unit) (draft : Draft) : Event :=
  match outcome.2, draft.config? with
  | .ok (), some config => .published config
  | _, _ => .silent

def event (session : Session) : Step → Event
  | .openRoot =>
    match Config.load session.disk session.env session.root with
    | .ok config => .opened config
    | .error _ => .silent
  | .load path =>
    match Context.load session.disk session.env path with
    | .ok context => .opened context.config
    | .error _ => .silent
  | .create config => .opened config
  | .save draft => published (session.step (.save draft)) draft
  | .update change => published (session.step (.update change)) (change session.current)
  | .subscribe => .subscribed
  | .take receiver => .took receiver
  | .init _ => .silent
  | .write _ _ => .silent

def run (session : Session) : List Step → Session
  | [] => session
  | step :: rest => run (session.step step).1 rest

def events (session : Session) : List Step → List Event
  | [] => []
  | step :: rest => session.event step :: events (session.step step).1 rest

def lastConfig? (events : List Event) : Option Config := (events.filterMap Event.config?).getLast?

/-- What happened since a receiver last took the settings, or at all if it never did. -/
def unseen (receiver : Nat) (events : List Event) : List Event :=
  events.rtakeWhile (· ≠ .took receiver)

def Moves (session : Session) (event : Event) (after : Session) : Prop :=
  match event with
  | .opened config =>
    config.validate = .ok () ∧ after.current = config ∧
      after.replaced = session.replaced ++ [session.context.settings] ∧
      after.receivers = session.receivers
  | .published config =>
    config.validate = .ok () ∧ after.context.settings = session.context.settings.publish config ∧
      after.replaced = session.replaced ∧ after.receivers = session.receivers
  | .subscribed =>
    after.context = session.context ∧ after.replaced = session.replaced ∧
      after.receivers = session.receivers ++
        [{ store := session.replaced.length, seen := session.context.settings.version }]
  | .took receiver =>
    after.context = session.context ∧ after.replaced = session.replaced ∧
      after.receivers = ((session.storeOf? receiver).map fun store =>
        session.receivers.modify receiver fun r => { r with seen := store.version }).getD
          session.receivers
  | .silent =>
    after.context = session.context ∧ after.replaced = session.replaced ∧
      after.receivers = session.receivers

theorem afterSave_moves (session : Session) (disk : Disk) (draft : Draft) :
    Moves session
      (published (session.afterSave (session.context.settings.save disk draft)) draft)
      (session.afterSave (session.context.settings.save disk draft)).1 := by
  rcases saved : session.context.settings.save disk draft with ⟨written, outcome⟩
  cases outcome with
  | error e => exact ⟨rfl, rfl, rfl⟩
  | ok settings =>
    obtain ⟨config, text, valid, rfl, -⟩ := SettingsStore.save_ok saved
    simp only [published, afterSave, text]
    exact ⟨valid, rfl, rfl, rfl⟩

theorem openRoot_moves (session : Session) :
    Moves session (session.event .openRoot) (session.step .openRoot).1 := by
  simp only [event, step, SettingsStore.load]
  cases loaded : Config.load session.disk session.env session.root with
  | error e => exact ⟨rfl, rfl, rfl⟩
  | ok config => exact ⟨Config.validate_of_load loaded, rfl, rfl, rfl⟩

theorem load_moves (session : Session) (path : Option Path) :
    Moves session (session.event (.load path)) (session.step (.load path)).1 := by
  simp only [event, step]
  cases loaded : Context.load session.disk session.env path with
  | error e => exact ⟨rfl, rfl, rfl⟩
  | ok context => exact ⟨Context.validate_of_load loaded, rfl, rfl, rfl⟩

theorem take_moves (session : Session) (receiver : Nat) :
    Moves session (.took receiver) (session.step (.take receiver)).1 := by
  simp only [step, Moves]
  cases session.storeOf? receiver <;> exact ⟨rfl, rfl, rfl⟩

theorem step_moves (session : Session) {step : Step} (given : ∀ config, step ≠ .create config) :
    Moves session (session.event step) (session.step step).1 := by
  cases step with
  | openRoot => exact openRoot_moves session
  | load path => exact load_moves session path
  | create config => exact absurd rfl (given config)
  | init force => exact ⟨rfl, rfl, rfl⟩
  | save draft => exact afterSave_moves session session.disk draft
  | update change => exact afterSave_moves session session.disk (change session.current)
  | subscribe => exact ⟨rfl, rfl, rfl⟩
  | take receiver => exact take_moves session receiver
  | write path content =>
    unfold Session.step
    dsimp only
    split <;> exact ⟨rfl, rfl, rfl⟩

/-- The state of a session as its events leave it. A receiver is known by the number of
subscriptions before its own. Between its last take and now the version of its store has grown by
the settings published. -/
structure Tracked (events : List Event) (session : Session) : Prop where
  current : lastConfig? events = some session.current
  valid : session.current.validate = .ok ()
  count : session.receivers.length = events.count .subscribed
  live : ∀ before after, events = before ++ .subscribed :: after →
    (∀ e ∈ after, e.opens = false) →
    ∃ r, session.receivers[before.count .subscribed]? = some r ∧
      r.store = session.replaced.length ∧
      r.seen + (unseen (before.count .subscribed) after).countP Event.publishes =
        session.context.settings.version
  closed : ∀ before after, events = before ++ .subscribed :: after →
    (∃ e ∈ after, e.opens = true) →
    ∃ r store, session.receivers[before.count .subscribed]? = some r ∧
      session.replaced[r.store]? = some store ∧
      lastConfig? (before ++ after.takeWhile (!·.opens)) = some store.current

theorem lastConfig?_concat (events : List Event) (e : Event) :
    lastConfig? (events ++ [e]) = e.config?.or (lastConfig? events) := by
  unfold lastConfig?
  rw [List.filterMap_append]
  cases found : e.config? with
  | none => simp [found]
  | some config => simp [found]

theorem lastConfig?_append_cons {e : Event} (quiet : e.config? = none) (before after : List Event) :
    lastConfig? (before ++ e :: after) = lastConfig? (before ++ after) := by
  unfold lastConfig?
  rw [List.filterMap_append, List.filterMap_cons_none quiet, List.filterMap_append]

theorem unseen_concat_of_ne {receiver : Nat} {e : Event} (other : e ≠ .took receiver)
    (after : List Event) : unseen receiver (after ++ [e]) = unseen receiver after ++ [e] :=
  List.rtakeWhile_concat_pos _ _ _ (by simpa using other)

theorem unseen_concat_took (receiver : Nat) (after : List Event) :
    unseen receiver (after ++ [.took receiver]) = [] :=
  List.rtakeWhile_concat_neg _ _ _ (by simp)

theorem split_concat {events before after : List Event} {e mark : Event}
    (split : events ++ [e] = before ++ mark :: after) :
    (after = [] ∧ e = mark ∧ before = events) ∨
      ∃ earlier, after = earlier ++ [e] ∧ events = before ++ mark :: earlier := by
  rcases List.eq_nil_or_concat' after with rfl | ⟨earlier, last, rfl⟩
  · obtain ⟨rfl, last⟩ := List.append_inj' split rfl
    cases last
    exact .inl ⟨rfl, rfl, rfl⟩
  · rw [← List.cons_append, ← List.append_assoc] at split
    obtain ⟨same, last_eq⟩ := List.append_inj' split rfl
    cases last_eq
    exact .inr ⟨earlier, rfl, same⟩

section Moves

variable {session after : Session} {e : Event}

theorem Moves.replaced (moves : Moves session e after) :
    ∃ added, after.replaced = session.replaced ++ added := by
  cases e with
  | opened config => exact ⟨_, moves.2.2.1⟩
  | published config => exact ⟨[], by rw [moves.2.2.1, List.append_nil]⟩
  | subscribed => exact ⟨[], by rw [moves.2.1, List.append_nil]⟩
  | took receiver => exact ⟨[], by rw [moves.2.1, List.append_nil]⟩
  | silent => exact ⟨[], by rw [moves.2.1, List.append_nil]⟩

theorem Moves.follows (moves : Moves session e after) {receiver : Nat} {r : Receiver}
    (found : session.receivers[receiver]? = some r) :
    ∃ s, after.receivers[receiver]? = some s ∧ s.store = r.store := by
  cases e with
  | opened config => exact ⟨r, by rw [moves.2.2.2, found], rfl⟩
  | published config => exact ⟨r, by rw [moves.2.2.2, found], rfl⟩
  | silent => exact ⟨r, by rw [moves.2.2, found], rfl⟩
  | subscribed =>
    have inside : receiver < session.receivers.length := (List.getElem?_eq_some_iff.mp found).1
    exact ⟨r, by rw [moves.2.2, List.getElem?_append_left inside, found], rfl⟩
  | took other =>
    rw [moves.2.2]
    cases session.storeOf? other with
    | none => exact ⟨r, found, rfl⟩
    | some store =>
      rw [Option.map_some, Option.getD_some, List.getElem?_modify, found]
      by_cases same : other = receiver
      · exact ⟨{ r with seen := store.version }, by simp [same], rfl⟩
      · exact ⟨r, by simp [same], rfl⟩

/-- A receiver of the live store falls behind by one with every publication, and catches up when it
takes the settings. -/
theorem Moves.behind (moves : Moves session e after) (stays : e.opens = false) {receiver : Nat}
    {r : Receiver} {history : List Event} (found : session.receivers[receiver]? = some r)
    (store : r.store = session.replaced.length)
    (seen : r.seen + (unseen receiver history).countP Event.publishes =
      session.context.settings.version) :
    ∃ s, after.receivers[receiver]? = some s ∧ s.store = after.replaced.length ∧
      s.seen + (unseen receiver (history ++ [e])).countP Event.publishes =
        after.context.settings.version := by
  cases e with
  | opened config => cases stays
  | published config =>
    obtain ⟨-, settings, replaced, receivers⟩ := moves
    refine ⟨r, by rw [receivers, found], by rw [replaced, store], ?_⟩
    rw [unseen_concat_of_ne (by simp), List.countP_append, settings, SettingsStore.publish, ← seen,
      Nat.add_assoc]
    rfl
  | silent =>
    obtain ⟨context, replaced, receivers⟩ := moves
    refine ⟨r, by rw [receivers, found], by rw [replaced, store], ?_⟩
    rw [unseen_concat_of_ne (by simp), List.countP_append, context, ← seen]
    rfl
  | subscribed =>
    obtain ⟨context, replaced, receivers⟩ := moves
    have inside : receiver < session.receivers.length := (List.getElem?_eq_some_iff.mp found).1
    refine ⟨r, by rw [receivers, List.getElem?_append_left inside, found],
      by rw [replaced, store], ?_⟩
    rw [unseen_concat_of_ne (by simp), List.countP_append, context, ← seen]
    rfl
  | took other =>
    obtain ⟨context, replaced, receivers⟩ := moves
    by_cases same : other = receiver
    · subst same
      have own : session.storeOf? other = some session.context.settings := by
        simp [storeOf?, stores, found, store]
      rw [own, Option.map_some, Option.getD_some] at receivers
      refine ⟨{ r with seen := session.context.settings.version }, ?_, by rw [replaced, ← store], ?_⟩
      · simp [receivers, found]
      · rw [unseen_concat_took, context]
        rfl
    · refine ⟨r, ?_, by rw [replaced, store], ?_⟩
      · rw [receivers]
        cases session.storeOf? other <;> simp [found, same]
      · rw [unseen_concat_of_ne (by simpa using same), List.countP_append, context, ← seen]
        rfl

theorem Moves.current (moves : Moves session e after) :
    after.current = e.config?.getD session.current := by
  cases e with
  | opened config => exact moves.2.1
  | published config => exact congrArg SettingsStore.current moves.2.1
  | subscribed => exact congrArg Context.config moves.1
  | took receiver => exact congrArg Context.config moves.1
  | silent => exact congrArg Context.config moves.1

theorem Moves.valid (moves : Moves session e after) (valid : session.current.validate = .ok ()) :
    after.current.validate = .ok () := by
  rw [moves.current]
  cases e with
  | opened config => exact moves.1
  | published config => exact moves.1
  | subscribed => exact valid
  | took receiver => exact valid
  | silent => exact valid

theorem Moves.count (moves : Moves session e after) :
    after.receivers.length = session.receivers.length + [e].count .subscribed := by
  cases e with
  | opened config => simp [moves.2.2.2]
  | published config => simp [moves.2.2.2]
  | subscribed => simp [moves.2.2]
  | took receiver =>
    rw [moves.2.2]
    cases session.storeOf? receiver <;> simp
  | silent => simp [moves.2.2]

end Moves

theorem lastConfig?_of_split {events before after : List Event}
    (split : events = before ++ .subscribed :: after) :
    lastConfig? events = lastConfig? (before ++ after) := by
  rw [split]
  exact lastConfig?_append_cons rfl before after

theorem takeWhile_concat_of_opens {earlier : List Event} (opened : ∃ e ∈ earlier, e.opens = true)
    (last : Event) :
    (earlier ++ [last]).takeWhile (!·.opens) = earlier.takeWhile (!·.opens) := by
  induction earlier with
  | nil => simp at opened
  | cons e rest ih =>
    cases opens : e.opens with
    | true => simp [opens]
    | false =>
      have later : ∃ e ∈ rest, e.opens = true := by simpa [opens] using opened
      rw [List.cons_append, List.takeWhile_cons, List.takeWhile_cons, ih later]

theorem takeWhile_of_quiet {earlier : List Event} (quiet : ∀ e ∈ earlier, e.opens = false)
    (last : Event) (opens : last.opens = true) :
    (earlier ++ [last]).takeWhile (!·.opens) = earlier := by
  have none : [last].takeWhile (!·.opens) = [] := by simp [opens]
  rw [List.takeWhile_append_of_pos (by simpa using quiet), none, List.append_nil]

theorem Tracked.step {events : List Event} {session after : Session} {e : Event}
    (tracked : Tracked events session) (moves : Moves session e after) :
    Tracked (events ++ [e]) after where
  current := by rw [lastConfig?_concat, moves.current, tracked.current, Option.or_some]
  valid := moves.valid tracked.valid
  count := by rw [moves.count, tracked.count, List.count_append]
  live := by
    intro before behind split quiet
    rcases split_concat split with ⟨rfl, rfl, rfl⟩ | ⟨earlier, rfl, old⟩
    · -- The receiver has just subscribed.
      obtain ⟨context, replaced, receivers⟩ := moves
      refine ⟨{ store := session.replaced.length, seen := session.context.settings.version },
        ?_, by rw [replaced], by rw [context]; rfl⟩
      rw [receivers, ← tracked.count, List.getElem?_concat_length]
    · obtain ⟨r, found, store, seen⟩ := tracked.live before earlier old fun e member =>
        quiet e (List.mem_append_left _ member)
      exact moves.behind (quiet e (by simp)) found store seen
  closed := by
    intro before behind split opened
    rcases split_concat split with ⟨rfl, -, -⟩ | ⟨earlier, rfl, old⟩
    · simp at opened
    · by_cases already : ∃ e ∈ earlier, e.opens = true
      · obtain ⟨r, store, found, kept, last⟩ := tracked.closed before earlier old already
        obtain ⟨s, same, follows⟩ := moves.follows found
        obtain ⟨added, grown⟩ := moves.replaced
        have inside : r.store < session.replaced.length := (List.getElem?_eq_some_iff.mp kept).1
        refine ⟨s, store, same, ?_, by rw [takeWhile_concat_of_opens already, last]⟩
        rw [follows, grown, List.getElem?_append_left inside, kept]
      · -- The store of the receiver is replaced in this step.
        have quiet : ∀ e ∈ earlier, e.opens = false := by simpa using already
        obtain ⟨x, member, opens⟩ := opened
        have now : e.opens = true := by
          rcases List.mem_append.mp member with among | final
          · exact absurd ⟨x, among, opens⟩ already
          · rwa [List.mem_singleton.mp final] at opens
        obtain ⟨r, found, store, -⟩ := tracked.live before earlier old quiet
        obtain ⟨s, same, follows⟩ := moves.follows found
        refine ⟨s, session.context.settings, same, ?_, ?_⟩
        · cases e with
          | opened config => rw [moves.2.2.1, follows, store, List.getElem?_concat_length]
          | _ => cases now
        · rw [takeWhile_of_quiet quiet e now, ← lastConfig?_of_split old, tracked.current]
          rfl

theorem Tracked.run {events : List Event} {session : Session} (tracked : Tracked events session)
    {steps : List Step} (given : ∀ config, .create config ∉ steps) :
    Tracked (events ++ session.events steps) (session.run steps) := by
  induction steps generalizing events session with
  | nil => simpa [Session.events, Session.run] using tracked
  | cons step rest ih =>
    have plain : ∀ config, step ≠ .create config := by
      rintro config rfl
      exact given config List.mem_cons_self
    have moved := tracked.step (step_moves session plain)
    have later := ih moved fun config member => given config (List.mem_cons_of_mem _ member)
    rwa [List.append_assoc] at later

theorem Tracked.start {disk : Disk} {env : Environment} {root : Path}
    (opens : ((Session.start disk env root).step .openRoot).2 = .ok ()) :
    Tracked ((Session.start disk env root).events [.openRoot])
      ((Session.start disk env root).run [.openRoot]) := by
  have moves := openRoot_moves (Session.start disk env root)
  simp only [Session.events, Session.run, event] at moves ⊢
  cases loaded : Config.load (Session.start disk env root).disk (Session.start disk env root).env
      (Session.start disk env root).root with
  | error e => simp [Session.step, SettingsStore.load, loaded, Except.map] at opens
  | ok config =>
    rw [loaded] at moves
    obtain ⟨valid, current, -, receivers⟩ := moves
    have alone : ∀ before after, [Event.opened config] ≠ before ++ .subscribed :: after := by
      intro before after split
      have member : Event.subscribed ∈ [Event.opened config] := by
        rw [split]
        simp
      simp at member
    exact
      { current := by rw [current]; rfl
        valid := by rw [current, valid]
        count := by rw [receivers]; rfl
        live := fun before after split => absurd split (alone before after)
        closed := fun before after split => absurd split (alone before after) }

/-- What the events of a session say about it now: the settings in effect are the last that were
opened or published, and they can be used. A receiver, known by the number of subscriptions before
its own, is told of a change exactly if settings were published since it subscribed and last took
them. Once its store has been replaced it is told so, and takes what that store held last. -/
structure Follows (events : List Event) (session : Session) : Prop where
  current : lastConfig? events = some session.current
  valid : session.current.validate = .ok ()
  live : ∀ before after, events = before ++ .subscribed :: after →
    (∀ e ∈ after, e.opens = false) →
    session.notice? (before.count .subscribed) =
      (if (unseen (before.count .subscribed) after).any Event.publishes then some .changed
        else some .unchanged) ∧
    (session.step (.take (before.count .subscribed))).1.published? (before.count .subscribed) =
      some session.current
  closed : ∀ before after, events = before ++ .subscribed :: after →
    (∃ e ∈ after, e.opens = true) →
    session.notice? (before.count .subscribed) = some .closed ∧
    (session.step (.take (before.count .subscribed))).1.published? (before.count .subscribed) =
      lastConfig? (before ++ after.takeWhile (!·.opens))

theorem published?_take (session : Session) (receiver : Nat) :
    (session.step (.take receiver)).1.published? receiver = session.published? receiver := by
  have moves := take_moves session receiver
  have same : (session.step (.take receiver)).1.stores = session.stores := by
    rw [stores, moves.1, moves.2.1, stores]
  cases found : session.receivers[receiver]? with
  | none =>
    have absent : session.storeOf? receiver = none := by simp [storeOf?, found]
    simp only [Session.step, absent]
  | some r =>
    obtain ⟨s, kept, follows⟩ := moves.follows found
    simp only [published?, storeOf?, kept, found, Option.bind_some, same, follows]

theorem Tracked.follows {events : List Event} {session : Session}
    (tracked : Tracked events session) : Follows events session where
  current := tracked.current
  valid := tracked.valid
  live := by
    intro before after split quiet
    obtain ⟨r, found, store, seen⟩ := tracked.live before after split quiet
    constructor
    · have held : ¬ r.store < session.replaced.length := by omega
      rw [notice?, found, Option.map_some, if_neg held]
      by_cases changed : (unseen (before.count .subscribed) after).any Event.publishes
      · have behind : 0 < (unseen (before.count .subscribed) after).countP Event.publishes := by
          rw [List.countP_pos_iff]
          simpa using changed
        rw [if_pos changed, if_neg (by omega)]
      · have level : (unseen (before.count .subscribed) after).countP Event.publishes = 0 := by
          rw [List.countP_eq_zero]
          simpa using changed
        rw [if_neg changed, if_pos (by omega)]
    · rw [published?_take]
      simp [published?, storeOf?, stores, found, store, Session.current, Context.config]
  closed := by
    intro before after split opened
    obtain ⟨r, store, found, kept, last⟩ := tracked.closed before after split opened
    have gone : r.store < session.replaced.length := (List.getElem?_eq_some_iff.mp kept).1
    constructor
    · rw [notice?, found, Option.map_some, if_pos gone]
    · rw [published?_take, last]
      simp only [published?, storeOf?, stores, found, Option.bind_some,
        List.getElem?_append_left gone, kept, Option.map_some]

theorem run_follows_events (disk : Disk) (env : Environment) (root : Path) {steps : List Step}
    (opens : ((start disk env root).step .openRoot).2 = .ok ())
    (given : ∀ config, .create config ∉ steps) :
    Follows ((start disk env root).events (.openRoot :: steps))
      ((start disk env root).run (.openRoot :: steps)) :=
  ((Tracked.start opens).run given).follows

def emptyWorkspace : Disk where
  tree := FileTree.empty.put [Text.bytesOf "ws"] .directory
  workingDirectory := []

def otherVersion : Config := { Config.default with version := "2" }

def replacement : List Step :=
  [.subscribe, .save otherVersion, .write (.ofText "ws/.pyweave/config.toml") .empty,
    .update fun c => Config.draft { c with analysis := { c.analysis with maxFileSize := 0 } },
    .openRoot]

theorem run_follows_events_replacement :
    (((start emptyWorkspace ⟨[]⟩ (.ofText "ws")).step .openRoot).2 = .ok () ∧
      ∀ config, .create config ∉ replacement) ∧
    ((start emptyWorkspace ⟨[]⟩ (.ofText "ws")).run (.openRoot :: replacement)).current = .default ∧
    ((start emptyWorkspace ⟨[]⟩ (.ofText "ws")).run (.openRoot :: replacement)).notice? 0 =
      some .closed ∧
    (((start emptyWorkspace ⟨[]⟩ (.ofText "ws")).run (.openRoot :: replacement)).step
      (.take 0)).1.published? 0 = some otherVersion := by
  have opens : ((start emptyWorkspace ⟨[]⟩ (.ofText "ws")).step .openRoot).2 = .ok () := rfl
  have given : ∀ config, .create config ∉ replacement := by simp [replacement]
  have happened : (start emptyWorkspace ⟨[]⟩ (.ofText "ws")).events (.openRoot :: replacement) =
      [.opened .default] ++ .subscribed :: [.published otherVersion, .silent, .silent,
        .opened .default] := by
    decide +kernel
  have follows := run_follows_events emptyWorkspace ⟨[]⟩ (.ofText "ws") opens given
  have current := follows.current
  have closed := follows.closed _ _ happened (by simp [Event.opens])
  rw [happened] at current
  exact ⟨⟨opens, given⟩, (Option.some.inj current).symm, closed.1, closed.2⟩

end Session

end Outline
