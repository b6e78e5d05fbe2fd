import Outline.Settings.Store

namespace Outline

structure Receiver where
  /-- Which store of the session it follows, counted from 0. -/
  store : Nat
  seen : Nat
deriving Repr, DecidableEq

structure Session where
  disk : Disk
  env : Environment
  root : Path
  context : Context
  /-- The last states of the stores that were replaced, the oldest first. -/
  replaced : List SettingsStore
  receivers : List Receiver

inductive Notice where
  | unchanged
  | changed
  | closed
deriving Repr, DecidableEq

namespace Session

def start (disk : Disk) (env : Environment) (root : Path) : Session where
  disk
  env
  root
  context := .new root .default
  replaced := []
  receivers := []

inductive Step where
  | openRoot
  | load (path : Option Path)
  | create (config : Config)
  | init (force : Bool)
  | save (draft : Draft)
  | update (change : Config → Draft)
  | subscribe
  | take (receiver : Nat)
  | write (path : Path) (content : ByteArray)

def current (session : Session) : Config := session.context.config

def stores (session : Session) : List SettingsStore :=
  session.replaced ++ [session.context.settings]

def storeOf? (session : Session) (receiver : Nat) : Option SettingsStore :=
  session.receivers[receiver]?.bind fun r => session.stores[r.store]?

def published? (session : Session) (receiver : Nat) : Option Config :=
  (session.storeOf? receiver).map (·.current)

def notice? (session : Session) (receiver : Nat) : Option Notice :=
  session.receivers[receiver]?.map fun r =>
    if r.store < session.replaced.length then .closed
    else if r.seen = session.context.settings.version then .unchanged
    else .changed

def replaceContext (session : Session) (context : Context) : Session :=
  { session with context, replaced := session.replaced ++ [session.context.settings] }

def afterSave (session : Session) (outcome : Disk × Except Error SettingsStore) :
    Session × Except Error Unit :=
  match outcome with
  | (disk, .ok settings) =>
    ({ session with disk, context := { session.context with settings } }, .ok ())
  | (disk, .error e) => ({ session with disk }, .error e)

def place (disk : Disk) (path : Path) (content : ByteArray) : Disk × Except DiskFault Unit :=
  match (path.parent?.map disk.makeDirectories).getD (disk, .ok ()) with
  | (disk, .error fault) => (disk, .error fault)
  | (disk, .ok ()) => disk.write path content

def step (session : Session) : Step → Session × Except Error Unit
  | .openRoot =>
    match SettingsStore.load session.disk session.env session.root with
    | .ok settings => (session.replaceContext { session.context with settings }, .ok ())
    | .error e => (session, .error e)
  | .load path =>
    match Context.load session.disk session.env path with
    | .ok context => (session.replaceContext context, .ok ())
    | .error e => (session, .error e)
  | .create config => (session.replaceContext (.new session.root config), .ok ())
  | .init force =>
    let (disk, outcome) := SettingsStore.init session.disk session.root force
    ({ session with disk }, outcome.map fun _ => ())
  | .save draft => session.afterSave (session.context.settings.save session.disk draft)
  | .update change => session.afterSave (session.context.settings.update session.disk change)
  | .subscribe =>
    let receiver : Receiver :=
      { store := session.replaced.length, seen := session.context.settings.version }
    ({ session with receivers := session.receivers ++ [receiver] }, .ok ())
  | .take receiver =>
    match session.storeOf? receiver with
    | some store =>
      ({ session with
          receivers := session.receivers.modify receiver fun r => { r with seen := store.version } },
        .ok ())
    | none => (session, .ok ())
  | .write path content =>
    match place session.disk path content with
    | (disk, .ok ()) => ({ session with disk }, .ok ())
    | (disk, .error fault) => ({ session with disk }, .error (.disk fault))

end Session

end Outline
