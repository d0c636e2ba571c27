import DeviceConsole.Catalog.Basic
import DeviceConsole.Notification
import DeviceConsole.Program
import DeviceConsole.Session.Snapshot
import DeviceConsole.Session.Transport
import DeviceConsole.Settings
import DeviceConsole.Storage.Profiles

/-!
# The state of a console

A console holds profiles and, for each of them, a connection.  Connections stay known after they
were destroyed, so that what is still under way for them has something to refer to.  This file
defines:

* `Connection`, the state of one connection;
* `Console`, the state of all, with the small changes that operations are made of;
* `Console.start`, a console over stored profiles;
* `Operation`, a program over a console.
-/

namespace DeviceConsole

/-- The state of a connection.  What observers were shown last is `shown`; `writes` counts how often
they were shown something. -/
structure Connection where
  id : ConnectionId
  profile : Profile
  session : Option SessionId
  snapshot : Snapshot
  /-- The token of the connect call whose session has not come up yet. -/
  token : Option String
  resubscribe : Bool
  destroyed : Bool
  shown : Snapshot
  writes : Nat
  deriving DecidableEq

namespace Connection

def ofProfile (p : Profile) : Connection where
  id := p.id
  profile := p
  session := none
  snapshot := .initial
  token := none
  resubscribe := false
  destroyed := false
  shown := .initial
  writes := 0

instance : Inhabited Connection := ⟨ofProfile default⟩

/-- Shows observers the present state. -/
def display (c : Connection) : Connection :=
  { c with shown := c.snapshot, writes := c.writes + 1 }

/-- Changes what observers see, and shows it. -/
def present (c : Connection) (change : Snapshot → Snapshot) : Connection :=
  { c with snapshot := change c.snapshot }.display

def owns (c : Connection) (session : SessionId) : Bool := c.session = some session

/-- The session, if messages can be sent over it. -/
def openSession? (c : Connection) : Option SessionId :=
  if c.snapshot.status.isConnected then c.session else none

/-- The id of the thing for templates; servers stand for all things. -/
def thingId (c : Connection) : String := c.profile.thingId?.getD "+"

end Connection

/-- Connections are referred to by their place in the list of all connections. -/
abbrev ConnectionRef := Nat

structure Console where
  settings : Settings
  catalog : Catalog
  profiles : List Profile
  /-- Every connection that was ever made. -/
  connections : List Connection
  /-- The connections in use, by the id of their profile. -/
  current : List (ConnectionId × ConnectionRef)
  /-- Who handles the events of a session. -/
  handlers : List (SessionId × ConnectionRef)
  /-- Whether an attempt to connect is under way. -/
  gateHeld : Bool
  focus : Option ConnectionId
  storage : ProfileStorage
  /-- What the operator was told, oldest first. -/
  notices : List Notification
  bus : EventBus
  /-- The time in milliseconds. -/
  clock : Int

namespace Console

/-! ## Connections -/

def connection (c : Console) (i : ConnectionRef) : Connection := c.connections.getD i default

def update (c : Console) (i : ConnectionRef) (change : Connection → Connection) : Console :=
  { c with connections := c.connections.modify i change }

/-- Changes what observers see of a connection, and shows it. -/
def present (c : Console) (i : ConnectionRef) (change : Snapshot → Snapshot) : Console :=
  c.update i (·.present change)

def current? (c : Console) (id : ConnectionId) : Option ConnectionRef := c.current.lookup id

def retire (c : Console) (id : ConnectionId) : Console :=
  { c with current := c.current.filter (·.1 ≠ id) }

/-- Makes a connection for a profile, unless one is in use for its id. -/
def ensure (c : Console) (p : Profile) : ConnectionRef × Console :=
  match c.current? p.id with
  | some i => (i, c)
  | none =>
    let i := c.connections.length
    (i, { c with
      connections := c.connections ++ [.ofProfile p]
      current := c.current ++ [(p.id, i)] })

def configure (c : Console) (p : Profile) : Console :=
  match c.current? p.id with
  | some i => c.update i fun connection => { connection with profile := p }
  | none => c

/-! ## Profiles -/

def profile? (c : Console) (id : ConnectionId) : Option Profile :=
  c.profiles.find? fun p => p.id = id

def replaceFirst (id : ConnectionId) (change : Profile → Profile) : List Profile → List Profile
  | [] => []
  | p :: rest => if p.id = id then change p :: rest else p :: replaceFirst id change rest

def removeFirst (id : ConnectionId) (profiles : List Profile) : List Profile :=
  profiles.eraseP fun p => p.id = id

/-- Takes over new profiles, and then stores them, which may fail. -/
def saveProfiles (c : Console) (profiles : List Profile) : Except StorageError Unit × Console :=
  let (saved, storage) := c.storage.save profiles
  (saved, { c with profiles := profiles, storage := storage })

/-! ## The gate, the operator and the listeners -/

def holdGate (c : Console) : Console := { c with gateHeld := true }

def releaseGate (c : Console) : Console := { c with gateHeld := false }

def setFocus (c : Console) (id : Option ConnectionId) : Console := { c with focus := id }

def notify (c : Console) (level : NoticeLevel) (text : String) : Console :=
  { c with notices := c.notices ++ [⟨level, text⟩] }

def notifyAll (c : Console) (notices : List Notification) : Console :=
  { c with notices := c.notices ++ notices }

def raise (c : Console) (scope : ThingScope) (id : ConnectionId) (kind : ThingEventKind) :
    Console :=
  { c with bus := c.bus.publish ⟨scope, id, c.clock, kind⟩ }

/-- Raises an event of a connection, under the scope of its profile. -/
def raiseFor (c : Console) (i : ConnectionRef) (kind : ThingEventKind) : Console :=
  c.raise (c.connection i).profile.scope (c.connection i).id kind

/-! ## Beginning -/

/-- Makes a connection for each profile; of profiles with one id, the last one counts. -/
def addAll (c : Console) : List Profile → Console
  | [] => c
  | p :: rest => addAll ((c.ensure p).2.configure p) rest

/-- A console over stored profiles, with the focus on the first one. -/
def start (settings : Settings) (catalog : Catalog) (storage : ProfileStorage)
    (fresh : Nat → ConnectionId) (clock : Int) : Console :=
  let profiles := storage.load fresh
  let empty : Console := {
    settings := settings
    catalog := catalog
    profiles := profiles
    connections := []
    current := []
    handlers := []
    gateHeld := false
    focus := profiles.head?.map (·.id)
    storage := storage
    notices := []
    bus := .ofCapacity settings.eventCapacity
    clock := clock }
  empty.addAll profiles

/-- What observers see of each profile's connection, in profile order. -/
def snapshots (c : Console) : List (ConnectionId × Snapshot) :=
  c.profiles.filterMap fun p => (c.current? p.id).map fun i => (p.id, (c.connection i).snapshot)

end Console

/-- An operation of a console, which may ask the transport. -/
abbrev Operation (α : Type) := Program Console Request.Reply α

def Operation.ask (r : Request) : Operation r.Reply := Program.ask r

end DeviceConsole
