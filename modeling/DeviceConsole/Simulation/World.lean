import DeviceConsole.Session.Operations

/-!
# A console with a simulated transport

The simulated transport opens sessions, takes every request, and lets whoever runs it raise events
and order failures.  An order may also be a hook: further work that is done inside the next request
of a kind.  This file defines:

* `World`, a console with its transport; the kinds of work and of reports are parameters;
* `World.drive`, which runs a program, and `World.settle`, which handles the events that wait;
* `World.observe`, everything that happened since the last observation.
-/

namespace DeviceConsole

inductive RequestKind where
  | open
  | publish
  | subscribe
  | unsubscribe
  | close
  deriving DecidableEq, Repr

def Request.kind : Request → RequestKind
  | .open _ => .open
  | .publish _ _ _ _ => .publish
  | .subscribe _ _ => .subscribe
  | .unsubscribe _ _ => .unsubscribe
  | .close _ => .close

/-- A connection that was observed: its place, and how often it had shown itself then. -/
structure Sighting where
  id : ConnectionId
  ref : ConnectionRef
  writes : Option Nat

/-- A console with a simulated transport.  Hooks hold work of type `ω`, and reports on such work
have type `ρ`. -/
structure World (ω ρ : Type) where
  console : Console
  /-- The number of sessions that were opened. -/
  opened : Nat
  /-- The requests since the last observation. -/
  requests : List Request
  failures : List (RequestKind × TransportError)
  /-- The codes that the next subscription is answered with. -/
  grant : Option (List UInt8)
  /-- Whether sessions end without an event. -/
  quietEnd : Bool
  hooks : List (RequestKind × ω)
  /-- The events that wait, by session. -/
  queues : List (SessionId × List TransportEvent)
  /-- The sessions whose events wait, in the order in which they are handled. -/
  ready : List SessionId
  /-- The sessions of which an event is being handled. -/
  busy : List SessionId
  /-- The reports on work that was done inside requests. -/
  nested : List ρ
  /-- The number of ids that were made. -/
  serial : Nat
  /-- The made ids, in the order in which they appeared among the profiles. -/
  appeared : List ConnectionId
  /-- The ids under which connections are looked for. -/
  sought : List ConnectionId
  sightings : List Sighting

namespace World

variable {ω ρ α : Type}

/-- How work is done inside a request. -/
abbrev Runner (ω ρ : Type) := ω → World ω ρ → World ω ρ

/-! ## The transport -/

def queue (w : World ω ρ) (s : SessionId) : List TransportEvent := (w.queues.lookup s).getD []

def setQueue (w : World ω ρ) (s : SessionId) (events : List TransportEvent) : World ω ρ :=
  { w with queues := (s, events) :: w.queues.filter (·.1 ≠ s) }

/-- Makes a session ready, after those that are. -/
def enqueue (w : World ω ρ) (s : SessionId) : World ω ρ :=
  { w with ready := if s ∈ w.ready then w.ready else w.ready ++ [s] }

def emit (w : World ω ρ) (s : SessionId) (events : List TransportEvent) : World ω ρ :=
  (w.setQueue s (w.queue s ++ events)).enqueue s

def perform (w : World ω ρ) : (r : Request) → r.Answer × World ω ρ
  | .open _ => (w.opened, { w with opened := w.opened + 1 }.enqueue w.opened)
  | .publish _ _ _ _ => ((), w)
  | .subscribe _ filters =>
    match w.grant with
    | some codes => (codes, { w with grant := none })
    | none => (filters.map fun filter => UInt8.ofNat filter.2.qos.level, w)
  | .unsubscribe _ _ => ((), w)
  | .close s => ((), if w.quietEnd then w else w.emit s [.ended])

def runHook (run : Runner ω ρ) (kind : RequestKind) (w : World ω ρ) : World ω ρ :=
  match w.hooks.lookup kind with
  | none => w
  | some work => run work { w with hooks := w.hooks.filter (·.1 ≠ kind) }

/-- Answers a request: it is noted, then comes the hook, then a failure if one was ordered. -/
def serve (run : Runner ω ρ) (w : World ω ρ) (r : Request) : r.Reply × World ω ρ :=
  let w := runHook run r.kind { w with requests := w.requests ++ [r] }
  -- The hook may have ordered this failure, or taken the order back.
  match w.failures.lookup r.kind with
  | some error => (.error error, w)
  | none =>
    let (answer, w) := w.perform r
    (.ok answer, w)

def drive (run : Runner ω ρ) : Operation α → World ω ρ → α × World ω ρ
  | .done a, w => (a, w)
  | .step change next, w =>
    drive run (next w.console) { w with console := change w.console }
  | .request r next, w =>
    let (reply, w) := w.serve run r
    drive run (next reply) w

/-! ## Events -/

def stop (w : World ω ρ) (s : SessionId) : World ω ρ :=
  { w.setQueue s [] with
    console := { w.console with handlers := w.console.handlers.filter (·.1 ≠ s) }
    ready := w.ready.filter (· ≠ s) }

/-- Handles the next event of a session; after the last one the session is not ready any more.
Nothing is handled after the end, or for a connection that was destroyed. -/
def handleNext (run : Runner ω ρ) (s : SessionId) (w : World ω ρ) : World ω ρ :=
  match w.queue s with
  | [] => { w with ready := w.ready.filter (· ≠ s) }
  | event :: rest =>
    match w.console.handlers.lookup s with
    | none => w.stop s
    | some i =>
      if (w.console.connection i).destroyed then w.stop s
      else
        -- Work inside requests settles too; it must not overtake this event.
        let w := { w.setQueue s rest with busy := s :: w.busy }
        let (_, w) := drive run (Connection.react i s event) w
        let w := { w with busy := w.busy.erase s }
        if event = .ended then w.stop s else w

/-- Handles at most so many events, each session's in order. -/
def settleFor (run : Runner ω ρ) : Nat → World ω ρ → World ω ρ
  | 0, w => w
  | n + 1, w =>
    match w.ready.find? fun s => s ∉ w.busy with
    | none => w
    | some s => settleFor run n (w.handleNext run s)

/-- More events than are ever raised. -/
def patience : Nat := Nat.pow 2 40

def settle (run : Runner ω ρ) (w : World ω ρ) : World ω ρ := settleFor run patience w

/-! ## Made ids -/

def madeMark : Nat := 0xfeedc0de5eed4bad8bad

def madeId (n : Nat) : ConnectionId := ⟨BitVec.ofNat 128 (madeMark * Nat.pow 2 48 + n)⟩

def isMade (id : ConnectionId) : Bool := id.value.toNat / Nat.pow 2 48 = madeMark

/-! ## Observing -/

def ownListener : String := "observer"

def listenerName (name : String) : String := "listener " ++ name

structure Observation (ρ : Type) where
  gateHeld : Bool
  focus : Option ConnectionId
  notices : List Notification
  heard : Listener
  requests : List Request
  /-- The connections that were seen for the first time or have shown themselves. -/
  shown : List (ConnectionId × Snapshot)
  nested : List ρ

/-- Notes which connection is in use for an id; if none is, the last one stays in sight. -/
def sight (c : Console) (sightings : List Sighting) (id : ConnectionId) : List Sighting :=
  match c.current? id with
  | none => sightings
  | some i =>
    match sightings.find? fun s => s.id = id with
    | none => sightings ++ [⟨id, i, none⟩]
    | some known =>
      if known.ref = i then sightings
      else sightings.map fun s => if s.id = id then ⟨id, i, none⟩ else s

def lastSeen (w : World ω ρ) (id : ConnectionId) : Option ConnectionRef :=
  (w.sightings.find? fun s => s.id = id).map (·.ref)

/-- Notes the made ids that have appeared among the profiles, and the connections in use. -/
def lookAround (w : World ω ρ) : World ω ρ :=
  let ids := w.console.profiles.map (·.id)
  { w with
    appeared := (ids.filter isMade).foldl
      (fun seen id => if id ∈ seen then seen else seen ++ [id]) w.appeared
    sightings := (ids ++ w.sought).foldl (sight w.console) w.sightings }

def isNews (c : Console) (s : Sighting) : Bool := s.writes ≠ some (c.connection s.ref).writes

def observe (w : World ω ρ) : Observation ρ × World ω ρ :=
  let w := w.lookAround
  let (heard, bus) := w.console.bus.drain ownListener
  ({ gateHeld := w.console.gateHeld
     focus := w.console.focus
     notices := w.console.notices
     heard := heard.getD .empty
     requests := w.requests
     shown := (w.sightings.filter (isNews w.console)).map fun s =>
       (s.id, (w.console.connection s.ref).snapshot)
     nested := w.nested },
    { w with
      console := { w.console with notices := [], bus := bus }
      requests := []
      nested := []
      sightings := w.sightings.map fun s =>
        { s with writes := some (w.console.connection s.ref).writes } })

/-! ## Beginning and running -/

def ofConsole (c : Console) (serial : Nat) : World ω ρ where
  console := { c with bus := c.bus.subscribe ownListener }
  opened := 0
  requests := []
  failures := []
  grant := none
  quietEnd := false
  hooks := []
  queues := []
  ready := []
  busy := []
  nested := []
  serial := serial
  appeared := []
  sought := []
  sightings := []

/-- How a step is done and reported on, if it is known how hooks are done. -/
abbrev Stepper (σ ρ : Type) :=
  Runner (List σ) ρ → σ → World (List σ) ρ → ρ × World (List σ) ρ

/-- Does the steps of a hook, with hooks inside hooks up to a depth.  The report on each step goes
to the next observation, be it that of the step after it. -/
def runHooked {σ : Type} (exec : Stepper σ ρ) : Nat → Runner (List σ) ρ
  | 0, _, w => w
  | depth + 1, steps, w =>
    steps.foldl
      (fun w step =>
        let (report, w) := exec (runHooked exec depth) step w
        { w with nested := w.nested ++ [report] })
      w

def runAll {σ : Type} (exec : Stepper σ ρ) (depth : Nat) :
    List σ → World (List σ) ρ → List ρ
  | [], _ => []
  | step :: rest, w =>
    let (report, w) := exec (runHooked exec depth) step w
    report :: runAll exec depth rest w

end World

end DeviceConsole
