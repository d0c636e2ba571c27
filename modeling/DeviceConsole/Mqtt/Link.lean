import DeviceConsole.Session.Transport

/-!
# A link to a broker

A link belongs to one session.  It attends to the connection with the broker: what the connection
gives becomes events of the session, and acknowledgements end the waits of calls.  An
acknowledgement does not say which request it is for; it is taken for the oldest one of its kind.
This file defines:

* `Outcome`, what one look at the connection gives;
* `Link`, with the waits of both kinds: `register`, `withdraw`, `acknowledge` and `abandon`;
* `Link.attend` and `Link.resume`, the two things a link does on its own, and `Link.stop`;
* `Link.start`, the link of a new session.
-/

namespace DeviceConsole

namespace Mqtt

inductive AckKind where
  | subscription
  | unsubscription
  deriving DecidableEq, Repr

/-- What one look at the connection with the broker gives. -/
inductive Outcome where
  | connected
  | refused (code : String)
  | message (packet : Packet)
  /-- An acknowledgement, with a code for each filter of a subscription. -/
  | acknowledged (kind : AckKind) (codes : List UInt8)
  | closedByBroker (reason : Option String)
  | closedByClient
  /-- Nothing of interest. -/
  | quiet
  /-- The connection failed. -/
  | failed (reason : String)
  deriving DecidableEq

/-- Waits are numbered in the order in which they were registered. -/
abbrev WaitId := Nat

inductive WaitEnd where
  | acknowledged (codes : List UInt8)
  /-- The connection was lost first. -/
  | abandoned
  deriving DecidableEq, Repr

inductive Phase where
  | attending
  /-- It waits before it connects again. -/
  | pausing
  | over
  deriving DecidableEq, Repr

structure Link where
  phase : Phase
  /-- How long it waits before it connects again, in milliseconds; zero if it never does. -/
  pause : Nat
  /-- Whether the session was asked to end. -/
  ending : Bool
  /-- Whether anyone takes the events. -/
  heard : Bool
  /-- Whether a call is registering its waits; only one does at a time. -/
  registering : Bool
  /-- The number of waits that were registered. -/
  registered : Nat
  /-- The waits for subscriptions, oldest first. -/
  subscriptions : List WaitId
  /-- The waits for the ends of subscriptions, oldest first. -/
  unsubscriptions : List WaitId
  /-- How waits ended. -/
  ended : List (WaitId × WaitEnd)
  /-- The events so far, newest first. -/
  history : List TransportEvent
  deriving DecidableEq

namespace Link

def ofPause (pause : Nat) : Link where
  phase := .attending
  pause := pause
  ending := false
  heard := true
  registering := false
  registered := 0
  subscriptions := []
  unsubscriptions := []
  ended := []
  history := []

/-- The shortest keepalive, in seconds, that the client of a version can be given. -/
def leastKeepalive : Version → UInt16
  | .three => 0
  | .five => 5

inductive StartFailure where
  | refused (error : TransportError)
  /-- The client breaks off over options that it cannot be given. -/
  | brokenOff
  deriving DecidableEq, Repr

/-- The link of a session with such options; there has to be a host. -/
def start (options : ClientOptions) : Except StartFailure Link :=
  if options.host = "" then .error (.refused (.invalidAddress "broker host is required"))
  else if options.keepalive < leastKeepalive options.version then .error .brokenOff
  else .ok (ofPause options.reconnectPeriod.toNat)

def events (l : Link) : List TransportEvent := l.history.reverse

def isOver (l : Link) : Bool := l.phase = .over

def raise (l : Link) (event : TransportEvent) : Link := { l with history := event :: l.history }

/-! ## Waits -/

def waits (l : Link) : AckKind → List WaitId
  | .subscription => l.subscriptions
  | .unsubscription => l.unsubscriptions

def setWaits (l : Link) (kind : AckKind) (ids : List WaitId) : Link :=
  match kind with
  | .subscription => { l with subscriptions := ids }
  | .unsubscription => { l with unsubscriptions := ids }

def register (kind : AckKind) (l : Link) : WaitId × Link :=
  (l.registered, { l.setWaits kind (l.waits kind ++ [l.registered]) with
    registered := l.registered + 1 })

/-- Takes back the newest wait of a kind. -/
def withdraw (kind : AckKind) (l : Link) : Link := l.setWaits kind (l.waits kind).dropLast

/-- Ends the oldest wait of a kind. -/
def acknowledge (kind : AckKind) (codes : List UInt8) (l : Link) : Link :=
  match l.waits kind with
  | [] => l
  | id :: rest => { l.setWaits kind rest with ended := (id, .acknowledged codes) :: l.ended }

def abandon (l : Link) : Link :=
  { l with
    subscriptions := []
    unsubscriptions := []
    ended := (l.subscriptions ++ l.unsubscriptions).map (·, .abandoned) ++ l.ended }

def end? (l : Link) (id : WaitId) : Option WaitEnd := l.ended.lookup id

/-! ## What a link does on its own -/

def stop (l : Link) : Link := { l.abandon.raise .ended with phase := .over }

/-- Goes on attending to the connection, if anyone takes the events. -/
def goOn (l : Link) : Link := if l.heard then { l with phase := .attending } else l.stop

/-- Loses the connection: nothing is said about it if the session is ending anyway. -/
def lose (l : Link) (reason : String) : Link :=
  if l.ending then l.stop
  else
    let l := (l.abandon.raise (.error reason)).raise (.close none)
    if l.pause = 0 then l.stop else { l with phase := .pausing }

def attend (l : Link) : Outcome → Link
  | .connected => (l.raise .connected).goOn
  | .refused code => (l.raise (.error ("Connection refused: " ++ code))).goOn
  | .message packet => (l.raise (.message packet)).goOn
  | .acknowledged kind codes => (l.acknowledge kind codes).goOn
  | .closedByBroker reason =>
    (l.raise (.close (some (reason.getD "Disconnected by broker")))).goOn
  | .closedByClient => (l.raise (.close none)).stop
  | .quiet => l.goOn
  | .failed reason => l.lose reason

/-- Connects again after a pause, unless the session is ending. -/
def resume (l : Link) : Link := if l.ending then l.stop else (l.raise .reconnecting).goOn

end Link

end Mqtt

end DeviceConsole
