import DeviceConsole.Mqtt.Link
import DeviceConsole.Program

/-!
# Calls on a session

Publishing, subscribing and ending are programs over the link of the session.  A call that is to be
acknowledged registers its wait before it hands over its request, and while it does so no other call
registers any, so that waits stand in the order of the requests.  This file defines:

* `Ask`, what a call waits for, with the type of its `Reply`;
* `Call`, and the calls `publish`, `subscribe`, `unsubscribe` and `close`.
-/

namespace DeviceConsole

namespace Mqtt

inductive ClientRequest where
  | publish (topic : String) (payload : Bytes) (options : PublishOptions)
  | subscribe (filters : List FilterRequest)
  | unsubscribe (filter : String)
  | disconnect
  deriving DecidableEq

/-- What a call waits for. -/
inductive Ask where
  /-- Until no other call registers waits. -/
  | turn
  /-- Until the client took a request. -/
  | submit (request : ClientRequest)
  /-- Until a wait ended, or for too long. -/
  | await (wait : WaitId)
  deriving DecidableEq

def Ask.Reply : Ask → Type
  | turn => Unit
  | submit _ => Except TransportError Unit
  | await _ => Option WaitEnd

abbrev Call (α : Type) := Program Link Ask.Reply α

abbrev Result (α : Type) := Except TransportError α

namespace Call

def ask (a : Ask) : Call a.Reply := Program.ask a

/-- The time after which a missing acknowledgement is given up, in seconds. -/
def ackTimeout : Nat := 30

/-- What the end of a wait means for a call. -/
def acknowledgement (what : String) : Option WaitEnd → Result (List UInt8)
  | some (.acknowledged codes) => .ok codes
  | some .abandoned =>
    .error (.channelClosed (what ++ " was not acknowledged before the connection closed"))
  | none =>
    .error (.connectionFailed
      (what ++ " acknowledgement timed out after " ++ toString ackTimeout ++ "s"))

/-- Lets another call register its waits. -/
def yieldTurn (l : Link) : Link := { l with registering := false }

def registerAndSubmit (kind : AckKind) (request : ClientRequest) : Call (Result WaitId) := do
  let wait ← Program.atomically (Link.register kind)
  match ← ask (.submit request) with
  | .error error =>
    -- No other call registers meanwhile, so the newest wait is this one.
    Program.change (Link.withdraw kind)
    return .error error
  | .ok () => return .ok wait

/-- Sends a message; nothing is waited for. -/
def publish (topic : String) (payload : Bytes) (options : PublishOptions) : Call (Result Unit) := do
  if ← Program.look Link.isOver then return .error .notOpen
  else ask (.submit (.publish topic payload options))

/-- Subscribes filters; the answer is a code for each of them. -/
def subscribe (filters : List FilterRequest) : Call (Result (List UInt8)) := do
  if ← Program.look Link.isOver then return .error .notOpen
  else
    ask .turn
    let submitted ← registerAndSubmit .subscription (.subscribe filters)
    Program.change yieldTurn
    match submitted with
    | .error error => return .error error
    | .ok wait => return acknowledgement "Subscription" (← ask (.await wait))

/-- Hands over a request for each filter, up to the first that is not taken. -/
def submitEach : List String → Call (Result (List WaitId))
  | [] => return .ok []
  | filter :: rest => do
    match ← registerAndSubmit .unsubscription (.unsubscribe filter) with
    | .error error => return .error error
    | .ok wait => return (← submitEach rest).map (wait :: ·)

/-- Waits for one acknowledgement after the other, up to the first that does not come. -/
def awaitEach : List WaitId → Call (Result Unit)
  | [] => return .ok ()
  | wait :: rest => do
    match acknowledgement "Unsubscription" (← ask (.await wait)) with
    | .error error => return .error error
    | .ok _ => awaitEach rest

def unsubscribe (filters : List String) : Call (Result Unit) := do
  if ← Program.look Link.isOver then return .error .notOpen
  else
    ask .turn
    let submitted ← submitEach filters
    Program.change yieldTurn
    match submitted with
    | .error error => return .error error
    | .ok waits => awaitEach waits

/-- Ends the session, which may have stopped already. -/
def close : Call (Result Unit) := do
  if ← Program.atomically fun l => (l.isOver, { l with ending := true }) then return .ok ()
  else
    match ← ask (.submit .disconnect) with
    | .ok () => return .ok ()
    | .error error =>
      if ← Program.look Link.isOver then return .ok () else return .error error

end Call

end Mqtt

end DeviceConsole
