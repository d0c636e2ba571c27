import DeviceConsole.Session.Lifecycle
import DeviceConsole.Session.Messaging

/-!
# What a connection does when its session speaks

Only events of the session that the connection holds count.  This file defines a program or a change
for each kind of event, and `Connection.react`, which chooses among them.
-/

namespace DeviceConsole

namespace Connection

def maxAttempts : Nat := 3

/-! ## The session is up -/

/-- The filters to subscribe again after a reconnect, with their declared options. -/
def restorable (connection : Connection) : List FilterRequest :=
  match connection.snapshot.status with
  | .reconnecting _ =>
    if connection.resubscribe then
      connection.snapshot.active.map fun filter =>
        (filter, ((connection.profile.subscription? filter).map (·.options)).getD .default)
    else []
  | _ => []

/-- Takes note that the session is up; the answer is what to subscribe again. -/
def acceptConnected (i : ConnectionRef) (session : SessionId) (c : Console) :
    List FilterRequest × Console :=
  let connection := c.connection i
  if connection.owns session then
    let c := c.update i fun connection =>
      { connection with token := none }.present fun s =>
        { s with status := .connected, retryCount := 0 }
    let c := c.releaseGate.notify .done "Connected"
    -- What is restored depends on the state before this event.
    (connection.restorable,
      match connection.profile.role with
      | .thing => c.raiseFor i (.connected connection.token)
      | .server => c)
  else ([], c)

def onConnected (i : ConnectionRef) (session : SessionId) : Operation Unit := do
  match ← Program.atomically (acceptConnected i session) with
  | [] => return ()
  | filters =>
    let _ ← Operation.ask (.subscribe session filters)
    return ()

/-! ## The session was lost -/

/-- Counts an attempt; the answer tells whether there were too many. -/
def countAttempt (i : ConnectionRef) (session : SessionId) (c : Console) : Bool × Console :=
  let connection := c.connection i
  if connection.owns session then
    if connection.snapshot.retryCount < maxAttempts then
      let c := c.present i fun s =>
        { s with
          retryCount := s.retryCount + 1
          status := .reconnecting (s.retryCount + 1) }
      (false, c.holdGate.notify .warn "reconnecting...")
    else (true, c.releaseGate)
  else (false, c)

/-- The session tries to come back; after too many attempts it is closed. -/
def onReconnecting (i : ConnectionRef) (session : SessionId) : Operation Unit := do
  if ← Program.atomically (countAttempt i session) then
    -- The session that is closed is the one the connection holds by now.
    match ← disconnect i with
    | .ok () => Program.change (·.present i fun s => { s with retryCount := 0 })
    | .error _ => return ()
  else return ()

def onError (i : ConnectionRef) (session : SessionId) (reason : String) (c : Console) : Console :=
  if (c.connection i).owns session then
    ((c.present i fun s => s).releaseGate).notify .fail reason
  else c

/-- The session was closed; it may still come back. -/
def onClose (i : ConnectionRef) (session : SessionId) (reason : Option String) (c : Console) :
    Console :=
  if (c.connection i).owns session then
    let c := (c.present i fun s =>
      { s with status := if s.status.isConnected then .disconnected else s.status }).releaseGate
    match reason with
    | some reason => c.notify .fail reason
    | none => c
  else c

def onEnded (i : ConnectionRef) (session : SessionId) (c : Console) : Console :=
  let connection := c.connection i
  if connection.owns session then
    let c := (c.update i fun connection =>
      { connection with session := none }.present fun s =>
        { s with status := .disconnected, live := .empty }).releaseGate
    let c :=
      match connection.profile.role with
      | .thing => c.raiseFor i .disconnected
      | .server => c
    c.notify .done "Disconnected"
  else c

/-! ## A message came in -/

def onMessage (i : ConnectionRef) (session : SessionId) (packet : Packet) (c : Console) : Console :=
  let connection := c.connection i
  if connection.owns session then
    let mode := connection.snapshot.renderMode
    let c := c.notifyAll (Payload.receiveWarnings packet.payload mode)
    (logMessage i ⟨.inbound, packet.topic, Payload.decode packet.payload mode, packet.qos,
      packet.retain, packet.properties⟩ c).raiseFor i (.messageIn packet.topic)
  else c

def react (i : ConnectionRef) (session : SessionId) : TransportEvent → Operation Unit
  | .connected => onConnected i session
  | .reconnecting => onReconnecting i session
  | .error reason => Program.change (onError i session reason)
  | .close reason => Program.change (onClose i session reason)
  | .message packet => Program.change (onMessage i session packet)
  | .ended => Program.change (onEnded i session)

end Connection

end DeviceConsole
