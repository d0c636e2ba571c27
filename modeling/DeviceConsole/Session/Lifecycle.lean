import DeviceConsole.Session.Console

/-!
# Opening and closing sessions

One gate lets a single attempt to connect through at a time.  A connect closes the session that the
connection holds before it opens a new one.  This file defines:

* `Connection.connect`, `Connection.disconnect` and `Connection.destroy`, as programs.
-/

namespace DeviceConsole

namespace Connection

/-! ## Connecting -/

inductive ConnectStart where
  | destroyed
  /-- Another attempt is under way. -/
  | busy
  /-- The call goes on; the session it replaces was taken from the connection.  Its end is told to
  listeners under the given scope. -/
  | ready (previous : Option SessionId) (replaced : Option ThingScope)

/-- Acquires the gate and takes the session from the connection. -/
def beginConnect (i : ConnectionRef) (c : Console) : ConnectStart × Console :=
  let connection := c.connection i
  if connection.destroyed then (.destroyed, c)
  else if c.gateHeld then (.busy, c)
  else
    let replaced :=
      match connection.profile.role with
      | .thing => some connection.profile.scope
      | .server => none
    (.ready connection.session replaced,
      c.holdGate.update i fun connection => { connection with session := none })

/-- Gives the session back after it could not be closed. -/
def restoreSession (i : ConnectionRef) (session : SessionId) (c : Console) : Console :=
  -- A session that came to the connection meanwhile stays.
  ((c.update i fun connection =>
    { connection with session := connection.session <|> some session }).releaseGate).notify
      .fail "Connect Failure"

def closePrevious (i : ConnectionRef) (previous : Option SessionId) (replaced : Option ThingScope) :
    Operation (Except ConsoleError Unit) :=
  match previous with
  | none => return .ok ()
  | some session => do
    match ← Operation.ask (.close session) with
    | .error error =>
      Program.change (restoreSession i session)
      return .error (.transport error)
    | .ok _ =>
      Program.change fun c =>
        match replaced with
        | some scope => c.raise scope (c.connection i).id .disconnected
        | none => c
      return .ok ()

def prepare (i : ConnectionRef) (p : Profile) (token : Option String) (c : Console) :
    ClientOptions × Console :=
  let options := p.clientOptions c.clock c.settings.autoResubscribe
  (options, c.update i fun connection =>
    { connection with
      profile := p
      token := token
      resubscribe := options.resubscribe }.present fun s =>
        { s with retryCount := 0, live := .empty, status := .connecting })

/-- Takes over a new session, unless the connection was destroyed meanwhile. -/
def adopt (i : ConnectionRef) (session : SessionId) (c : Console) : Bool × Console :=
  if (c.connection i).destroyed then (false, c.releaseGate)
  else
    (true, { c.update i fun connection => { connection with session := some session } with
      handlers := c.handlers ++ [(session, i)] })

/-- Ends an attempt that led to no session. -/
def failOpen (i : ConnectionRef) (error : TransportError) (c : Console) : Console :=
  ((c.present i fun s => { s with status := .disconnected }).releaseGate).notify
    .fail error.message

def openSession (i : ConnectionRef) (p : Profile) (token : Option String) :
    Operation (Except ConsoleError Bool) := do
  let options ← Program.atomically (prepare i p token)
  match ← Operation.ask (.open options) with
  | .error error =>
    Program.change (failOpen i error)
    return .error (.transport error)
  | .ok session =>
    if ← Program.atomically (adopt i session) then return .ok true
    else
      -- Nobody will ever close this session but the call that opened it.
      let _ ← Operation.ask (.close session)
      return .error .destroyed

/-- Connects under a profile.  The answer is false if another attempt is under way. -/
def connect (i : ConnectionRef) (p : Profile) (token : Option String) :
    Operation (Except ConsoleError Bool) := do
  match ← Program.atomically (beginConnect i) with
  | .destroyed => return .error .destroyed
  | .busy => return .ok false
  | .ready previous replaced =>
    match ← closePrevious i previous replaced with
    | .error error => return .error error
    | .ok () => openSession i p token

/-! ## Disconnecting -/

/-- Begins to close the session; the answer is the session and the state before. -/
def beginDisconnect (i : ConnectionRef) (c : Console) :
    Option (SessionId × ConnectionStatus) × Console :=
  let connection := c.connection i
  match connection.session with
  | none => (none, c)
  | some session =>
    let status := connection.snapshot.status
    (some (session, status),
      if status.isActive then c.present i fun s => { s with status := .disconnecting } else c)

/-- Takes back the announcement of a close that failed. -/
def failDisconnect (i : ConnectionRef) (previous : ConnectionStatus) (error : TransportError)
    (c : Console) : Console :=
  -- Only the announcement itself is taken back, not a change that came after it.
  (c.present i fun s =>
    { s with status := if s.status = .disconnecting then previous else s.status }).notify
      .fail error.message

def disconnect (i : ConnectionRef) : Operation (Except ConsoleError Unit) := do
  match ← Program.atomically (beginDisconnect i) with
  | none => return .ok ()
  | some (session, previous) =>
    match ← Operation.ask (.close session) with
    | .ok _ =>
      Program.change (·.present i fun s => { s with retryCount := 0, live := .empty })
      return .ok ()
    | .error error =>
      Program.change (failDisconnect i previous error)
      return .error (.transport error)

/-! ## Destroying -/

/-- Marks the connection as destroyed and takes its session; nothing if it was destroyed before. -/
def beginDestroy (i : ConnectionRef) (c : Console) :
    Option (Option SessionId × ConnectionStatus) × Console :=
  let connection := c.connection i
  if connection.destroyed then (none, c)
  else
    (some (connection.session, connection.snapshot.status),
      c.update i fun connection => { connection with destroyed := true, session := none })

def isAttempt : ConnectionStatus → Bool
  | .connecting => true
  | .reconnecting _ => true
  | _ => false

/-- Ends a destroyed connection; an attempt of it gives the gate back. -/
def finishDestroy (i : ConnectionRef) (previous : ConnectionStatus) (c : Console) : Console :=
  (if isAttempt previous then c.releaseGate else c).present i fun s =>
    { s with status := .destroyed, retryCount := 0, live := .empty }

/-- Destroys a connection; whether its session could be closed does not matter. -/
def destroy (i : ConnectionRef) : Operation Unit := do
  match ← Program.atomically (beginDestroy i) with
  | none => return ()
  | some (session, previous) =>
    match session with
    | some session =>
      let _ ← Operation.ask (.close session)
      Program.change (finishDestroy i previous)
    | none => Program.change (finishDestroy i previous)

end Connection

end DeviceConsole
