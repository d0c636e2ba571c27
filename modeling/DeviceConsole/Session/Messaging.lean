import DeviceConsole.Payload.Codec
import DeviceConsole.Session.Console
import DeviceConsole.Topic.Filter

/-!
# Messages and filters

Messages are published, and filters subscribed, over the session of a connection that is up.  This
file defines:

* `Connection.publish`, `Connection.subscribe` and `Connection.unsubscribe`, as programs;
* what the operator does to the log and the live map without the broker.
-/

namespace DeviceConsole

/-- Who is told that a request failed: the operator as well, or the caller alone. -/
inductive Audience where
  | operator
  | caller
  deriving DecidableEq, Repr

namespace Console

def refuse {α : Type} (c : Console) (error : PreconditionError) : Except ConsoleError α × Console :=
  (.error (.precondition error), c.notify .fail error.notice)

/-- Tells the operator about a failure, unless the caller does. -/
def report (c : Console) (audience : Audience) (text : String) : Console :=
  match audience with
  | .operator => c.notify .fail text
  | .caller => c

/-- Tells the operator about a success, unless the caller does. -/
def confirm (c : Console) (audience : Audience) (text : String) : Console :=
  match audience with
  | .operator => c.notify .done text
  | .caller => c

end Console

namespace Snapshot

/-- Adds a message to the log, of which only the newest messages stay, and counts it as unread
unless it was published or the operator looks at the connection. -/
def log (limit : Option Nat) (focused : Bool) (m : Message) (s : Snapshot) : Snapshot :=
  let messages := s.messages ++ [m]
  { s with
    messages :=
      match limit with
      | some n => messages.drop (messages.length - n)
      | none => messages
    unread := if focused || m.direction = .outbound then 0 else s.unread + 1 }

def mark (active : Bool) (filters : List String) (s : Snapshot) : Snapshot :=
  { s with live := filters.foldl (fun live filter => live.insert filter active) s.live }

end Snapshot

namespace Connection

def logMessage (i : ConnectionRef) (m : Message) (c : Console) : Console :=
  c.present i (Snapshot.log c.settings.logLimit (c.focus = some (c.connection i).id) m)

/-! ## Publishing -/

/-- A message as the operator wrote it. -/
structure Draft where
  topic : String
  payload : String
  mode : RenderMode
  options : PublishOptions

/-- Checks a draft; the answer is the session and the payload. -/
def beginPublish (i : ConnectionRef) (d : Draft) (audience : Audience) (c : Console) :
    Except ConsoleError (SessionId × Bytes) × Console :=
  let connection := c.connection i
  if connection.destroyed then (.error .destroyed, c)
  else if Topic.containsWildcard d.topic then c.refuse (.wildcardTopic d.topic)
  else if d.topic = "" ∧ d.options.stripped.topicAlias = none then c.refuse .topicRequired
  else
    match connection.openSession? with
    | none => c.refuse .notConnected
    | some session =>
      -- Texts that are warned about are sent all the same.
      let c := c.notifyAll (Payload.publishWarnings d.payload d.mode)
      match Payload.encode d.payload d.mode with
      | .error error => (.error (.codec error), c.report audience error.message)
      | .ok payload => (.ok (session, payload), c)

/-- Takes note of a message that was published: its options are the new defaults. -/
def finishPublish (i : ConnectionRef) (d : Draft) (c : Console) : Console :=
  let options := d.options.stripped
  let c := c.update i fun connection =>
    { connection with profile.publishDefaults := ⟨options.qos, options.retain⟩ }
  (logMessage i ⟨.outbound, d.topic, d.payload, options.qos, options.retain, options.properties⟩
    c).raiseFor i (.messageOut d.topic)

def publish (i : ConnectionRef) (d : Draft) (audience : Audience) :
    Operation (Except ConsoleError Unit) := do
  match ← Program.atomically (beginPublish i d audience) with
  | .error error => return .error error
  | .ok (session, payload) =>
    match ← Operation.ask (.publish session d.topic payload d.options.stripped) with
    | .error error =>
      Program.change (·.report audience error.message)
      return .error (.transport error)
    | .ok _ =>
      Program.change (finishPublish i d)
      return .ok ()

/-! ## Subscribing -/

/-- Checks a request about filters; the answer is the session. -/
def beginRequest (i : ConnectionRef) (count : Nat) (c : Console) :
    Except ConsoleError SessionId × Console :=
  let connection := c.connection i
  if connection.destroyed then (.error .destroyed, c)
  else
    match connection.openSession? with
    | none => c.refuse .notConnected
    | some session => if count = 0 then c.refuse .emptyTopicList else (.ok session, c)

def refusedFilters (filters : List FilterRequest) (codes : List UInt8) : List String :=
  ((filters.zip codes).filter fun entry => 2 < entry.2).map (·.1.1)

/-- Subscribes filters.  All of them count as granted unless one was refused. -/
def subscribe (i : ConnectionRef) (filters : List FilterRequest) (audience : Audience) :
    Operation (Except ConsoleError Unit) := do
  match ← Program.atomically (beginRequest i filters.length) with
  | .error error => return .error error
  | .ok session =>
    match ← Operation.ask (.subscribe session filters) with
    | .error error =>
      Program.change (·.report audience error.message)
      return .error (.transport error)
    | .ok codes =>
      -- A filter without a code was not refused.
      match refusedFilters filters codes with
      | [] =>
        Program.change fun c =>
          (c.present i (Snapshot.mark true (filters.map (·.1)))).confirm audience
            "Topic(s) Subscribed"
        return .ok ()
      | refused =>
        Program.change (·.report audience "Subscription failure")
        return .error (.transport
          (.rejected ("Subscription failure: " ++ String.intercalate ", " refused)))

def unsubscribe (i : ConnectionRef) (filters : List String) (audience : Audience) :
    Operation (Except ConsoleError Unit) := do
  match ← Program.atomically (beginRequest i filters.length) with
  | .error error => return .error error
  | .ok session =>
    match ← Operation.ask (.unsubscribe session filters) with
    | .error error =>
      Program.change (·.report audience error.message)
      return .error (.transport error)
    | .ok _ =>
      Program.change fun c =>
        (c.present i (Snapshot.mark false filters)).confirm audience "Topic(s) Unsubscribed"
      return .ok ()

/-! ## Without the broker -/

def clear (i : ConnectionRef) (c : Console) : Console :=
  c.present i fun s => { s with messages := [], unread := 0 }

def read (i : ConnectionRef) (c : Console) : Console :=
  c.present i fun s => { s with unread := 0 }

def setRenderMode (i : ConnectionRef) (mode : RenderMode) (c : Console) : Console :=
  c.present i fun s => { s with renderMode := mode }

def forget (i : ConnectionRef) (filter : String) (c : Console) : Console :=
  match (c.connection i).snapshot.live.get? filter with
  | some _ => c.present i fun s => { s with live := s.live.erase filter }
  | none => c

def matching (connection : Connection) (topic : String) : List String :=
  connection.snapshot.active.filter fun filter => Topic.accepts filter topic

end Connection

end DeviceConsole
