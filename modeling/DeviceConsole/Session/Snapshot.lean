import DeviceConsole.Payload.RenderMode
import DeviceConsole.Profile.Record
import DeviceConsole.Session.Timestamp

/-!
# What can be seen of a connection

This file defines:

* `ConnectionStatus`, the states of a connection;
* `Message`, an entry of a message log, and its record;
* `Snapshot`, everything an observer sees of a connection.
-/

namespace DeviceConsole

/-! ## States -/

inductive ConnectionStatus where
  | disconnected
  | connecting
  | connected
  /-- The session was lost; this is the number of the attempt to open it again. -/
  | reconnecting (attempt : Nat)
  | disconnecting
  | destroyed
  deriving DecidableEq, Repr, Inhabited

namespace ConnectionStatus

def isConnected (status : ConnectionStatus) : Bool := status = connected

/-- Whether there is a session, or one is being opened or closed. -/
def isActive : ConnectionStatus → Bool
  | disconnected => false
  | connecting => true
  | connected => true
  | reconnecting _ => true
  | disconnecting => true
  | destroyed => false

def text : ConnectionStatus → String
  | disconnected => "disconnected"
  | connecting => "connecting"
  | connected => "connected"
  | reconnecting attempt => "reconnecting (" ++ toString attempt ++ ")"
  | disconnecting => "disconnecting"
  | destroyed => "destroyed"

/-- The states that are only a name. -/
def table : List (String × ConnectionStatus) :=
  [("disconnected", disconnected), ("connecting", connecting), ("connected", connected),
    ("disconnecting", disconnecting), ("destroyed", destroyed)]

def read? : Reader ConnectionStatus := fun value => do
  let (kind, record) ← Json.tagged? "state" value
  if kind = "reconnecting" then
    let fields ← Fields.read? ["attempt"] record
    return .reconnecting (← fields.required "attempt" (Json.nat? (UInt32.size - 1)))
  else
    let status ← table.lookup kind
    let _ ← Fields.read? [] record
    return status

def toJson : ConnectionStatus → Json
  | reconnecting attempt =>
    .obj [("state", .str "reconnecting"), ("attempt", .ofNat attempt)]
  | status => .obj [("state", .str status.text)]

end ConnectionStatus

/-! ## Messages -/

inductive Direction where
  | inbound
  | outbound
  deriving DecidableEq, Repr

def Direction.text : Direction → String
  | inbound => "in"
  | outbound => "out"

def Direction.table : List (String × Direction) := [("in", .inbound), ("out", .outbound)]

/-- An entry of a message log, with its payload as the operator reads it. -/
structure Message where
  direction : Direction
  topic : String
  payload : String
  qos : Qos
  retain : Bool
  properties : Option PublishProperties
  deriving DecidableEq

/-- The members of a message; properties are left out if there are none. -/
def Message.members (m : Message) : List (String × Json) :=
  [("direction", .str m.direction.text), ("topic", .str m.topic), ("payload", .str m.payload),
    ("qos", .ofQos m.qos), ("retain", .bool m.retain)] ++
  Json.optionalMember "properties" PublishProperties.toJson m.properties

/-- A message with its identity and its time. -/
structure MessageRecord where
  id : String
  message : Message
  timestampMs : Int
  deriving DecidableEq

namespace MessageRecord

def createdAt (m : MessageRecord) : String := Timestamp.text m.timestampMs

def names : List String :=
  ["id", "direction", "topic", "payload", "qos", "retain", "properties", "timestampMs"]

def outline : Json.Outline := .ofNames names [("properties", PublishProperties.outline)]

/-- Reads a message; only the properties may be missing. -/
def read? : Reader MessageRecord := fun value => do
  let fields ← Fields.read? names value
  return {
    id := ← fields.required "id" Json.string?
    message := {
      direction := ← fields.required "direction" (Json.variant? Direction.table)
      topic := ← fields.required "topic" Json.string?
      payload := ← fields.required "payload" Json.string?
      qos := ← fields.required "qos" Json.qos?
      retain := ← fields.required "retain" Json.bool?
      properties := ← fields.optional "properties" PublishProperties.read? }
    timestampMs := ← fields.required "timestampMs" Json.int64? }

def toJson (m : MessageRecord) : Json :=
  .obj ([("id", .str m.id)] ++ m.message.members ++ [("timestampMs", .ofInt m.timestampMs)])

end MessageRecord

/-! ## Snapshots -/

/-- Everything an observer sees of a connection.  The live map tells for each filter whether the
broker granted it. -/
structure Snapshot where
  status : ConnectionStatus
  retryCount : Nat
  live : KeyMap Bool
  messages : List Message
  unread : Nat
  renderMode : RenderMode
  deriving DecidableEq

namespace Snapshot

def initial : Snapshot := ⟨.disconnected, 0, .empty, [], 0, .plaintext⟩

instance : Inhabited Snapshot := ⟨initial⟩

def active (s : Snapshot) : List String :=
  (s.live.entries.filter (·.2)).map (·.1)

def toJson (s : Snapshot) : Json :=
  .obj [("status", .str s.status.text), ("retry", .ofNat s.retryCount),
    ("subscriptions", .obj (s.live.entries.map fun entry => (entry.1, .bool entry.2))),
    ("unread", .ofNat s.unread), ("mode", .str s.renderMode.text),
    ("messages", .arr (s.messages.map fun m => .obj m.members))]

end Snapshot

end DeviceConsole
