import DeviceConsole.Profile.Record

/-!
# Thing events

Sessions tell the rest of the console what happens to the things they act for.  This file defines:

* `ThingScope`, one thing or all of them, and `Profile.scope`;
* `ThingEventKind` and `ThingEvent`, with `isConnection` and `isMessage`;
* how each of them is read and written.
-/

namespace DeviceConsole

/-! ## Scopes -/

inductive ThingScope where
  | thing (id : String)
  | any
  deriving DecidableEq, Repr

namespace ThingScope

def covers (scope : ThingScope) (thing : String) : Bool :=
  match scope with
  | .thing id => id = thing
  | .any => true

/-- The thing, or a star for all of them. -/
def text : ThingScope → String
  | thing id => id
  | any => "*"

def read? : Reader ThingScope := fun value =>
  match value with
  | .obj [("thing", .str id)] => some (.thing id)
  | value => Json.variant? [("any", .any)] value

def toJson : ThingScope → Json
  | thing id => .obj [("thing", .str id)]
  | any => .str "any"

end ThingScope

/-- The things a profile speaks for: a thing for itself, a server for all. -/
def Profile.scope (p : Profile) : ThingScope :=
  match p.thingId? with
  | some id => .thing id
  | none => .any

/-! ## Kinds -/

inductive ThingEventKind where
  /-- A session came up; the token tells the connect call it belongs to. -/
  | connected (token : Option String)
  | disconnected
  | messageIn (topic : String)
  | messageOut (topic : String)
  deriving DecidableEq, Repr

namespace ThingEventKind

def isConnection : ThingEventKind → Bool
  | connected _ => true
  | disconnected => true
  | messageIn _ => false
  | messageOut _ => false

def isMessage : ThingEventKind → Bool
  | connected _ => false
  | disconnected => false
  | messageIn _ => true
  | messageOut _ => true

def read? : Reader ThingEventKind := fun value => do
  match ← Json.tagged? "type" value with
  | ("connected", record) =>
    let fields ← Fields.read? ["connected_token"] record
    return .connected (← fields.named "connected_token" Json.string?)
  | ("disconnected", record) =>
    let _ ← Fields.read? [] record
    return .disconnected
  | ("message-in", record) =>
    let fields ← Fields.read? ["topic"] record
    return .messageIn (← fields.required "topic" Json.string?)
  | ("message-out", record) =>
    let fields ← Fields.read? ["topic"] record
    return .messageOut (← fields.required "topic" Json.string?)
  | _ => none

def toJson : ThingEventKind → Json
  | connected token =>
    .obj [("type", .str "connected"), ("connected_token", .ofOption .str token)]
  | disconnected => .obj [("type", .str "disconnected")]
  | messageIn topic => .obj [("type", .str "message-in"), ("topic", .str topic)]
  | messageOut topic => .obj [("type", .str "message-out"), ("topic", .str topic)]

end ThingEventKind

/-! ## Events -/

/-- An event, with the connection that raised it and the time in milliseconds. -/
structure ThingEvent where
  scope : ThingScope
  connection : ConnectionId
  timestampMs : Int
  kind : ThingEventKind
  deriving DecidableEq, Repr

namespace ThingEvent

def names : List String := ["scope", "connection", "timestampMs", "kind"]

def outline : Json.Outline := .ofNames names []

/-- Reads an event; every field has to be there. -/
def read? : Reader ThingEvent := fun value => do
  let fields ← Fields.read? names value
  return {
    scope := ← fields.required "scope" ThingScope.read?
    connection := ← fields.required "connection" ConnectionId.read?
    timestampMs := ← fields.required "timestampMs" Json.int64?
    kind := ← fields.required "kind" ThingEventKind.read? }

def toJson (e : ThingEvent) : Json :=
  .obj [("scope", e.scope.toJson), ("connection", e.connection.toJson),
    ("timestampMs", .ofInt e.timestampMs), ("kind", e.kind.toJson)]

end ThingEvent

end DeviceConsole
