import DeviceConsole.Profile.Basic

/-!
# Profiles as JSON records

Profiles are stored as objects.  What is missing takes its default; a missing protocol is none,
although new profiles have one.  The members of the encryption settings stand among those of the
profile itself.  This file defines, for each part of a profile, the names of its members, `read?`
and `toJson`.
-/

namespace DeviceConsole

/-! ## Encryption settings -/

namespace TlsSettings

def names : List String := ["ssl", "certType", "rejectUnauthorized", "ca", "cert", "key"]

def outline : Json.Outline := .ofNames names []

/-- The settings among the members of a record.  `kind?` reads the kind of the certificate. -/
def ofFields? (kind? : Reader CertificateKind) (fields : Fields) : Option TlsSettings := do
  return {
    enabled := ← fields.orElse "ssl" Json.bool? default.enabled
    kind := ← fields.orElse "certType" kind? default.kind
    rejectUnauthorized :=
      ← fields.orElse "rejectUnauthorized" Json.bool? default.rejectUnauthorized
    ca := ← fields.orElse "ca" Json.string? default.ca
    cert := ← fields.orElse "cert" Json.string? default.cert
    key := ← fields.orElse "key" Json.string? default.key }

def read? : Reader TlsSettings := fun value =>
  (Fields.read? names value).bind (ofFields? (Json.variant? CertificateKind.table))

def members (t : TlsSettings) : List (String × Json) :=
  [("ssl", .bool t.enabled), ("certType", .str t.kind.text),
    ("rejectUnauthorized", .bool t.rejectUnauthorized), ("ca", .str t.ca), ("cert", .str t.cert),
    ("key", .str t.key)]

def toJson (t : TlsSettings) : Json := .obj t.members

end TlsSettings

/-! ## Wills -/

namespace WillSettings

def names : List String :=
  ["lastWillTopic", "lastWillPayload", "lastWillQos", "lastWillRetain", "properties"]

def outline : Json.Outline := .ofNames names [("properties", WillProperties.outline)]

def read? : Reader WillSettings := fun value => do
  let fields ← Fields.read? names value
  return {
    topic := ← fields.orElse "lastWillTopic" Json.string? default.topic
    payload := ← fields.orElse "lastWillPayload" Json.string? default.payload
    qos := ← fields.orElse "lastWillQos" Json.qos? default.qos
    retain := ← fields.orElse "lastWillRetain" Json.bool? default.retain
    properties := ← fields.optional "properties" WillProperties.read? }

def toJson (w : WillSettings) : Json :=
  .obj [("lastWillTopic", .str w.topic), ("lastWillPayload", .str w.payload),
    ("lastWillQos", .ofQos w.qos), ("lastWillRetain", .bool w.retain),
    ("properties", .ofOption WillProperties.toJson w.properties)]

end WillSettings

/-! ## Publish defaults -/

namespace PublishDefaults

def names : List String := ["qos", "retain"]

def outline : Json.Outline := .ofNames names []

def read? : Reader PublishDefaults := fun value => do
  let fields ← Fields.read? names value
  return {
    qos := ← fields.orElse "qos" Json.qos? default.qos
    retain := ← fields.orElse "retain" Json.bool? default.retain }

def toJson (d : PublishDefaults) : Json :=
  .obj [("qos", .ofQos d.qos), ("retain", .bool d.retain)]

end PublishDefaults

/-! ## Profiles -/

/-- Reads an id in any of its written forms. -/
def ConnectionId.read? : Reader ConnectionId := fun value => value.string?.bind ConnectionId.parse?

def ConnectionId.toJson (id : ConnectionId) : Json := .str id.text

namespace Profile

def names : List String :=
  ["id", "name", "userrole", "clientId", "clientIdWithTime", "username", "password", "host", "port",
    "path", "protocol"] ++ TlsSettings.names ++
  ["keepalive", "clean", "connectTimeout", "reconnect", "reconnectPeriod", "mqttVersion", "will",
    "properties", "subscriptions", "pushProps"]

/-- The parts of a text that are read.  The members of the encryption settings are looked for among
all that are not the profile's own, so all of these are read. -/
def outline : Json.Outline :=
  .record true [("will", WillSettings.outline), ("properties", ConnectProperties.outline),
    ("subscriptions", .list Subscription.outline), ("pushProps", PublishDefaults.outline)]

/-- The profile in the members of an object.  `fresh` is the id of a profile that has none. -/
def ofFields? (fresh : ConnectionId) (fields : Fields) : Option Profile := do
  let d := default fresh
  return {
    id := ← fields.orElse "id" ConnectionId.read? d.id
    name := ← fields.orElse "name" Json.string? d.name
    role := ← fields.orElse "userrole" (Json.variant? Role.table) d.role
    clientId := ← fields.orElse "clientId" Json.string? d.clientId
    clientIdWithTime := ← fields.orElse "clientIdWithTime" Json.bool? d.clientIdWithTime
    username := ← fields.orElse "username" Json.string? d.username
    password := ← fields.orElse "password" Json.string? d.password
    host := ← fields.orElse "host" Json.string? d.host
    port := ← fields.orElse "port" Json.word16? d.port
    path := ← fields.orElse "path" Json.string? d.path
    protocol := ← fields.optional "protocol" (Json.variant? Protocol.table)
    tls := ← TlsSettings.ofFields? (Json.looseVariant? CertificateKind.table) fields
    keepalive := ← fields.orElse "keepalive" Json.word16? d.keepalive
    clean := ← fields.orElse "clean" Json.bool? d.clean
    connectTimeout := ← fields.orElse "connectTimeout" Json.word64? d.connectTimeout
    reconnect := ← fields.orElse "reconnect" Json.bool? d.reconnect
    reconnectPeriod := ← fields.orElse "reconnectPeriod" Json.word64? d.reconnectPeriod
    version := ← fields.orElse "mqttVersion" (Json.variant? Version.table) d.version
    will := ← fields.optional "will" WillSettings.read?
    properties := ← fields.optional "properties" ConnectProperties.read?
    subscriptions := ← fields.orElse "subscriptions" (Json.list? Subscription.read?) d.subscriptions
    publishDefaults := ← fields.orElse "pushProps" PublishDefaults.read? d.publishDefaults }

/-- Reads a profile; only objects are profiles. -/
def read? (fresh : ConnectionId) : Reader Profile := fun value =>
  match value with
  | .obj members => ((Fields.known? names members).map (⟨·, false⟩)).bind (ofFields? fresh)
  | _ => none

def members (p : Profile) : List (String × Json) :=
  [("id", p.id.toJson), ("name", .str p.name), ("userrole", .str p.role.text),
    ("clientId", .str p.clientId), ("clientIdWithTime", .bool p.clientIdWithTime),
    ("username", .str p.username), ("password", .str p.password), ("host", .str p.host),
    ("port", .ofWord16 p.port), ("path", .str p.path),
    ("protocol", .ofOption (fun q => .str q.scheme) p.protocol)] ++ p.tls.members ++
  [("keepalive", .ofWord16 p.keepalive), ("clean", .bool p.clean),
    ("connectTimeout", .ofWord64 p.connectTimeout), ("reconnect", .bool p.reconnect),
    ("reconnectPeriod", .ofWord64 p.reconnectPeriod), ("mqttVersion", .str p.version.text),
    ("will", .ofOption WillSettings.toJson p.will),
    ("properties", .ofOption ConnectProperties.toJson p.properties),
    ("subscriptions", .arr (p.subscriptions.map Subscription.toJson)),
    ("pushProps", p.publishDefaults.toJson)]

def toJson (p : Profile) : Json := .obj p.members

/-- Reads profiles one after the other; the id of the `n`th one, if it has none, is `fresh n`. -/
def readFrom? (fresh : Nat → ConnectionId) : Nat → List Json → Option (List Profile)
  | _, [] => some []
  | n, item :: rest => do
    let profile ← read? (fresh n) item
    let profiles ← readFrom? fresh (n + 1) rest
    return profile :: profiles

def readList? (fresh : Nat → ConnectionId) : Reader (List Profile) := fun value =>
  match value with
  | .arr items => readFrom? fresh 0 items
  | _ => none

def listToJson (profiles : List Profile) : Json := .arr (profiles.map toJson)

end Profile

end DeviceConsole
