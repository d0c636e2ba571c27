import DeviceConsole.Profile.Basic

/-!
# What a session is opened with

The options a transport gets are derived from a profile: empty texts are left out, certificates are
used only for self-signed profiles, and properties only in version 5.  This file defines:

* `ClientOptions` with its parts, and how they are written;
* `Profile.clientOptions`.
-/

namespace DeviceConsole

structure TlsMaterial where
  rejectUnauthorized : Bool
  ca : Option String
  cert : Option String
  key : Option String
  deriving DecidableEq, Repr

/-- The message the broker sends when the session is lost. -/
structure LastWill where
  topic : String
  payload : String
  qos : Qos
  retain : Bool
  properties : Option WillProperties
  deriving DecidableEq

structure ClientOptions where
  url : String
  protocol : Protocol
  host : String
  port : UInt16
  clientId : String
  username : Option String
  password : Option String
  keepalive : UInt16
  clean : Bool
  connectTimeout : UInt64
  reconnectPeriod : UInt64
  version : Version
  properties : Option ConnectProperties
  tls : Option TlsMaterial
  will : Option LastWill
  resubscribe : Bool
  deriving DecidableEq

def ClientOptions.reconnects (o : ClientOptions) : Bool := o.reconnectPeriod ≠ 0

def TlsMaterial.toJson (t : TlsMaterial) : Json :=
  .obj [("rejectUnauthorized", .bool t.rejectUnauthorized), ("ca", .ofOption .str t.ca),
    ("cert", .ofOption .str t.cert), ("key", .ofOption .str t.key)]

def LastWill.toJson (w : LastWill) : Json :=
  .obj [("topic", .str w.topic), ("payload", .str w.payload), ("qos", .ofQos w.qos),
    ("retain", .bool w.retain), ("properties", .ofOption WillProperties.toJson w.properties)]

/-- Writes the options, absent ones as null. -/
def ClientOptions.toJson (o : ClientOptions) : Json :=
  .obj [("url", .str o.url), ("protocol", .str o.protocol.scheme), ("host", .str o.host),
    ("port", .ofWord16 o.port), ("clientId", .str o.clientId),
    ("username", .ofOption .str o.username), ("password", .ofOption .str o.password),
    ("keepaliveSecs", .ofWord16 o.keepalive), ("clean", .bool o.clean),
    ("connectTimeoutSecs", .ofWord64 o.connectTimeout),
    ("reconnectPeriodMs", .ofWord64 o.reconnectPeriod), ("reconnects", .bool o.reconnects),
    ("mqttVersion", .str o.version.text),
    ("properties", .ofOption ConnectProperties.toJson o.properties),
    ("tls", .ofOption TlsMaterial.toJson o.tls), ("will", .ofOption LastWill.toJson o.will),
    ("resubscribe", .bool o.resubscribe)]

def nonEmpty? (text : String) : Option String := if text = "" then none else some text

namespace TlsSettings

/-- The certificates to use, if the connection is encrypted. -/
def material? (t : TlsSettings) : Option TlsMaterial :=
  if t.enabled then
    let pick (pem : String) := if t.kind = .selfSigned then nonEmpty? pem else none
    some ⟨t.rejectUnauthorized, pick t.ca, pick t.cert, pick t.key⟩
  else none

end TlsSettings

namespace WillSettings

/-- The will to leave, if it has a topic. -/
def lastWill? (version : Version) (w : WillSettings) : Option LastWill :=
  if w.topic = "" then none
  else
    some {
      topic := w.topic
      payload := w.payload
      qos := w.qos
      retain := w.retain
      properties := if version = .five then w.properties.bind WillProperties.stripped? else none }

end WillSettings

namespace Profile

/-- The options of a session opened at a time in milliseconds. -/
def clientOptions (p : Profile) (now : Int) (resubscribe : Bool) : ClientOptions where
  url := p.url
  protocol := p.effectiveProtocol
  host := p.host
  port := p.port
  clientId := if p.clientIdWithTime then p.clientId ++ "_" ++ toString now else p.clientId
  username := nonEmpty? p.username
  password := nonEmpty? p.password
  keepalive := p.keepalive
  clean := p.clean
  connectTimeout := p.connectTimeout
  reconnectPeriod := if p.reconnect then p.reconnectPeriod else 0
  version := p.version
  properties := if p.version = .five then p.properties.bind ConnectProperties.stripped? else none
  tls := p.tls.material?
  will := p.will.bind (WillSettings.lastWill? p.version)
  resubscribe := resubscribe

end Profile

end DeviceConsole
