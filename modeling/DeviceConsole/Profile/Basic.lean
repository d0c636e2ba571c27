import DeviceConsole.ConnectionId
import DeviceConsole.Profile.Subscription

/-!
# Connection profiles

A profile holds everything needed to open a session with a broker.  This file defines:

* `Role`, `Protocol`, `Version` and `CertificateKind`, each with the names under which it is stored;
* `TlsSettings`, `WillSettings`, `PublishDefaults` and `Profile`, each with its defaults;
* what a profile says about itself: `effectiveProtocol`, `url`, `thingId?` and `scope`.
-/

namespace DeviceConsole

/-! ## Names -/

/-- Whether the operator acts as one thing or as the server of all of them. -/
inductive Role where
  | thing
  | server
  deriving DecidableEq, Repr, Inhabited

def Role.text : Role → String
  | thing => "thing"
  | server => "server"

def Role.table : List (String × Role) := [("thing", .thing), ("server", .server)]

/-- How the broker is reached. -/
inductive Protocol where
  | mqtt
  | mqtts
  | ws
  | wss
  deriving DecidableEq, Repr, Inhabited

namespace Protocol

def scheme : Protocol → String
  | mqtt => "mqtt"
  | mqtts => "mqtts"
  | ws => "ws"
  | wss => "wss"

def table : List (String × Protocol) :=
  [("mqtt", .mqtt), ("mqtts", .mqtts), ("ws", .ws), ("wss", .wss)]

def isWebSocket (p : Protocol) : Bool := p = ws || p = wss

def isSecure (p : Protocol) : Bool := p = mqtts || p = wss

end Protocol

inductive Version where
  | three
  | five
  deriving DecidableEq, Repr, Inhabited

namespace Version

def text : Version → String
  | three => "3.1.1"
  | five => "5.0"

def table : List (String × Version) := [("3.1.1", .three), ("5.0", .five)]

def level : Version → Nat
  | three => 4
  | five => 5

end Version

/-- Where the certificates of a connection come from. -/
inductive CertificateKind where
  | standard
  | server
  | selfSigned
  deriving DecidableEq, Repr, Inhabited

def CertificateKind.text : CertificateKind → String
  | standard => ""
  | server => "server"
  | selfSigned => "self"

def CertificateKind.table : List (String × CertificateKind) :=
  [("", .standard), ("server", .server), ("self", .selfSigned)]

/-! ## Parts of a profile -/

structure TlsSettings where
  enabled : Bool
  kind : CertificateKind
  rejectUnauthorized : Bool
  ca : String
  cert : String
  key : String
  deriving DecidableEq, Repr

/-- No encryption; certificates would be checked. -/
def TlsSettings.default : TlsSettings := ⟨false, .standard, true, "", "", ""⟩

instance : Inhabited TlsSettings := ⟨.default⟩

/-- The message the broker sends when the session is lost. -/
structure WillSettings where
  topic : String
  payload : String
  qos : Qos
  retain : Bool
  properties : Option WillProperties
  deriving DecidableEq

def WillSettings.default : WillSettings := ⟨"", "", .atMostOnce, false, none⟩

instance : Inhabited WillSettings := ⟨.default⟩

/-- How messages are published unless said otherwise. -/
structure PublishDefaults where
  qos : Qos
  retain : Bool
  deriving DecidableEq, Repr, Inhabited

def PublishDefaults.default : PublishDefaults := ⟨.atMostOnce, false⟩

/-- Everything needed to open a session with a broker. -/
structure Profile where
  id : ConnectionId
  name : String
  role : Role
  clientId : String
  clientIdWithTime : Bool
  username : String
  password : String
  host : String
  port : UInt16
  path : String
  protocol : Option Protocol
  tls : TlsSettings
  keepalive : UInt16
  clean : Bool
  connectTimeout : UInt64
  reconnect : Bool
  reconnectPeriod : UInt64
  version : Version
  will : Option WillSettings
  properties : Option ConnectProperties
  subscriptions : List Subscription
  publishDefaults : PublishDefaults
  deriving DecidableEq

namespace Profile

def default (id : ConnectionId) : Profile where
  id := id
  name := ""
  role := .thing
  clientId := ""
  clientIdWithTime := false
  username := ""
  password := ""
  host := "localhost"
  port := 8083
  path := "/"
  protocol := some .ws
  tls := .default
  keepalive := 60
  clean := true
  connectTimeout := 10
  reconnect := true
  reconnectPeriod := 4000
  version := .five
  will := none
  properties := none
  subscriptions := []
  publishDefaults := .default

instance : Inhabited Profile := ⟨default ⟨0⟩⟩

/-- The protocol, chosen by the encryption setting if none is given. -/
def effectiveProtocol (p : Profile) : Protocol :=
  p.protocol.getD (if p.tls.enabled then .wss else .ws)

/-- The address of the broker.  Only web sockets have a path, and it starts with a slash. -/
def url (p : Profile) : String :=
  let base := p.effectiveProtocol.scheme ++ "://" ++ p.host ++ ":" ++ toString p.port
  if p.effectiveProtocol.isWebSocket then
    base ++ (if p.path.toList.head? = some '/' then "" else "/") ++ p.path
  else base

def thingId? (p : Profile) : Option String :=
  match p.role with
  | .thing => some p.username
  | .server => none

/-- The first declared subscription for a filter. -/
def subscription? (p : Profile) (topic : String) : Option Subscription :=
  Subscription.find? p.subscriptions topic

/-- Gives a declared filter new options, or declares a new subscription. -/
def upsertSubscription (p : Profile) (topic : String) (options : SubscribeOptions)
    (new : Subscription) : Profile :=
  { p with subscriptions := Subscription.upsert topic options new p.subscriptions }

end Profile

end DeviceConsole
