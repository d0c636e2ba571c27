import DeviceConsole.Error
import DeviceConsole.Profile.ClientOptions
import DeviceConsole.Text.Utf8

/-!
# What the console and a transport say to each other

A transport opens sessions with brokers.  The console sends it requests and gets a reply to each;
every session raises events of its own accord.  This file defines:

* `Request` with the type of its `Reply`;
* `Packet` and `TransportEvent`.
-/

namespace DeviceConsole

/-- Sessions are numbered in the order in which they were opened. -/
abbrev SessionId := Nat

/-- A filter with the options with which it is subscribed. -/
abbrev FilterRequest := String × SubscribeOptions

/-- What the console asks of a transport. -/
inductive Request where
  | open (options : ClientOptions)
  | publish (session : SessionId) (topic : String) (payload : Bytes) (options : PublishOptions)
  | subscribe (session : SessionId) (filters : List FilterRequest)
  | unsubscribe (session : SessionId) (filters : List String)
  | close (session : SessionId)
  deriving DecidableEq

def FilterRequest.toJson (filter : FilterRequest) : Json := .arr [.str filter.1, filter.2.toJson]

def payloadJson (payload : Bytes) : Json := .str (String.ofList (Hex.encode payload))

def Request.toJson : Request → Json
  | .open options => .obj [("call", .str "open"), ("options", options.toJson)]
  | .publish session topic payload options =>
    .obj [("call", .str "publish"), ("session", .ofNat session), ("topic", .str topic),
      ("hex", payloadJson payload), ("opts", options.toJson)]
  | .subscribe session filters =>
    .obj [("call", .str "subscribe"), ("session", .ofNat session),
      ("filters", .arr (filters.map FilterRequest.toJson))]
  | .unsubscribe session filters =>
    .obj [("call", .str "unsubscribe"), ("session", .ofNat session),
      ("filters", .arr (filters.map .str))]
  | .close session => .obj [("call", .str "end"), ("session", .ofNat session)]

/-- What a transport answers if it could do what it was asked: the new session, or a code for each
filter. -/
def Request.Answer : Request → Type
  | .open _ => SessionId
  | .publish _ _ _ _ => Unit
  | .subscribe _ _ => List UInt8
  | .unsubscribe _ _ => Unit
  | .close _ => Unit

abbrev Request.Reply (r : Request) : Type := Except TransportError r.Answer

structure Packet where
  topic : String
  payload : Bytes
  qos : Qos
  retain : Bool
  properties : Option PublishProperties
  deriving DecidableEq

inductive TransportEvent where
  | connected
  | reconnecting
  | error (reason : String)
  | close (reason : Option String)
  | message (packet : Packet)
  /-- Nothing comes after this. -/
  | ended
  deriving DecidableEq

end DeviceConsole
