import DeviceConsole.ConnectionId
import DeviceConsole.Payload.Base64

/-!
# What can go wrong

Failures fall into four families: operations refused before they reach the network, failures of the
transport, payloads that are not written in their mode, and failures of storage and settings.  Each
type lists the causes, and its `message` holds the wording.
-/

namespace DeviceConsole

/-- Operations refused without any change. -/
inductive PreconditionError where
  | notConnected
  | topicRequired
  | wildcardTopic (topic : String)
  | emptyTopicList
  deriving DecidableEq, Repr

def PreconditionError.message : PreconditionError → String
  | notConnected => "client not connected"
  | topicRequired => "topic required"
  | wildcardTopic topic => "topic cannot contain '+' or '#': " ++ topic
  | emptyTopicList => "no topics given"

def PreconditionError.notice : PreconditionError → String
  | notConnected => "Client not connected"
  | topicRequired => "Topic Required!"
  | emptyTopicList => "Topic Required!"
  | wildcardTopic _ => "Topic Cannot Contain '+' or '#'!"

inductive TransportError where
  /-- The client refused a request; the flag tells version 5 of the protocol. -/
  | client (five : Bool) (reason : String)
  | connectionFailed (reason : String)
  | invalidAddress (reason : String)
  | rejected (reason : String)
  | channelClosed (reason : String)
  | notOpen
  deriving DecidableEq, Repr

def TransportError.message : TransportError → String
  | client false reason => "MQTT error: " ++ reason
  | client true reason => "MQTT 5.0 error: " ++ reason
  | connectionFailed reason => "connection failed: " ++ reason
  | invalidAddress reason => "invalid address: " ++ reason
  | rejected reason => "rejected by broker: " ++ reason
  | channelClosed reason => "channel closed: " ++ reason
  | notOpen => "transport handle is not open"

/-- Payload texts that are not written in their mode. -/
inductive CodecError where
  | invalidHex (reason : String)
  | invalidBase64 (reason : String)
  deriving DecidableEq, Repr

def CodecError.message : CodecError → String
  | invalidHex reason => "invalid hex payload: " ++ reason
  | invalidBase64 reason => "invalid base64 payload: " ++ reason

inductive StorageError where
  /-- Reading or writing failed. -/
  | device
  /-- A stored text could not be understood. -/
  | malformed
  deriving DecidableEq, Repr

inductive SettingsError where
  /-- The settings could not be read. -/
  | device
  /-- The settings are not well formed. -/
  | malformed
  /-- A setting has an unusable value. -/
  | invalid (field : String) (reason : String)
  deriving DecidableEq, Repr

inductive ConsoleError where
  | precondition (error : PreconditionError)
  | transport (error : TransportError)
  | codec (error : CodecError)
  | storage (error : StorageError)
  | settings (error : SettingsError)
  | connectionNotFound (id : ConnectionId)
  | destroyed
  deriving DecidableEq, Repr

def TransportError.name : TransportError → String
  | client _ _ => "Transport.Mqtt"
  | connectionFailed _ => "Transport.ConnectionFailed"
  | invalidAddress _ => "Transport.InvalidAddress"
  | rejected _ => "Transport.Rejected"
  | channelClosed _ => "Transport.ChannelClosed"
  | notOpen => "Transport.NotOpen"

/-- The name of a failure, its family first. -/
def ConsoleError.name : ConsoleError → String
  | precondition .notConnected => "Precondition.NotConnected"
  | precondition .topicRequired => "Precondition.TopicRequired"
  | precondition (.wildcardTopic _) => "Precondition.WildcardTopic"
  | precondition .emptyTopicList => "Precondition.EmptyTopicList"
  | transport error => error.name
  | codec (.invalidHex _) => "Codec.InvalidHex"
  | codec (.invalidBase64 _) => "Codec.InvalidBase64"
  | storage .device => "Storage.Io"
  | storage .malformed => "Storage.Json"
  | settings .device => "Config.Io"
  | settings .malformed => "Config.Toml"
  | settings (.invalid _ _) => "Config.Invalid"
  | connectionNotFound _ => "ConnectionNotFound"
  | destroyed => "Destroyed"

/-- The wording of a failure.  The texts of the storage device and of the settings reader are their
own and are left out. -/
def ConsoleError.message : ConsoleError → Option String
  | precondition error => some ("precondition failed: " ++ error.message)
  | transport error => some ("transport error: " ++ error.message)
  | codec error => some ("codec error: " ++ error.message)
  | storage _ => none
  | settings (.invalid field reason) =>
    some ("config error: invalid setting " ++ field ++ ": " ++ reason)
  | settings _ => none
  | connectionNotFound id => some ("connection " ++ id.text ++ " not found")
  | destroyed => some "connection delegate was destroyed"

end DeviceConsole
