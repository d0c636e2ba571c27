import DeviceConsole.Json.Outline

/-!
# Options of messages and sessions

Version 5 of the protocol attaches properties to messages, sessions and wills.  Properties that say
nothing, that is empty texts and user properties without a key or a value, are dropped before they
are sent.  This file defines:

* `SubscribeOptions`, `PublishOptions` and the three property records;
* `stripped?` on each property record, none if nothing is left.
-/

namespace DeviceConsole

abbrev UserProperties := KeyMap String

namespace UserProperties

/-- The pairs with a key and a value; none if there is no such pair. -/
def stripped? (properties : Option UserProperties) : Option UserProperties :=
  match properties with
  | none => none
  | some map =>
    let kept := map.filter fun key value => key ≠ "" && value ≠ ""
    if kept.isEmpty then none else some kept

end UserProperties

/-- A text that is not empty. -/
def strippedText? (text : Option String) : Option String := text.filter (· ≠ "")

/-! ## Subscribing -/

structure SubscribeOptions where
  qos : Qos
  noLocal : Option Bool
  retainAsPublished : Option Bool
  retainHandling : Option UInt8
  deriving DecidableEq, Repr

namespace SubscribeOptions

def ofQos (qos : Qos) : SubscribeOptions := ⟨qos, none, none, none⟩

def default : SubscribeOptions := ofQos .atMostOnce

instance : Inhabited SubscribeOptions := ⟨default⟩

def names : List String := ["qos", "nl", "rap", "rh"]

def outline : Json.Outline := .ofNames names []

/-- Reads the options; the guarantee has to be there. -/
def read? : Reader SubscribeOptions := fun value => do
  let fields ← Fields.read? names value
  return {
    qos := ← fields.required "qos" Json.qos?
    noLocal := ← fields.optional "nl" Json.bool?
    retainAsPublished := ← fields.optional "rap" Json.bool?
    retainHandling := ← fields.optional "rh" Json.word8? }

/-- Writes the options; what is unset is left out. -/
def toJson (o : SubscribeOptions) : Json :=
  .obj ([("qos", .ofQos o.qos)] ++ Json.optionalMember "nl" .bool o.noLocal ++
    Json.optionalMember "rap" .bool o.retainAsPublished ++
    Json.optionalMember "rh" .ofWord8 o.retainHandling)

end SubscribeOptions

/-! ## Publishing -/

structure PublishProperties where
  payloadFormatIndicator : Option Bool
  messageExpiryInterval : Option UInt32
  topicAlias : Option UInt16
  responseTopic : Option String
  correlationData : Option String
  userProperties : Option UserProperties
  subscriptionIdentifier : Option UInt32
  contentType : Option String
  deriving DecidableEq

namespace PublishProperties

def none : PublishProperties :=
  ⟨.none, .none, .none, .none, .none, .none, .none, .none⟩

instance : Inhabited PublishProperties := ⟨none⟩

/-- The properties that say something, if there are any. -/
def stripped? (p : PublishProperties) : Option PublishProperties :=
  let kept : PublishProperties := { p with
    responseTopic := strippedText? p.responseTopic
    correlationData := strippedText? p.correlationData
    userProperties := UserProperties.stripped? p.userProperties
    contentType := strippedText? p.contentType }
  if kept = none then .none else some kept

def names : List String :=
  ["payloadFormatIndicator", "messageExpiryInterval", "topicAlias", "responseTopic",
    "correlationData", "userProperties", "subscriptionIdentifier", "contentType"]

def outline : Json.Outline := .ofNames names []

/-- Reads the properties; any of them may be missing. -/
def read? : Reader PublishProperties := fun value => do
  let fields ← Fields.read? names value
  return {
    payloadFormatIndicator := ← fields.optional "payloadFormatIndicator" Json.bool?
    messageExpiryInterval := ← fields.optional "messageExpiryInterval" Json.word32?
    topicAlias := ← fields.optional "topicAlias" Json.word16?
    responseTopic := ← fields.optional "responseTopic" Json.string?
    correlationData := ← fields.optional "correlationData" Json.string?
    userProperties := ← fields.optional "userProperties" (Json.map? Json.string?)
    subscriptionIdentifier := ← fields.optional "subscriptionIdentifier" Json.word32?
    contentType := ← fields.optional "contentType" Json.string? }

/-- Writes every property, unset ones as null. -/
def toJson (p : PublishProperties) : Json :=
  .obj [
    ("payloadFormatIndicator", .ofOption .bool p.payloadFormatIndicator),
    ("messageExpiryInterval", .ofOption .ofWord32 p.messageExpiryInterval),
    ("topicAlias", .ofOption .ofWord16 p.topicAlias),
    ("responseTopic", .ofOption .str p.responseTopic),
    ("correlationData", .ofOption .str p.correlationData),
    ("userProperties", .ofOption .ofTextMap p.userProperties),
    ("subscriptionIdentifier", .ofOption .ofWord32 p.subscriptionIdentifier),
    ("contentType", .ofOption .str p.contentType)]

end PublishProperties

structure PublishOptions where
  qos : Qos
  retain : Bool
  properties : Option PublishProperties
  deriving DecidableEq

namespace PublishOptions

def plain (qos : Qos) (retain : Bool) : PublishOptions := ⟨qos, retain, .none⟩

instance : Inhabited PublishOptions := ⟨plain .atMostOnce false⟩

/-- The options with only those properties that say something. -/
def stripped (o : PublishOptions) : PublishOptions :=
  { o with properties := o.properties.bind PublishProperties.stripped? }

/-- The number that stands for the topic, if one is set. -/
def topicAlias (o : PublishOptions) : Option UInt16 := o.properties.bind (·.topicAlias)

def names : List String := ["qos", "retain", "properties"]

def outline : Json.Outline := .ofNames names [("properties", PublishProperties.outline)]

/-- Reads the options; any of them may be missing. -/
def read? : Reader PublishOptions := fun value => do
  let fields ← Fields.read? names value
  return {
    qos := ← fields.orElse "qos" Json.qos? .atMostOnce
    retain := ← fields.orElse "retain" Json.bool? false
    properties := ← fields.optional "properties" PublishProperties.read? }

/-- Writes the options; properties are left out if there are none. -/
def toJson (o : PublishOptions) : Json :=
  .obj ([("qos", .ofQos o.qos), ("retain", .bool o.retain)] ++
    Json.optionalMember "properties" PublishProperties.toJson o.properties)

end PublishOptions

/-! ## Sessions -/

structure ConnectProperties where
  sessionExpiryInterval : Option UInt32
  receiveMaximum : Option UInt16
  maximumPacketSize : Option UInt32
  topicAliasMaximum : Option UInt16
  requestResponseInformation : Option Bool
  requestProblemInformation : Option Bool
  userProperties : Option UserProperties
  authenticationMethod : Option String
  authenticationData : Option String
  deriving DecidableEq

namespace ConnectProperties

def none : ConnectProperties :=
  ⟨.none, .none, .none, .none, .none, .none, .none, .none, .none⟩

instance : Inhabited ConnectProperties := ⟨none⟩

def stripped? (p : ConnectProperties) : Option ConnectProperties :=
  let kept : ConnectProperties := { p with
    userProperties := UserProperties.stripped? p.userProperties
    authenticationMethod := strippedText? p.authenticationMethod
    authenticationData := strippedText? p.authenticationData }
  if kept = none then .none else some kept

def names : List String :=
  ["sessionExpiryInterval", "receiveMaximum", "maximumPacketSize", "topicAliasMaximum",
    "requestResponseInformation", "requestProblemInformation", "userProperties",
    "authenticationMethod", "authenticationData"]

def outline : Json.Outline := .ofNames names []

def read? : Reader ConnectProperties := fun value => do
  let fields ← Fields.read? names value
  return {
    sessionExpiryInterval := ← fields.optional "sessionExpiryInterval" Json.word32?
    receiveMaximum := ← fields.optional "receiveMaximum" Json.word16?
    maximumPacketSize := ← fields.optional "maximumPacketSize" Json.word32?
    topicAliasMaximum := ← fields.optional "topicAliasMaximum" Json.word16?
    requestResponseInformation := ← fields.optional "requestResponseInformation" Json.bool?
    requestProblemInformation := ← fields.optional "requestProblemInformation" Json.bool?
    userProperties := ← fields.optional "userProperties" (Json.map? Json.string?)
    authenticationMethod := ← fields.optional "authenticationMethod" Json.string?
    authenticationData := ← fields.optional "authenticationData" Json.string? }

def toJson (p : ConnectProperties) : Json :=
  .obj [
    ("sessionExpiryInterval", .ofOption .ofWord32 p.sessionExpiryInterval),
    ("receiveMaximum", .ofOption .ofWord16 p.receiveMaximum),
    ("maximumPacketSize", .ofOption .ofWord32 p.maximumPacketSize),
    ("topicAliasMaximum", .ofOption .ofWord16 p.topicAliasMaximum),
    ("requestResponseInformation", .ofOption .bool p.requestResponseInformation),
    ("requestProblemInformation", .ofOption .bool p.requestProblemInformation),
    ("userProperties", .ofOption .ofTextMap p.userProperties),
    ("authenticationMethod", .ofOption .str p.authenticationMethod),
    ("authenticationData", .ofOption .str p.authenticationData)]

end ConnectProperties

/-! ## Wills -/

structure WillProperties where
  payloadFormatIndicator : Option Bool
  willDelayInterval : Option UInt32
  messageExpiryInterval : Option UInt32
  contentType : Option String
  responseTopic : Option String
  correlationData : Option String
  userProperties : Option UserProperties
  deriving DecidableEq

namespace WillProperties

def none : WillProperties := ⟨.none, .none, .none, .none, .none, .none, .none⟩

instance : Inhabited WillProperties := ⟨none⟩

def stripped? (p : WillProperties) : Option WillProperties :=
  let kept : WillProperties := { p with
    contentType := strippedText? p.contentType
    responseTopic := strippedText? p.responseTopic
    correlationData := strippedText? p.correlationData
    userProperties := UserProperties.stripped? p.userProperties }
  if kept = none then .none else some kept

def names : List String :=
  ["payloadFormatIndicator", "willDelayInterval", "messageExpiryInterval", "contentType",
    "responseTopic", "correlationData", "userProperties"]

def outline : Json.Outline := .ofNames names []

def read? : Reader WillProperties := fun value => do
  let fields ← Fields.read? names value
  return {
    payloadFormatIndicator := ← fields.optional "payloadFormatIndicator" Json.bool?
    willDelayInterval := ← fields.optional "willDelayInterval" Json.word32?
    messageExpiryInterval := ← fields.optional "messageExpiryInterval" Json.word32?
    contentType := ← fields.optional "contentType" Json.string?
    responseTopic := ← fields.optional "responseTopic" Json.string?
    correlationData := ← fields.optional "correlationData" Json.string?
    userProperties := ← fields.optional "userProperties" (Json.map? Json.string?) }

def toJson (p : WillProperties) : Json :=
  .obj [
    ("payloadFormatIndicator", .ofOption .bool p.payloadFormatIndicator),
    ("willDelayInterval", .ofOption .ofWord32 p.willDelayInterval),
    ("messageExpiryInterval", .ofOption .ofWord32 p.messageExpiryInterval),
    ("contentType", .ofOption .str p.contentType),
    ("responseTopic", .ofOption .str p.responseTopic),
    ("correlationData", .ofOption .str p.correlationData),
    ("userProperties", .ofOption .ofTextMap p.userProperties)]

end WillProperties

end DeviceConsole
