import DeviceConsole.Catalog.Basic
import DeviceConsole.Error
import DeviceConsole.Event.Bus
import DeviceConsole.Json.Printer
import DeviceConsole.Json.Reader
import DeviceConsole.Payload.Hex
import DeviceConsole.Payload.RenderMode
import DeviceConsole.Session.Transport

/-!
# Reading the steps of a script

A script is a list of steps, each a JSON object.  A step that cannot be read or done is answered by
a refusal in the place of its result.  This file defines:

* `Refusal` and `Refusal.toJson`;
* `Answer`, and the fields of steps: `Input.text`, `Input.items`, `Input.typed` and their kin.
-/

namespace DeviceConsole

namespace Script

inductive Refusal where
  /-- There is no step at all. -/
  | noStep
  /-- A field is missing or has a wrong value. -/
  | badRequest (field : String)
  /-- A JSON text or value cannot be read as the wanted type. -/
  | json
  /-- A text is no id of a connection. -/
  | wrongId
  /-- A document was wanted. -/
  | notAnObject
  | unknownMode (text : String)
  | wrongLevel (level : Nat)
  /-- The operation itself failed. -/
  | failed (error : ConsoleError)
  /-- The operation broke off without a result. -/
  | brokenOff

def refusalJson (name : String) (message : Option String) : Json :=
  .obj ([("error", .str name)] ++ Json.optionalMember "message" .str message)

/-- Writes a refusal; the texts of failures are changed before. -/
def Refusal.toJson (revise : String → String) : Refusal → Json
  | noStep => refusalJson "bad_request" none
  | badRequest field => refusalJson "bad_request" (some field)
  | json => refusalJson "Json" none
  | wrongId => refusalJson "InvalidUuid" none
  | notAnObject => refusalJson "NotAnObject" none
  | unknownMode text => refusalJson "RenderMode" (some (RenderMode.unknown text))
  | wrongLevel level => refusalJson "QoS" (some (Qos.wrongLevel level))
  | failed error => refusalJson error.name (error.message.map revise)
  | brokenOff => refusalJson "panic" none

abbrev Answer (α : Type) := Except Refusal α

/-- A value that may be missing for one reason only. -/
def orRefuse {α : Type} (refusal : Refusal) : Option α → Answer α
  | some a => .ok a
  | none => .error refusal

namespace Input

def field (step : Json) (name : String) : Json := (step.member? name).getD .null

def text (step : Json) (name : String) : Answer String :=
  orRefuse (.badRequest name) (field step name).string?

def text? (step : Json) (name : String) : Option String := (field step name).string?

def flag (step : Json) (name : String) (default : Bool) : Bool :=
  (field step name).bool?.getD default

def items (step : Json) (name : String) : Answer (List Json) :=
  orRefuse (.badRequest name) (field step name).items?

def typed {α : Type} (read : Reader α) (value : Json) : Answer α := orRefuse .json (read value)

def typedField {α : Type} (step : Json) (name : String) (read : Reader α) : Answer α :=
  typed read (field step name)

/-- A field of a type with a default, which also stands for null. -/
def typedOr {α : Type} (step : Json) (name : String) (read : Reader α) (default : α) : Answer α :=
  match field step name with
  | .null => .ok default
  | value => typed read value

/-- Bytes, as a text or as hexadecimal digits; the text wins. -/
def bytes (step : Json) : Answer Bytes :=
  match text? step "text" with
  | some source => .ok (Utf8.ofString source)
  | none => do
    let source ← text step "hex"
    orRefuse (.badRequest "hex") (Hex.decode (Utf8.ofString source)).toOption

def connectionId (source : String) : Answer ConnectionId :=
  orRefuse .wrongId (ConnectionId.parse? source)

def modeTable : List (String × RenderMode) := RenderMode.all.map fun mode => (mode.text, mode)

/-- A render mode; plain text is the default. -/
def renderMode (step : Json) : Answer RenderMode :=
  typedOr step "mode" (Json.variant? modeTable) .plaintext

/-- Options of filters; the default ones if there are none. -/
def subscribeOptions (step : Json) : Answer SubscribeOptions :=
  typedOr step "opts" SubscribeOptions.read? .default

/-- Filters with options: one, several with the same options, or a map. -/
def filters (step : Json) : Answer (List FilterRequest) := do
  match text? step "topic" with
  | some topic => return [(topic, ← subscribeOptions step)]
  | none =>
    match field step "topics" with
    | .arr topics =>
      let topics ← typed (Json.list? Json.string?) (.arr topics)
      let options ← subscribeOptions step
      return topics.map (·, options)
    | _ => return (← typedField step "map" (Json.map? SubscribeOptions.read?)).entries

/-- The capacity of an event bus; an operation breaks off over a capacity for which there can be no
room. -/
def capacity (wanted : Nat) : Answer Nat :=
  if EventBus.isPossible wanted then .ok wanted else .error .brokenOff

def transportError (value : Json) : Answer TransportError := do
  let reason := (text? value "text").getD ""
  match ← text value "kind" with
  | "ConnectionFailed" => return .connectionFailed reason
  | "InvalidAddress" => return .invalidAddress reason
  | "Rejected" => return .rejected reason
  | "ChannelClosed" => return .channelClosed reason
  | "NotOpen" => return .notOpen
  | _ => throw (.badRequest "kind")

def packet (value : Json) : Answer Packet := do
  return {
    topic := ← text value "topic"
    payload := ← bytes value
    qos := ← typedOr value "qos" Json.qos? .atMostOnce
    retain := flag value "retain" false
    properties := ← typedField value "properties" (Json.nullable? PublishProperties.read?) }

def template (value : Json) : Answer TopicTemplate := do
  return {
    name := ← text value "name"
    group := text? value "group"
    pattern := ← text value "pattern"
    forThing := flag value "forThing" false
    forServer := flag value "forServer" false
    suggested := flag value "suggested" false }

/-- A catalog of filters; the built-in one if there is none. -/
def catalog (step : Json) : Answer Catalog := do
  match (field step "catalog").items? with
  | some values => return ⟨← values.mapM template, []⟩
  | none => return .builtin

end Input

end Script

end DeviceConsole
