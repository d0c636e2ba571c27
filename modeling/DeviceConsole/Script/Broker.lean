import DeviceConsole.Profile.Record
import DeviceConsole.Script.Input
import DeviceConsole.Simulation.Outage

/-!
# Scripts for one session with a broker

The steps of such a script say what the broker does and which calls are made on the session.  The
broker is out of reach, so it sees no connection, and of each packet that it was to read there is
none.  After a step, events of the session may be listed.  This file defines:

* `Broker.step`, which does a step and reports on it;
* `Broker.run`, which does a whole script.
-/

namespace DeviceConsole

namespace Script

namespace Broker

open Input

/-- How long the broker waits for a connection, in milliseconds. -/
def patience : Nat := 5000

/-! ## The session -/

/-- An object with another value for a member that it has, and the member otherwise. -/
def withDefault (name : String) (value : Json) (members : List (String × Json)) :
    List (String × Json) :=
  if members.any (·.1 = name) then members else members ++ [(name, value)]

/-- The profile of the session; broker and protocol need not be given. -/
def profile (script : Json) : Answer Profile :=
  typed (Profile.read? default)
    (match field script "config" with
    | .obj members =>
      .obj (withDefault "host" (.str "127.0.0.1") (withDefault "protocol" (.str "mqtt") members))
    | value => value)

/-! ## Reports -/

/-- Writes an event; why a connection failed is left out. -/
def eventJson : TransportEvent → Json
  | .connected => .str "connected"
  | .reconnecting => .str "reconnecting"
  | .error _ => .str "error"
  | .close reason => .obj [("close", .ofOption .str reason)]
  | .message packet =>
    .obj [("message", .obj [("topic", .str packet.topic), ("hex", payloadJson packet.payload),
      ("qos", .ofQos packet.qos), ("retain", .bool packet.retain),
      ("properties", .ofOption PublishProperties.toJson packet.properties)])]
  | .ended => .str "end"

/-- Lists so many events; after the last one there ever is the list ends. -/
def hearAll : Nat → Outage → List Json × Outage
  | 0, o => ([], o)
  | n + 1, o =>
    match o.hear with
    | (none, o) => ([.str "closed"], o)
    | (some event, o) =>
      let (rest, o) := hearAll n o
      (eventJson event :: rest, o)

def resultJson {α : Type} (encode : α → Json) : Mqtt.Result α → Json
  | .ok a => encode a
  | .error error => (Refusal.failed (.transport error)).toJson id

def success (_ : Unit) : Json := .str "ok"

/-- Packets that the broker did not get. -/
def absent (names : List String) : List (String × Json) := names.map (·, .null)

/-- Packets that the broker did not get; a step may say that none is expected. -/
def missing (step : Json) (names : List String) : List (String × Json) :=
  if flag step "lost" false then [] else absent names

/-! ## Steps -/

def packetsOf (qos : Qos) (once twice : List String) : List String :=
  match qos with
  | .atMostOnce => []
  | .atLeastOnce => once
  | .exactlyOnce => once ++ twice

def filter? : Reader FilterRequest := fun value =>
  match value with
  | .arr [topic, options] => return (← Json.string? topic, ← SubscribeOptions.read? options)
  | _ => none

def publish (o : Outage) (step : Json) : Answer (List (String × Json) × Outage) := do
  let topic ← text step "topic"
  let payload ← bytes step
  let options ← typedOr step "opts" PublishOptions.read? default
  let (result, o) := o.drive (Mqtt.Call.publish topic payload options)
  -- A message that was refused leaves no packet to look for.
  let packets :=
    match result with
    | .ok () => missing step ("packet" :: packetsOf options.qos [] ["release"])
    | .error _ => []
  return (("result", resultJson success result) :: packets, o)

/-- Does a step and tells what came of it; nothing if the broker waited for a connection. -/
def act (o : Outage) (step : Json) : Answer (Option (List (String × Json)) × Outage) := do
  match ← text step "do" with
  | "accept" => return (none, o.pass patience)
  | "publish" =>
    let (members, o) ← publish o step
    return (some members, o)
  | "subscribe" =>
    let filters ← typedField step "filters" (Json.list? filter?)
    let (result, o) := o.drive (Mqtt.Call.subscribe filters)
    let codes (codes : List UInt8) := Json.arr (codes.map .ofWord8)
    return (some (("result", resultJson codes result) :: missing step ["packet"]), o)
  | "unsubscribe" =>
    let topics ← typedField step "topics" (Json.list? Json.string?)
    let (result, o) := o.drive (Mqtt.Call.unsubscribe topics)
    let packets := (missing step topics).map (·.2)
    return (some [("result", resultJson success result), ("packets", .arr packets)], o)
  | "inbound" =>
    let sent ← packet step
    return (some (absent (packetsOf sent.qos ["ack"] ["complete"])), o)
  | "end" =>
    let (result, o) := o.drive Mqtt.Call.close
    return (some (("result", resultJson success result) :: missing step ["packet"]), o)
  | "disconnect" => return (some [], o)
  | "drop" => return (some [], o)
  | "none" => return (some [], o)
  | _ => throw (.badRequest "do")

def step (o : Outage) (step : Json) : Answer (Json × Outage) := do
  match ← act o step with
  | (none, o) => return (.str "timeout", o)
  | (some members, o) =>
    let count ← typedOr step "events" (Json.nat? UInt32.size) 0
    let (heard, o) := hearAll count o
    let events := if heard.isEmpty then [] else [("events", Json.arr heard)]
    return (.obj (members ++ events), o)

def runFrom (o : Outage) : List Json → Answer (List Json)
  | [] => return []
  | first :: rest => do
    let (report, o) ← step o first
    return report :: (← runFrom o rest)

def run (script : Json) : Answer (List Json) := do
  let p ← profile script
  let steps ← items script "steps"
  match Outage.start (p.clientOptions 0 true) with
  | .error (.refused error) => throw (.failed (.transport error))
  | .error .brokenOff => throw .brokenOff
  | .ok o => runFrom o steps

end Broker

end Script

end DeviceConsole
