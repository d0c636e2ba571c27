import DeviceConsole.Mqtt.Link
import DeviceConsole.Script.Report

/-!
# Starting a console from its settings

A console with settings works on the profiles in a file and with a transport that reaches no broker.
This file defines:

* `Start.reply`, the replies of the transport;
* `Start.run`, which starts a console, and adds and connects a profile if there is one to add.
-/

namespace DeviceConsole

namespace Script

namespace Start

open Input

/-- The replies of a transport on which one session is opened, and nothing is done with it yet. -/
def reply : (r : Request) → r.Reply
  | .open options =>
    match Mqtt.Link.start options with
    | .error (.refused error) => .error error
    | _ => .ok (0 : SessionId)
  | .publish _ _ _ _ => .ok ()
  | .subscribe _ filters => .ok (filters.map fun filter => UInt8.ofNat filter.2.qos.level)
  | .unsubscribe _ _ => .ok ()
  | .close _ => .ok ()

/-- Writes an id; made ids are not told apart. -/
def idJson (id : ConnectionId) : Json := if World.isMade id then .str "<new>" else id.toJson

/-- Writes a profile; made ids are not told apart. -/
def profileJson (p : Profile) : Json := replaceMember "id" (idJson p.id) p.toJson

def isSaved (c : Console) : Bool :=
  (c.storage.text.bind (ProfileStorage.decode? World.madeId)) = some c.profiles

def connected (id : ConnectionId) (found : Except ConsoleError Bool) (c : Console) :
    List (String × Json) :=
  [("saved", .bool (isSaved c)), ("count", .ofNat c.profiles.length),
    ("connect",
      match found with
      | .ok done => .bool done
      | .error error => (Refusal.failed error).toJson fun message => message),
    ("status", .ofOption (fun i => .str (c.connection i).snapshot.status.text) (c.current? id)),
    ("gate", .bool c.gateHeld)]

def addAndConnect (p : Profile) (c : Console) : Answer (List (String × Json)) :=
  let id := World.madeId (c.profiles.length + 1)
  match Mqtt.Link.start (p.clientOptions c.clock c.settings.autoResubscribe),
    (Console.addProfile id (fun _ => "<new>") p).run reply c with
  | .error .brokenOff, _ => .error .brokenOff
  | _, (.error error, _) => .error (.failed error)
  | _, (.ok id, c) =>
    let (found, c) := (Console.connect id none).run reply c
    .ok (connected id found c)

/-- Starts a console, and adds and connects a profile if there is one to add. -/
def run (input : Json) : Answer Json := do
  let settings ← typedOr input "settings" Settings.read? .default
  match settings.validate with
  | .error error => throw (.failed (.settings error))
  | .ok () =>
    let _ ← capacity settings.eventCapacity
    let storage := ProfileStorage.ofText (text? input "stored")
    let console := Console.start settings .builtin storage World.madeId clock
    let members := [("loaded", Json.arr (console.profiles.map profileJson)),
      ("focus", .ofOption idJson console.focus)]
    match field input "add" with
    | .null => return .obj members
    | value =>
      let p ← typed (Profile.read? (World.madeId console.profiles.length)) value
      return .obj (members ++ (← addAndConnect p console))

end Start

end Script

end DeviceConsole
