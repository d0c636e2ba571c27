import DeviceConsole.Script.Input
import DeviceConsole.Simulation.World

/-!
# Reports on the steps of a script

Made ids are written as numbers in the order in which they appeared among the profiles, and times
not at all.  This file defines:

* `Stage`, a world whose hooks hold steps;
* `idText` and `revise`, which put names in the place of made ids;
* `report`, what is said about a step.
-/

namespace DeviceConsole

namespace Script

/-- A console with a simulated transport; hooks hold steps, and reports are values. -/
abbrev Stage := World (List Json) Json

/-- How the steps of a hook are done. -/
abbrev Hooks := World.Runner (List Json) Json

def idText (w : Stage) (id : ConnectionId) : String :=
  if World.isMade id then
    match w.appeared.findIdx? (· = id) with
    | some n => "#" ++ toString (n + 1)
    | none => "#?"
  else id.text

def idJson (w : Stage) (id : ConnectionId) : Json := .str (idText w id)

/-- Puts names in the place of made ids. -/
def revise (w : Stage) (source : String) : String :=
  (List.range w.serial).foldl
    (fun source n =>
      Text.replaceAll (World.madeId n).text (idText w (World.madeId n)) source)
    source

def replaceMember (name : String) (new value : Json) : Json :=
  match value with
  | .obj members => .obj (members.map fun m => if m.1 = name then (name, new) else m)
  | value => value

/-- Writes a profile under the name of its id. -/
def profileJson (w : Stage) (p : Profile) : Json := replaceMember "id" (idJson w p.id) p.toJson

def clock : Int := 1700000000000

/-- What the clock adds to ids of clients. -/
def clockMark : List Char := ("_" ++ toString clock).toList

/-- Writes a request; a time at the end of an id of a client is left out. -/
def requestJson (r : Request) : Json :=
  match r with
  | .open options =>
    let client := options.clientId.toList
    let bare := client.take (client.length - clockMark.length)
    if client = bare ++ clockMark then
      (Request.open { options with clientId := String.ofList bare ++ "_<now>" }).toJson
    else r.toJson
  | r => r.toJson

/-- Writes an event without its time. -/
def eventJson (w : Stage) (e : ThingEvent) : Json :=
  .obj [("scope", e.scope.toJson), ("connection", idJson w e.connection), ("kind", e.kind.toJson)]

/-- Writes what waits for a listener, after the number of events it lost. -/
def heardJson (writeEvent : ThingEvent → Json) (l : Listener) : List Json :=
  (if l.lost = 0 then [] else [.obj [("lagged", .ofNat l.lost)]]) ++ l.waiting.map writeEvent

def noticeJson (n : Notification) : Json := .arr [.str n.level.text, .str n.text]

/-- A member for a list that is left out if it is empty. -/
def listMember (name : String) (values : List Json) : List (String × Json) :=
  if values.isEmpty then [] else [(name, .arr values)]

/-- What is said about a step: its result and everything that happened since the last report. -/
def report (result : Json) (w : Stage) : Json × Stage :=
  let (seen, w) := w.observe
  let shown := seen.shown.map fun (id, s) => (idText w id, s.toJson)
  (.obj ([("result", result), ("gate", .bool seen.gateHeld),
      ("focus", .ofOption (idJson w) seen.focus)] ++
    listMember "notes" (seen.notices.map noticeJson) ++
    listMember "events" (heardJson (eventJson w) seen.heard) ++
    listMember "calls" (seen.requests.map requestJson) ++
    (if shown.isEmpty then [] else [("snapshots", .obj shown)]) ++
    listMember "hook" seen.nested), w)

end Script

end DeviceConsole
