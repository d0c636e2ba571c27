import DeviceConsole.Script.Report

/-!
# The steps of a script

A step names an operation and has its arguments as further members.  There are steps for the
simulated transport, for profiles and listeners, for one connection by the id of its profile, and
for a connection that may no longer be in use.  This file defines a function for each of these
families, `step`, which does a step and reports on it, and `run`, which does a whole script.
-/

namespace DeviceConsole

namespace Script

open Input

/-- The result of a step, or the refusal in its place, with the world after it. -/
abbrev Move := Json × Stage

/-! ## Arguments -/

def target (w : Stage) (step : Json) : Answer ConnectionId := do
  let source ← text step "id"
  match source.toList with
  | '#' :: digits =>
    match (String.ofList digits).toNat? with
    | some (n + 1) => orRefuse (.badRequest "id") w.appeared[n]?
    | _ => throw (.badRequest "id")
  | _ => connectionId source

def kindTable : List (String × RequestKind) :=
  [("open", .open), ("publish", .publish), ("subscribe", .subscribe),
    ("unsubscribe", .unsubscribe), ("end", .close)]

def transportEvent (value : Json) : Answer TransportEvent := do
  match value with
  | .str "connected" => return .connected
  | .str "reconnecting" => return .reconnecting
  | .str "close" => return .close none
  | .str "end" => return .ended
  | .obj [("error", .str reason)] => return .error reason
  | .obj [("close", .str reason)] => return .close (some reason)
  | .obj [("close", .null)] => return .close none
  | .obj [("message", message)] => return .message (← packet message)
  | _ => throw (.badRequest "events")

def repeated {α : Type} (values : List α) : Nat → List α
  | 0 => []
  | n + 1 => values ++ repeated values n

def audience (step : Json) : Answer Audience :=
  match text? step "reply" with
  | none => .ok .operator
  | some "notify" => .ok .operator
  | some "caller" => .ok .caller
  | some _ => .error (.badRequest "reply")

def draft (step : Json) : Answer Connection.Draft := do
  return {
    topic := ← text step "topic"
    payload := ← text step "payload"
    mode := ← renderMode step
    options := ← typedOr step "opts" PublishOptions.read? default }

def topics (step : Json) : Answer (List String) := do
  typed (Json.list? Json.string?) (.arr (← items step "topics"))

/-- The ids of new subscriptions are not told apart. -/
def newId (_ : Nat) : String := "<new>"

/-! ## Results -/

def perform {α : Type} (hooks : Hooks) (encode : Stage → α → Json)
    (p : Operation (Except ConsoleError α)) (w : Stage) : Move :=
  let (found, w) := w.drive hooks p
  let w := w.lookAround
  match found with
  | .ok a => (encode w a, w)
  | .error error => ((Refusal.failed error).toJson (revise w), w)

def success (_ : Stage) (_ : Unit) : Json := .str "ok"

def truth (_ : Stage) (b : Bool) : Json := .bool b

def roleCount {α : Type} (topics : Role → List α) (role : Role) : Json :=
  .ofNat (topics role).length

/-! ## Families of steps -/

/-- Steps for the simulated transport and the store; nothing for other steps. -/
def transportStep (w : Stage) (name : String) (step : Json) : Answer (Option Move) := do
  match name with
  | "emit" =>
    let events ← (← items step "events").mapM transportEvent
    let times ← typedOr step "times" (Json.nat? UInt32.size) 1
    let session ← (
      match field step "session" with
      | .null => if w.opened = 0 then throw (.badRequest "session") else pure (w.opened - 1)
      | value => do
        let session ← orRefuse (.badRequest "session") (Json.nat? UInt32.size value)
        if session < w.opened then pure session else throw (.badRequest "session")
      : Answer SessionId)
    return some (.null, w.emit session (repeated events times))
  | "fail" =>
    let storage := w.console.storage
    match text? step "what" with
    | some "get" =>
      let storage := { storage with readFails := flag step "on" true }
      return some (.null, { w with console := { w.console with storage := storage } })
    | some "set" =>
      let storage := { storage with writeFails := flag step "on" true }
      return some (.null, { w with console := { w.console with storage := storage } })
    | some what =>
      let kind ← orRefuse (.badRequest "what") (kindTable.lookup what)
      let others := w.failures.filter (·.1 ≠ kind)
      match field step "with" with
      | .null => return some (.null, { w with failures := others })
      | error =>
        return some (.null, { w with failures := (kind, ← transportError error) :: others })
    | none => throw (.badRequest "what")
  | "grant" =>
    let codes ← typedField step "codes" (Json.list? Json.word8?)
    return some (.null, { w with grant := some codes })
  | "quiet_end" => return some (.null, { w with quietEnd := flag step "on" true })
  | "hook" =>
    let kind ← orRefuse (.badRequest "at") (kindTable.lookup (← text step "at"))
    let work ← items step "ops"
    return some (.null, { w with hooks := (kind, work) :: w.hooks.filter (·.1 ≠ kind) })
  | "settle" => return some (.null, w)
  | _ => return none

/-- Steps for profiles and listeners; nothing for other steps. -/
def profileStep (hooks : Hooks) (w : Stage) (name : String) (step : Json) :
    Answer (Option Move) := do
  let c := w.console
  let listening (bus : EventBus) : Move :=
    (.ofNat bus.subscriberCount, { w with console := { c with bus := bus } })
  match name with
  | "add" =>
    let p ← typedField step "config" (Profile.read? (World.madeId w.serial))
    let id := World.madeId (w.serial + 1)
    return some (perform hooks idJson (Console.addProfile id newId p)
      { w with serial := w.serial + 2 })
  | "update" =>
    let p ← typedField step "config" (Profile.read? (World.madeId w.serial))
    return some (perform hooks success (Console.updateProfile p)
      { w with serial := w.serial + 1 })
  | "connections" => return some (.arr (c.profiles.map (profileJson w)), w)
  | "by_client_id" =>
    let client ← text step "client"
    return some (.arr ((c.profiles.filter (·.clientId = client)).map (profileJson w)), w)
  | "snapshots" =>
    return some (.arr (c.snapshots.map fun (id, s) => .arr [idJson w id, .str s.status.text,
      .ofNat s.messages.length, .ofNat s.unread]), w)
  | "stored" =>
    return some (.ofOption (fun source => .str (revise w source)) c.storage.text, w)
  | "catalog_size" =>
    return some (.arr [roleCount c.catalog.subscribeTopics .thing,
      roleCount c.catalog.subscribeTopics .server, roleCount c.catalog.publishTopics .thing,
      roleCount c.catalog.publishTopics .server], w)
  | "listen" =>
    return some (listening (c.bus.subscribe (World.listenerName (← text step "name"))))
  | "unlisten" =>
    return some (listening (c.bus.unsubscribe (World.listenerName (← text step "name"))))
  | "heard" =>
    let (found, bus) := c.bus.drain (World.listenerName (← text step "name"))
    return some (.ofOption (fun l => .arr (heardJson (eventJson w) l)) found,
      { w with console := { c with bus := bus } })
  | _ => return none

/-- How a connection was found for a step that may make one. -/
def foundJson (w : Stage) (id : ConnectionId) (known found : Option ConnectionRef) : Json :=
  match found, known with
  | none, _ => .str "none"
  | some _, none => .obj [("created", idJson w id)]
  | some i, some j => if i = j then .str "existing" else .str "replaced"

/-- Steps for one connection, by the id of its profile. -/
def connectionStep (hooks : Hooks) (w : Stage) (id : ConnectionId) (name : String)
    (step : Json) : Answer Move := do
  let c := w.console
  match name with
  | "remove" => return perform hooks success (Console.removeProfile id) w
  | "select" => return perform hooks success (Console.select id) w
  | "connect" => return perform hooks truth (Console.connect id (text? step "token")) w
  | "disconnect" => return perform hooks truth (Console.disconnect id) w
  | "publish" =>
    let draft ← draft step
    return perform hooks success (Console.publish id draft (← audience step)) w
  | "subscribe" =>
    let filters ← filters step
    return perform hooks success (Console.subscribe id newId filters (← audience step)) w
  | "unsubscribe" =>
    let topics ← topics step
    return perform hooks success (Console.unsubscribe id topics (← audience step)) w
  | "subscribe_all" => return perform hooks success (Console.subscribeAll id newId) w
  | "unsubscribe_all" => return perform hooks success (Console.unsubscribeAll id) w
  | "clear" => return perform hooks success (Console.clear id) w
  | "render_mode" => return perform hooks success (Console.setRenderMode id (← renderMode step)) w
  | "forget" => return perform hooks success (Console.forget id (← text step "topic")) w
  | "destroy" =>
    let (found, w) := w.drive hooks (Console.destroy id)
    return (.bool found, w)
  | "get_or_create" =>
    let p ← typedField step "config" (Json.nullable? (Profile.read? (World.madeId w.serial)))
    let known := w.lastSeen id
    let (found, w) := ({ w with serial := w.serial + 1 } : Stage).drive hooks
      (Console.getOrCreate id p)
    return (foundJson w id known found, w)
  | "connection" => return (.ofOption (profileJson w) (c.profile? id), w)
  | "watched" =>
    return (.ofOption (fun i => (c.connection i).shown.toJson) (c.current? id), w)
  | _ => throw (.badRequest "op")

def infoJson (w : Stage) (connection : Connection) : Json :=
  .obj [("id", idJson w connection.id), ("status", connection.snapshot.status.toJson),
    ("connected", .bool connection.snapshot.status.isConnected),
    ("destroyed", .bool connection.destroyed), ("thingId", .str connection.thingId),
    ("config", profileJson w connection.profile),
    ("active", .arr (connection.snapshot.active.map .str)),
    ("snapshot", connection.snapshot.toJson)]

/-- Steps for a connection that may no longer be in use. -/
def directStep (hooks : Hooks) (w : Stage) (i : ConnectionRef) (name : String) (step : Json) :
    Answer Move := do
  let connection := w.console.connection i
  let locally (change : Console → Console) : Move :=
    (.null, { w with console := change w.console })
  match name with
  | "connect" =>
    let p ← typedOr step "config" (Profile.read? (World.madeId w.serial)) connection.profile
    return perform hooks truth (Connection.connect i p (text? step "token"))
      { w with serial := w.serial + 1 }
  | "disconnect" => return perform hooks success (Connection.disconnect i) w
  | "destroy" => return (.null, (w.drive hooks (Connection.destroy i)).2)
  | "publish" =>
    let draft ← draft step
    return perform hooks success (Connection.publish i draft (← audience step)) w
  | "subscribe" =>
    let filters ← filters step
    return perform hooks success (Connection.subscribe i filters (← audience step)) w
  | "unsubscribe" =>
    let topics ← topics step
    return perform hooks success (Connection.unsubscribe i topics (← audience step)) w
  | "clear" => return locally (Connection.clear i)
  | "read" => return locally (Connection.read i)
  | "render_mode" =>
    let mode ← renderMode step
    return locally (Connection.setRenderMode i mode)
  | "forget" =>
    let topic ← text step "topic"
    return locally (Connection.forget i topic)
  | "matching" => return (.arr ((connection.matching (← text step "topic")).map .str), w)
  | "info" => return (infoJson w connection, w)
  | _ => throw (.badRequest "op")

/-! ## Running -/

/-- Does a step for one connection; the id it names is looked for from now on. -/
def targetedStep (hooks : Hooks) (w : Stage) (name : String) (step : Json) : Move :=
  match target w step with
  | .error refusal => (refusal.toJson (revise w), w)
  | .ok id =>
    let w := { w with sought := if id ∈ w.sought then w.sought else w.sought ++ [id] }
    let found :=
      if flag step "direct" false then
        match w.lastSeen id with
        | none => .error (.badRequest "direct")
        | some i => directStep hooks w i name step
      else connectionStep hooks w id name step
    match found with
    | .ok move => move
    | .error refusal => (refusal.toJson (revise w), w)

/-- Does a step; the families are tried in order. -/
def act (hooks : Hooks) (w : Stage) (step : Json) : Move :=
  match text? step "op" with
  | none => ((Refusal.badRequest "op").toJson (revise w), w)
  | some name =>
    match transportStep w name step with
    | .error refusal => (refusal.toJson (revise w), w)
    | .ok (some move) => move
    | .ok none =>
      match profileStep hooks w name step with
      | .error refusal => (refusal.toJson (revise w), w)
      | .ok (some move) => move
      | .ok none => targetedStep hooks w name step

/-- Does a step, lets the world settle unless told otherwise, and reports. -/
def step (hooks : Hooks) (step : Json) (w : Stage) : Move :=
  let (result, w) := act hooks w step
  report result (if flag step "settle" true then w.settle hooks else w)

/-- More hooks inside each other than a script can hold. -/
def hookDepth : Nat := 200

/-- Does a script from the beginning; the first report is on the console as it starts. -/
def run (script : Json) : Answer (List Json) := do
  let settings ← typedOr script "settings" Settings.read? .default
  let catalog ← catalog script
  let steps ← items script "ops"
  let _ ← capacity settings.eventCapacity
  let storage : ProfileStorage := ⟨text? script "stored", flag script "failGet" false, false⟩
  let console := Console.start settings catalog storage World.madeId clock
  let (first, w) := report .null (World.ofConsole console console.profiles.length)
  return first :: World.runAll step hookDepth steps w

end Script

end DeviceConsole
