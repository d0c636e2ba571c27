import DeviceConsole.Session.Reaction

/-!
# The operations of a console

Operations name a connection by the id of its profile; a profile whose connection was destroyed gets
a new one.  Profiles are stored after every change; if that fails, the change stays and the
operation reports the failure.  This file defines, as programs:

* `Console.addProfile`, `updateProfile`, `removeProfile` and `select`;
* `Console.connect`, `disconnect`, `destroy`, `publish`, `subscribe`, `unsubscribe`;
* `Console.subscribeAll` and `unsubscribeAll`;
* `Console.clear`, `setRenderMode` and `forget`.
-/

namespace DeviceConsole

namespace Console

abbrev Result (α : Type) := Except ConsoleError α

/-! ## Finding connections -/

/-- The connection in use for an id; with a profile, one is made if there is none. -/
def getOrCreate (id : ConnectionId) (p : Option Profile) : Operation (Option ConnectionRef) := do
  match ← Program.look (·.current? id) with
  | some i => return some i
  | none =>
    match p with
    | none => return none
    | some p => return some (← Program.atomically (·.ensure { p with id := id }))

def resolve (id : ConnectionId) : Operation (Option ConnectionRef) := do
  getOrCreate id (← Program.look (·.profile? id))

def withConnection {α : Type} (id : ConnectionId) (act : ConnectionRef → Operation (Result α)) :
    Operation (Result α) := do
  match ← resolve id with
  | none => return .error (.connectionNotFound id)
  | some i => act i

def afterSaving {α : Type} (saved : Except StorageError Unit) (result : α) :
    Except ConsoleError α :=
  match saved with
  | .ok () => .ok result
  | .error error => .error (.storage error)

/-- Destroys the connection of an id; the answer tells whether there was one. -/
def destroy (id : ConnectionId) : Operation Bool := do
  match ← Program.atomically fun c => (c.current? id, c.retire id) with
  | none => return false
  | some i =>
    Connection.destroy i
    return true

/-! ## Profiles -/

/-- Changes a profile and stores all of them; the answer is the new profile. -/
def changeProfile (id : ConnectionId) (change : Profile → Profile) (c : Console) :
    Option (Profile × Except StorageError Unit) × Console :=
  match c.profile? id with
  | none => (none, c)
  | some p =>
    let (saved, c) := c.saveProfiles (replaceFirst id change c.profiles)
    (some (change p, saved), c)

/-- Changes a profile, and then the profile that its connection has. -/
def modifyProfile (id : ConnectionId) (change : Profile → Profile) : Operation (Result Unit) := do
  match ← Program.atomically (changeProfile id change) with
  | none => return .error (.connectionNotFound id)
  | some (p, saved) =>
    Program.change (·.configure p)
    return afterSaving saved ()

/-- Adds a profile under a new id.  Things without declared subscriptions get the suggested ones. -/
def addProfile (id : ConnectionId) (fresh : Nat → String) (p : Profile) :
    Operation (Result ConnectionId) := do
  let (p, saved) ← Program.atomically fun c =>
    let p := { p with id := id }
    let p :=
      if p.role = .thing ∧ p.subscriptions = [] then
        { p with subscriptions := c.catalog.suggestedFor fresh p.username }
      else p
    let (saved, c) := c.saveProfiles (c.profiles ++ [p])
    ((p, saved), c)
  -- The connection is made even if the profile could not be stored.
  let _ ← getOrCreate id (some p)
  return afterSaving saved id

def updateProfile (p : Profile) : Operation (Result Unit) := modifyProfile p.id fun _ => p

/-- Moves the focus to a connection and takes its messages as read. -/
def select (id : ConnectionId) : Operation (Result Unit) :=
  withConnection id fun i => do
    Program.change fun c => Connection.read i (c.setFocus (some id))
    return .ok ()

/-- Removes a profile from the list and stores the rest; the answer is the first of them. -/
def dropProfile (id : ConnectionId) (c : Console) :
    Option (Option ConnectionId × Except StorageError Unit) × Console :=
  match c.profile? id with
  | none => (none, c)
  | some _ =>
    let (saved, c) := c.saveProfiles (removeFirst id c.profiles)
    (some (c.profiles.head?.map (·.id), saved), c)

/-- Removes a profile, moves the focus to the first one, and destroys the connection. -/
def removeProfile (id : ConnectionId) : Operation (Result Unit) := do
  match ← Program.atomically (dropProfile id) with
  | none => return .error (.connectionNotFound id)
  | some (first, saved) =>
    match ← (
      match first with
      | some first => select first
      | none => do
        Program.change (·.setFocus none)
        return .ok () : Operation (Result Unit)) with
    | .error error => return .error error
    | .ok () =>
      let _ ← destroy id
      return afterSaving saved ()

/-! ## Sessions -/

/-- Connects, unless an attempt is under way; the answer tells whether it did. -/
def connect (id : ConnectionId) (token : Option String) : Operation (Result Bool) := do
  if ← Program.look (·.gateHeld) then return .ok false
  else
    match ← Program.look (·.profile? id) with
    | none => return .error (.connectionNotFound id)
    | some p => withConnection id fun i => Connection.connect i p token

/-- Disconnects, unless an attempt is under way; the answer tells whether it did. -/
def disconnect (id : ConnectionId) : Operation (Result Bool) := do
  if ← Program.look (·.gateHeld) then return .ok false
  else
    withConnection id fun i => do
      match ← Connection.disconnect i with
      | .error error => return .error error
      | .ok () => return .ok true

/-- Publishes a message; its options become the defaults of the profile. -/
def publish (id : ConnectionId) (d : Connection.Draft) (audience : Audience) :
    Operation (Result Unit) :=
  withConnection id fun i => do
    match ← Connection.publish i d audience with
    | .error error => return .error error
    | .ok () =>
      modifyProfile id fun p => { p with publishDefaults := ⟨d.options.qos, d.options.retain⟩ }

/-! ## Filters -/

/-- The declaration of a filter that was not declared before: the template's, if it has one. -/
def declaration (catalog : Catalog) (id thing : String) (filter : FilterRequest) : Subscription :=
  match catalog.lookup thing filter.1 with
  | some template => template.subscription id thing
  | none => .fresh id filter.1 filter.2

/-- Declares filters one after the other; the `n`th one gets the id `fresh n` if it is new. -/
def declare (catalog : Catalog) (fresh : Nat → String) (thing : String)
    (filters : List FilterRequest) (p : Profile) : Profile :=
  filters.zipIdx.foldl
    (fun p (filter, n) =>
      p.upsertSubscription filter.1 filter.2 (declaration catalog (fresh n) thing filter)) p

def subscribe (id : ConnectionId) (fresh : Nat → String) (filters : List FilterRequest)
    (audience : Audience) : Operation (Result Unit) :=
  withConnection id fun i => do
    match ← Connection.subscribe i filters audience with
    | .error error => return .error error
    | .ok () =>
      -- The profile may have changed while the broker was asked.
      let (catalog, thing) ← Program.look fun c => (c.catalog, (c.connection i).thingId)
      modifyProfile id (declare catalog fresh thing filters)

def unsubscribe (id : ConnectionId) (filters : List String) (audience : Audience) :
    Operation (Result Unit) :=
  withConnection id fun i => Connection.unsubscribe i filters audience

/-- Whether a failure is a refusal, of which the operator was told already. -/
def isRefusal : ConsoleError → Bool
  | .precondition _ => true
  | _ => false

def reportAll (success failure : String) (result : Except ConsoleError Unit) :
    Operation (Result Unit) := do
  match result with
  | .ok () => Program.change (·.notify .done success)
  | .error error => Program.change fun c => if isRefusal error then c else c.notify .fail failure
  return result

def pending (p : Profile) (s : Snapshot) : KeyMap SubscribeOptions :=
  .ofList ((p.subscriptions.filter fun d => !(s.live.get? d.topic).getD false).map fun d =>
    (d.topic, d.options))

def subscribeAll (id : ConnectionId) (fresh : Nat → String) : Operation (Result Unit) :=
  withConnection id fun i => do
    match ← Program.look (·.profile? id) with
    | none => return .error (.connectionNotFound id)
    | some p =>
      let filters := (pending p (← Program.look fun c => (c.connection i).snapshot)).entries
      if filters = [] then
        Program.change (·.notify .warn
          "All configured subscriptions have already been subscribed.")
        return .ok ()
      else
        reportAll "All configured subscriptions have been subscribed." "subscribe topics failed."
          (← subscribe id fresh filters .caller)

def unsubscribeAll (id : ConnectionId) : Operation (Result Unit) :=
  withConnection id fun i => do
    let filters ← Program.look fun c => (c.connection i).snapshot.active
    if filters = [] then
      Program.change (·.notify .warn "None of subscriptions need to be unsubscribed.")
      return .ok ()
    else
      reportAll "All subscriptions have been unsubscribed." "unsubscribe topics failed."
        (← Connection.unsubscribe i filters .caller)

/-! ## Without the broker -/

def locally (id : ConnectionId) (change : ConnectionRef → Console → Console) :
    Operation (Result Unit) :=
  withConnection id fun i => do
    Program.change (change i)
    return .ok ()

def clear (id : ConnectionId) : Operation (Result Unit) := locally id Connection.clear

def setRenderMode (id : ConnectionId) (mode : RenderMode) : Operation (Result Unit) :=
  locally id fun i => Connection.setRenderMode i mode

def forget (id : ConnectionId) (filter : String) : Operation (Result Unit) :=
  locally id fun i => Connection.forget i filter

end Console

end DeviceConsole
