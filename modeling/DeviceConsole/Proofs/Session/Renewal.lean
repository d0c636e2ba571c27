import DeviceConsole.Proofs.Session.Interference
import DeviceConsole.Proofs.Session.Quiet

/-!
# What a connect does to its connection

A connect that goes on replaces the session of its connection: the old one is closed, and its end
told to listeners, before a new one is asked for.  This file defines:

* `ThingScope.event?`, the event that listeners get under a scope, if any;
* `Connection.Renews`, what a connect does that goes on;
* `Connection.connect_renews`, which says that other connects are quiet.
-/

namespace DeviceConsole

open Operation

/-! ## Events under a scope -/

/-- The event that listeners get under a scope.  That a session of a server came up or ended is not
told. -/
def ThingScope.event? (scope : ThingScope) (id : ConnectionId) (time : Int)
    (kind : ThingEventKind) : Option ThingEvent :=
  match scope, kind.isConnection with
  | .any, true => none
  | _, _ => some ⟨scope, id, time, kind⟩

namespace Profile

variable {p : Profile} {id : ConnectionId} {time : Int} {kind : ThingEventKind}

/-- Only sessions of things have events of the session itself. -/
theorem event?_of_isConnection (h : kind.isConnection = true) :
    p.scope.event? id time kind =
      match p.role with
      | .thing => some ⟨p.scope, id, time, kind⟩
      | .server => none := by
  cases role : p.role <;> simp [ThingScope.event?, scope, thingId?, role, h]

end Profile

theorem ThingScope.event?_of_isMessage {scope : ThingScope} {id : ConnectionId} {time : Int}
    {kind : ThingEventKind} (h : kind.isConnection = false) :
    scope.event? id time kind = some ⟨scope, id, time, kind⟩ := by
  cases scope <;> simp [event?, h]

/-- An event says what kind it is of. -/
theorem ThingScope.kind_of_event? {scope : ThingScope} {id : ConnectionId} {time : Int}
    {kind : ThingEventKind} {event : ThingEvent} (h : scope.event? id time kind = some event) :
    event.kind = kind := by
  unfold event? at h
  split at h
  · cases h
  · cases h
    rfl

/-- An event that is told shows under which scope. -/
theorem ThingScope.event?_inj {scope other : ThingScope} {id : ConnectionId} {time : Int}
    {kind : ThingEventKind} (h : scope.event? id time kind = other.event? id time kind) :
    scope = other := by
  cases connection : kind.isConnection with
  | true => cases scope <;> cases other <;> simp_all [event?]
  | false =>
      rw [event?_of_isMessage connection, event?_of_isMessage connection] at h
      exact congrArg ThingEvent.scope (Option.some.inj h)

theorem Console.airs_raise {c : Console} {scope : ThingScope} {id : ConnectionId}
    {kind : ThingEventKind} : c.Airs [⟨scope, id, c.clock, kind⟩] (c.raise scope id kind) :=
  ⟨rfl, rfl⟩

/-! ## Parts of a connect -/

namespace Connection

variable {i : ConnectionRef} {s s' : Scene} {p : Profile} {token : Option String}

/-- The event that a connect raises when it replaces the session of a connection. -/
def ending? (connection : Connection) (time : Int) : Option ThingEvent :=
  connection.profile.scope.event? connection.id time .disconnected

theorem closePrevious_effects {previous : Option SessionId} {replaced : Option ThingScope}
    {a : Except ConsoleError Unit} (h : (closePrevious i previous replaced).Runs s a s') :
    ∃ said, s'.exchanges = s.exchanges ++ said ∧ said.filterMap Exchange.opened? = [] ∧
      ((∃ session error, previous = some session ∧ a = .error error ∧
          said.filterMap Exchange.closed? = [] ∧
          s'.console = restoreSession i session s.console) ∨
        (a = .ok () ∧ said.filterMap Exchange.closed? = previous.toList ∧
          s'.console.connections = s.console.connections ∧
          s.console.Airs
            (previous.bind fun _ => replaced.map fun scope =>
              ⟨scope, (s.console.connection i).id, s.console.clock, .disconnected⟩).toList
            s'.console)) := by
  cases previous with
  | none =>
      simp only [closePrevious, Program.pure_eq, runs_done_iff] at h
      rcases h with ⟨rfl, rfl⟩
      exact ⟨[], by simp, rfl, Or.inr ⟨rfl, rfl, rfl, rfl, rfl⟩⟩
  | some session =>
      simp only [closePrevious, Program.bind_eq, runs_bind_iff, runs_ask_iff] at h
      rcases h with ⟨reply, _, ⟨-, rfl⟩, h⟩
      cases reply with
      | error error =>
          rcases runs_change_done_iff.1 h with ⟨rfl, rfl⟩
          exact ⟨_, rfl, rfl, Or.inl ⟨session, _, rfl, rfl, rfl, rfl⟩⟩
      | ok _ =>
          rcases runs_change_done_iff.1 h with ⟨rfl, rfl⟩
          refine ⟨_, rfl, rfl, Or.inr ⟨rfl, rfl, ?_⟩⟩
          cases replaced with
          | none => exact ⟨rfl, rfl, rfl⟩
          | some scope => exact ⟨rfl, Console.airs_raise⟩

theorem others_prepare {j : ConnectionRef} {c : Console} (differs : j ≠ i) :
    (prepare i p token c).2.connection j = c.connection j :=
  fading_prepare.others differs

theorem openSession_effects {a : Except ConsoleError Bool} (hi : i < s.console.connections.length)
    (alive : (s.console.connection i).destroyed = false)
    (h : (openSession i p token).Runs s a s') :
    ∃ said, s'.exchanges = s.exchanges ++ said ∧ said.filterMap Exchange.closed? = [] ∧
      s.console.Airs [] s'.console ∧
      (∀ j, j ≠ i → s'.console.connection j = s.console.connection j) ∧
      ((said.filterMap Exchange.opened? = [] ∧
          (s'.console.connection i).session = (s.console.connection i).session) ∨
        ∃ session, said.filterMap Exchange.opened? = [session] ∧
          (s'.console.connection i).session = some session ∧
          (s'.console.connection i).token = token ∧ (s'.console.connection i).profile = p) := by
  simp only [openSession, Program.bind_eq, runs_bind_iff, runs_atomically_iff, runs_ask_iff] at h
  rcases h with ⟨options, _, ⟨rfl, rfl⟩, reply, _, ⟨-, rfl⟩, h⟩
  have hi' : i < (prepare i p token s.console).2.connections.length := by
    rw [fading_prepare.length]
    exact hi
  have prepared : (prepare i p token s.console).2.connection i = _ :=
    Console.connection_update_self hi
  rcases Request.open_reply reply with ⟨error, rfl⟩ | ⟨session, rfl⟩
  · rcases runs_change_done_iff.1 h with ⟨rfl, rfl⟩
    refine ⟨_, rfl, rfl, ⟨rfl, rfl⟩, ?_, Or.inl ⟨rfl, ?_⟩⟩
    · intro j differs
      exact (fading_failOpen.others differs).trans (others_prepare differs)
    · have kept : (prepare i p token s.console).2.Alters i Fading
          (failOpen i error (prepare i p token s.console).2) := fading_failOpen
      exact kept.own.session.trans fading_prepare.own.session
  · -- Nothing else ran since the request, so the connection was not destroyed meanwhile.
    have going : ((prepare i p token s.console).2.connection i).destroyed = false := by
      rw [prepared]
      exact alive
    simp only [runs_bind_iff, runs_atomically_iff] at h
    rcases h with ⟨adopted, _, ⟨taken, rfl⟩, h⟩
    simp only [Scene.console_note, Scene.console_apply, adopt, going, if_neg Bool.false_ne_true]
      at taken h
    obtain rfl : adopted = true := taken
    simp only [if_true, Program.pure_eq, runs_done_iff] at h
    rcases h with ⟨rfl, rfl⟩
    have own : ((prepare i p token s.console).2.update i fun connection =>
        { connection with session := some session }).connection i = _ :=
      Console.connection_update_self hi'
    refine ⟨_, rfl, rfl, ⟨rfl, rfl⟩, ?_, Or.inr ⟨session, rfl, ?_⟩⟩
    · intro j differs
      have others : ((prepare i p token s.console).2.update i fun connection =>
          { connection with session := some session }).connection j = _ :=
        Console.connection_update_of_ne differs
      exact others.trans (others_prepare differs)
    · refine ⟨congrArg Connection.session own, ?_, ?_⟩
      · exact (congrArg Connection.token own).trans (congrArg Connection.token prepared)
      · exact (congrArg Connection.profile own).trans (congrArg Connection.profile prepared)

/-! ## Connects -/

/-- What a connect does that goes on: the session of its connection is closed, its end told, and a
new one comes in its place, if the transport opens one. -/
structure Renews (i : ConnectionRef) (p : Profile) (token : Option String) (s : Scene)
    (said : List Exchange) (s' : Scene) : Prop where
  closed : said.filterMap Exchange.closed? = (s.console.connection i).session.toList
  airs : s.console.Airs
    ((s.console.connection i).session.bind fun _ =>
      (s.console.connection i).ending? s.console.clock).toList s'.console
  others : ∀ j, j ≠ i → s'.console.connection j = s.console.connection j
  outcome : (said.filterMap Exchange.opened? = [] ∧ (s'.console.connection i).session = none) ∨
    ∃ session, said.filterMap Exchange.opened? = [session] ∧
      (s'.console.connection i).session = some session ∧
      (s'.console.connection i).token = token ∧ (s'.console.connection i).profile = p

theorem beginConnect_replaced {c d : Console} {previous : Option SessionId}
    {replaced : Option ThingScope} (h : beginConnect i c = (.ready previous replaced, d)) :
    (replaced.map fun scope =>
        ⟨scope, (c.connection i).id, c.clock, .disconnected⟩ : Option ThingEvent) =
      (c.connection i).ending? c.clock := by
  rw [ending?, Profile.event?_of_isConnection rfl]
  unfold beginConnect at h
  dsimp only at h
  split at h
  · cases h
  · split at h
    · cases h
    · cases h
      cases (c.connection i).profile.role <;> rfl

/-- Takes the session from a connection, as a connect does that goes on. -/
def takeSession (i : ConnectionRef) (c : Console) : Console :=
  c.holdGate.update i fun connection => { connection with session := none }

theorem length_takeSession (i : ConnectionRef) (c : Console) :
    (takeSession i c).connections.length = c.connections.length := List.length_modify ..

theorem connection_takeSession {c : Console} (hi : i < c.connections.length) :
    (takeSession i c).connection i = { c.connection i with session := none } :=
  Console.connection_update_self hi

/-- A session that could not be closed comes back to its connection. -/
theorem quiet_restoreSession {c : Console} {session : SessionId} (hi : i < c.connections.length)
    (held : (c.connection i).session = some session) :
    c.Quiet True (restoreSession i session (takeSession i c)) := by
  refine ⟨⟨rfl, rfl⟩, fun j other _ => ?_⟩
  change (c.connection j).Bound True ((restoreSession i session (takeSession i c)).connection j)
  by_cases same : j = i
  · subst same
    have hi' : j < (takeSession j c).connections.length := by
      rw [length_takeSession]
      exact hi
    have back : (restoreSession j session (takeSession j c)).connection j =
        { (takeSession j c).connection j with
          session := ((takeSession j c).connection j).session <|> some session } :=
      Console.connection_update_self hi'
    rw [back, connection_takeSession hi]
    exact ⟨held.symm, rfl, rfl, fun _ => rfl⟩
  · have kept : (restoreSession i session (takeSession i c)).connection j = c.connection j :=
      (Console.connection_update_of_ne same).trans (Console.connection_update_of_ne same)
    rw [kept]
    exact .refl _

/-- A connect renews the session of its connection, or is quiet. -/
theorem connect_renews {a : Except ConsoleError Bool} (hi : i < s.console.connections.length)
    (h : (connect i p token).Runs s a s') :
    ∃ said, s'.exchanges = s.exchanges ++ said ∧
      ((said.filterMap Exchange.closed? = [] ∧ said.filterMap Exchange.opened? = [] ∧
          s.console.Quiet True s'.console) ∨
        Renews i p token s said s') := by
  simp only [connect, Program.bind_eq, runs_bind_iff, runs_atomically_iff] at h
  rcases h with ⟨_, middle, ⟨rfl, begun⟩, h⟩
  rcases beginConnect_cases i s.console with ⟨-, e⟩ | ⟨-, e⟩ | ⟨alive, free, replaced, e⟩
  · rw [e] at h begun
    rcases runs_done_iff.1 h with ⟨-, rfl⟩
    rw [begun]
    exact ⟨[], by simp [Scene.apply], Or.inl ⟨rfl, rfl, .refl _⟩⟩
  · rw [e] at h begun
    rcases runs_done_iff.1 h with ⟨-, rfl⟩
    rw [begun]
    exact ⟨[], by simp [Scene.apply], Or.inl ⟨rfl, rfl, .refl _⟩⟩
  · have told := beginConnect_replaced e
    rw [e] at h begun
    have taken : middle.console = takeSession i s.console := by
      rw [begun]
      rfl
    have unsaid : middle.exchanges = s.exchanges := by
      rw [begun]
      rfl
    have bare : middle.console.connection i = { s.console.connection i with session := none } := by
      rw [taken]
      exact connection_takeSession hi
    simp only [runs_bind_iff] at h
    rcases h with ⟨_, closed, closing, h⟩
    rcases closePrevious_effects closing with ⟨first, said, none, ⟨session, error, held, rfl,
      unclosed, restored⟩ | ⟨rfl, closes, same, airs⟩⟩
    · rcases runs_done_iff.1 h with ⟨-, rfl⟩
      refine ⟨first, by rw [said, unsaid], Or.inl ⟨unclosed, none, ?_⟩⟩
      rw [restored, taken]
      exact quiet_restoreSession hi held
    · have here (j : ConnectionRef) :
          closed.console.connection j = middle.console.connection j := by
        rw [Console.connection, same, Console.connection]
      have hi' : i < closed.console.connections.length := by
        rw [same, taken, length_takeSession]
        exact hi
      have going : (closed.console.connection i).destroyed = false := by
        rw [here, bare]
        exact alive
      rcases openSession_effects hi' going h with
        ⟨second, said', unclosed, silent, others, outcome⟩
      have spoken : s'.exchanges = s.exchanges ++ (first ++ second) := by
        rw [said', said, unsaid, List.append_assoc]
      refine ⟨first ++ second, spoken, Or.inr ⟨?_, ?_, ?_, ?_⟩⟩
      · rw [List.filterMap_append, closes, unclosed, List.append_nil]
      · have started : s.console.Airs [] middle.console := by
          rw [taken]
          exact ⟨rfl, rfl⟩
        have whole := (started.trans airs).trans silent
        rw [bare, started.2] at whole
        simpa only [List.nil_append, List.append_nil, told] using whole
      · intro j differs
        rw [others j differs, here, taken]
        exact Console.connection_update_of_ne differs
      · rw [here, bare] at outcome
        rw [List.filterMap_append, none, List.nil_append]
        exact outcome

end Connection

end DeviceConsole
