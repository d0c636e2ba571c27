import DeviceConsole.Proofs.Session.Delegation
import DeviceConsole.Proofs.Session.Renewal

/-!
# What listeners are told of sessions

Listeners hear of a session when it comes up, ends or is replaced, and of its messages.  This file
defines:

* `Label.occasions`, what a step makes happen to sessions;
* `Console.report?`, what is told of it, and `Transition.reports`, all that a step tells;
* `Transition.Opens`, the connects that open a session;
* `Course`, what a step comes to for listeners and connections, which holds of every step;
* `Course.airs`, which says that listeners are told just the reports, and `Course.ties`, which says
  how a connection comes to hold a session.
-/

namespace DeviceConsole

open Operation

/-! ## Occasions -/

structure Occasion where
  session : SessionId
  kind : ThingEventKind
  deriving DecidableEq

structure Report where
  session : SessionId
  event : ThingEvent
  deriving DecidableEq

def Exchange.sent? : Exchange → Option SessionId
  | ⟨.publish session _ _ _, .ok _⟩ => some session
  | _ => none

def Connection.occasion? (connection : Connection) (session : SessionId) :
    TransportEvent → Option Occasion
  | .connected => some ⟨session, .connected connection.token⟩
  | .message packet => some ⟨session, .messageIn packet.topic⟩
  | .ended => some ⟨session, .disconnected⟩
  | _ => none

theorem Connection.session_of_occasion? {connection : Connection} {session : SessionId}
    {event : TransportEvent} {x : Occasion} (h : connection.occasion? session event = some x) :
    x.session = session := by
  cases event with
  | connected | message | ended =>
      cases h
      rfl
  | _ => cases h

/-- What a step makes happen to sessions, by what is said to the transport during it: connects
replace the sessions that they close, and messages are published. -/
def Label.occasions (before : Console) (said : List Exchange) : Label → List Occasion
  | .call (.connect _ _) _ => (said.filterMap Exchange.closed?).map (⟨·, .disconnected⟩)
  | .direct _ (.connect _ _) _ => (said.filterMap Exchange.closed?).map (⟨·, .disconnected⟩)
  | .call (.publish _ d _) _ => (said.filterMap Exchange.sent?).map (⟨·, .messageOut d.topic⟩)
  | .direct _ (.publish d _) _ => (said.filterMap Exchange.sent?).map (⟨·, .messageOut d.topic⟩)
  | .event i session happened =>
    if (before.connection i).owns session then
      ((before.connection i).occasion? session happened).toList
    else []
  | _ => []

theorem Label.mem_occasions_event {before : Console} {said : List Exchange} {i : ConnectionRef}
    {session : SessionId} {event : TransportEvent} {x : Occasion}
    (h : x ∈ (Label.event i session event).occasions before said) :
    (before.connection i).session = some session ∧
      (before.connection i).occasion? session event = some x := by
  simp only [occasions] at h
  split at h
  · next owned => exact ⟨Connection.owns_iff.1 owned, Option.mem_toList.1 h⟩
  · cases h

namespace Console

def holder? (c : Console) (session : SessionId) : Option Connection :=
  c.connections.find? (·.owns session)

/-- What would be told of an occasion if the connection that holds the session spoke under the given
scope. -/
def reportUnder? (scope : Connection → ThingScope) (c : Console) (x : Occasion) : Option Report :=
  (c.holder? x.session).bind fun holder =>
    ((scope holder).event? holder.id c.clock x.kind).map (⟨x.session, ·⟩)

/-- What is told of an occasion: an event under the scope that the connection has. -/
def report? : Console → Occasion → Option Report := reportUnder? fun holder => holder.profile.scope

end Console

namespace Transition

def occasions (t : Transition) : List Occasion := t.label.occasions t.before.console t.said

def reports (t : Transition) : List Report := t.occasions.filterMap t.before.console.report?

/-- Whether listeners are told by a step what it reports, and nothing else. -/
def Heard (t : Transition) : Prop :=
  t.after.console.bus = (t.reports.map Report.event).foldl EventBus.publish t.before.console.bus

end Transition

/-! ## Connects that open a session -/

def Label.Connecting (before : Console) (p : Profile) (token : Option String) : Label → Prop
  | .call (.connect id given) _ => before.profile? id = some p ∧ given = token
  | .direct _ (.connect profile given) _ => profile = p ∧ given = token
  | _ => False

/-- Whether a step is a connect under a profile, with a token, that opens a session. -/
structure Transition.Opens (session : SessionId) (p : Profile) (token : Option String)
    (t : Transition) : Prop where
  connecting : t.label.Connecting t.before.console p token
  opened : session ∈ t.said.filterMap Exchange.opened?

/-! ## Holders -/

namespace Scene

variable {s : Scene} {i : ConnectionRef} {session : SessionId}

theorem holder?_eq_some {x : Connection} (h : s.console.holder? session = some x) :
    ∃ j, s.console.connection j = x ∧ x.session = some session := by
  have member := List.mem_of_find?_eq_some h
  have owned := List.find?_some h
  rcases List.getElem_of_mem member with ⟨j, hj, rfl⟩
  refine ⟨j, by simp [Console.connection, hj], ?_⟩
  simpa [Connection.owns] using owned

/-- No other connection holds the session that one holds. -/
theorem holder?_eq (sound : s.board.Sound)
    (held : (s.console.connection i).session = some session) :
    s.console.holder? session = some (s.console.connection i) := by
  have hv := get?_of_held held
  have hi := (Console.board_get?_iff.1 hv).1
  cases found : s.console.holder? session with
  | none =>
      have unowned := List.find?_eq_none.1 found s.console.connections[i] (List.getElem_mem hi)
      have here : s.console.connections[i] = s.console.connection i := by
        simp [Console.connection, hi]
      rw [here, Connection.owns_iff.2 held] at unowned
      exact absurd rfl unowned
  | some x =>
      rcases holder?_eq_some found with ⟨j, rfl, held'⟩
      rw [sound.distinct hv (get?_of_held held') held held']

end Scene

/-! ## Publishing -/

namespace Connection

variable {s s' : Scene} {i : ConnectionRef}

theorem beginPublish_ok {d : Draft} {audience : Audience} {c : Console} {session : SessionId}
    {payload : Bytes} (h : (beginPublish i d audience c).1 = .ok (session, payload)) :
    (c.connection i).session = some session := by
  simp only [beginPublish] at h
  split at h
  · cases h
  · split at h
    · cases h
    · split at h
      · cases h
      · split at h
        · cases h
        · next held =>
            split at h
            · cases h
            · cases h
              unfold openSession? at held
              split at held
              · exact held
              · cases held

/-- An event is raised under the scope that a connection had before a silent change, if the change
leaves its scope and its id. -/
theorem airs_raiseFor {c c' : Console} {kind : ThingEventKind} (silent : c.Airs [] c')
    (scope : (c'.connection i).profile.scope = (c.connection i).profile.scope)
    (id : (c'.connection i).id = (c.connection i).id) :
    c.Airs [⟨(c.connection i).profile.scope, (c.connection i).id, c.clock, kind⟩]
      (c'.raiseFor i kind) := by
  rw [← scope, ← id, ← silent.2]
  exact silent.trans Console.airs_raise

/-- A message that was sent is told under the scope of the connection. -/
theorem finishPublish_effects {d : Draft} {c : Console} {session : SessionId}
    (held : (c.connection i).session = some session) :
    c.Binds True (finishPublish i d c) ∧
      c.Airs [⟨(c.connection i).profile.scope, (c.connection i).id, c.clock, .messageOut d.topic⟩]
        (finishPublish i d c) := by
  have edited : ∀ defaults, c.Quiet True
      (c.update i fun connection => { connection with profile.publishDefaults := defaults }) :=
    fun _ => .update fun _ => ⟨rfl, rfl, rfl, fun _ => rfl⟩
  have logged : c.Quiet True (logMessage i ⟨.outbound, d.topic, d.payload, d.options.stripped.qos,
      d.options.stripped.retain, d.options.stripped.properties⟩ (c.update i fun connection =>
        { connection with
          profile.publishDefaults := ⟨d.options.stripped.qos, d.options.stripped.retain⟩ })) :=
    (edited _).trans .present
  have kept : ((finishPublish i d c).connection i).session = some session :=
    calm_finishPublish.own.session.trans held
  have bound := logged.bound kept
  exact ⟨logged.2, airs_raiseFor logged.1 (bound.scope trivial) bound.id⟩

/-- What a publish does: it is quiet, or sends a message over the session of its connection and
tells of it. -/
inductive Sends (i : ConnectionRef) (d : Draft) (s : Scene) (said : List Exchange) (s' : Scene) :
    Prop where
  | refused : said.filterMap Exchange.sent? = [] → s.console.Quiet True s'.console →
      Sends i d s said s'
  | sent (session : SessionId) : (s.console.connection i).session = some session →
      said.filterMap Exchange.sent? = [session] → s.console.Binds True s'.console →
      s.console.Airs [⟨(s.console.connection i).profile.scope, (s.console.connection i).id,
        s.console.clock, .messageOut d.topic⟩] s'.console → Sends i d s said s'

theorem publish_sends {d : Draft} {audience : Audience} {a : Except ConsoleError Unit}
    (h : (publish i d audience).Runs s a s') :
    ∃ said, s'.exchanges = s.exchanges ++ said ∧ Sends i d s said s' := by
  simp only [publish, Program.bind_eq, runs_bind_iff, runs_atomically_iff] at h
  rcases h with ⟨found, middle, ⟨begun, rfl⟩, h⟩
  have quiet : s.console.Quiet True (beginPublish i d audience s.console).2 := quiet_beginPublish
  cases found with
  | error error =>
      rcases runs_done_iff.1 h with ⟨-, rfl⟩
      exact ⟨[], by simp [Scene.apply], .refused rfl quiet⟩
  | ok found =>
      rcases found with ⟨session, payload⟩
      have held := beginPublish_ok begun.symm
      simp only [runs_bind_iff, runs_ask_iff] at h
      rcases h with ⟨reply, _, ⟨-, rfl⟩, h⟩
      cases reply with
      | error error =>
          rcases runs_change_done_iff.1 h with ⟨-, rfl⟩
          exact ⟨_, rfl, .refused rfl (quiet.trans (.report _ _))⟩
      | ok _ =>
          rcases runs_change_done_iff.1 h with ⟨-, rfl⟩
          have kept : ((beginPublish i d audience s.console).2.connection i).session =
              some session := calm_beginPublish.own.session.trans held
          have bound := quiet.bound kept
          rcases finishPublish_effects (d := d) kept with ⟨binds, airs⟩
          refine ⟨_, rfl, .sent session held rfl (quiet.2.trans binds) ?_⟩
          rw [bound.scope trivial, bound.id, quiet.1.2] at airs
          exact quiet.1.trans airs

end Connection

/-! ## What is told -/

namespace Scene

variable {s m s' : Scene} {i : ConnectionRef} {session : SessionId} {kind : ThingEventKind}

/-- Of an occasion is told what the one connection says that holds the session. -/
theorem report?_eq (sound : s.board.Sound)
    (held : (s.console.connection i).session = some session) :
    s.console.report? ⟨session, kind⟩ =
      ((s.console.connection i).profile.scope.event? (s.console.connection i).id s.console.clock
        kind).map (⟨session, ·⟩) := by
  simp [Console.report?, Console.reportUnder?, holder?_eq sound held]

def told (s : Scene) (occasions : List Occasion) : List ThingEvent :=
  (occasions.filterMap s.console.report?).map Report.event

theorem told_singleton (sound : s.board.Sound)
    (held : (s.console.connection i).session = some session) :
    s.told [⟨session, kind⟩] =
      ((s.console.connection i).profile.scope.event? (s.console.connection i).id s.console.clock
        kind).toList := by
  rw [told, List.filterMap_cons, report?_eq sound held]
  cases (s.console.connection i).profile.scope.event? _ _ _ <;> rfl

/-- After a quiet beginning the same is told. -/
theorem told_of_quiet (sound : s.board.Sound) (quiet : s.console.Quiet True m.console)
    (held : (m.console.connection i).session = some session) :
    s.told [⟨session, kind⟩] =
      ((m.console.connection i).profile.scope.event? (m.console.connection i).id m.console.clock
        kind).toList := by
  have bound := quiet.bound held
  rw [told_singleton sound (bound.session.symm.trans held), bound.scope trivial, bound.id,
    quiet.1.2]

end Scene

namespace Connection

variable {s m s' : Scene} {i : ConnectionRef} {said : List Exchange}

/-- A connect tells of the end of the session that it replaces. -/
theorem Renews.airs_told {p : Profile} {token : Option String} (h : Renews i p token m said s')
    (sound : s.board.Sound) (quiet : s.console.Quiet True m.console) :
    s.console.Airs (s.told ((said.filterMap Exchange.closed?).map (⟨·, .disconnected⟩)))
      s'.console := by
  have airs := quiet.1.trans h.airs
  rw [h.closed]
  cases held : (m.console.connection i).session with
  | none =>
      rw [held] at airs
      exact airs
  | some session =>
      rw [held] at airs
      have told : s.told [⟨session, .disconnected⟩] = _ := Scene.told_of_quiet sound quiet held
      rw [Option.toList_some, List.map_singleton, told]
      exact airs

/-- A publish tells of the message that it sends. -/
theorem Sends.airs_told {d : Draft} (h : Sends i d m said s') (sound : s.board.Sound)
    (quiet : s.console.Quiet True m.console) :
    s.console.Airs (s.told ((said.filterMap Exchange.sent?).map (⟨·, .messageOut d.topic⟩)))
      s'.console := by
  cases h with
  | refused none later =>
      rw [none]
      exact quiet.1.trans later.1
  | sent session held sent _ airs =>
      have told : s.told [⟨session, .messageOut d.topic⟩] = _ :=
        Scene.told_of_quiet sound quiet held
      rw [sent, List.map_singleton, told, ThingScope.event?_of_isMessage rfl]
      exact quiet.1.trans airs

theorem Sends.binds {d : Draft} (h : Sends i d s said s') : s.console.Binds True s'.console := by
  cases h with
  | refused _ quiet => exact quiet.2
  | sent _ _ _ binds _ => exact binds

/-! ## Events -/

variable {session : SessionId} {event : TransportEvent} {u : Unit} {c c' : Console}

/-- That its session came up or ended is told by a connection unless it is a server's. -/
theorem airs_spoken {kind : ThingEventKind} (h : kind.isConnection = true)
    (silent : c.Airs [] c')
    (scope : (c'.connection i).profile.scope = (c.connection i).profile.scope)
    (id : (c'.connection i).id = (c.connection i).id) :
    c.Airs ((c.connection i).profile.scope.event? (c.connection i).id c.clock kind).toList
      (match (c.connection i).profile.role with
        | .thing => c'.raiseFor i kind
        | .server => c') := by
  rw [Profile.event?_of_isConnection h]
  cases (c.connection i).profile.role with
  | thing => exact airs_raiseFor silent scope id
  | server => exact silent

/-- Takes the token from a connection whose session is up. -/
def announce (i : ConnectionRef) (c : Console) : Console :=
  ((c.update i fun connection => { connection with token := none }.present fun s =>
    { s with status := .connected, retryCount := 0 }).releaseGate).notify .done "Connected"

theorem onConnected_console (held : (s.console.connection i).session = some session)
    (h : (onConnected i session).Runs s u s') :
    s'.console = match (s.console.connection i).profile.role with
      | .thing => (announce i s.console).raiseFor i
          (.connected (s.console.connection i).token)
      | .server => announce i s.console := by
  have owned := owns_iff.2 held
  simp only [onConnected, Program.bind_eq, runs_bind_iff, runs_atomically_iff] at h
  rcases h with ⟨_, middle, ⟨rfl, rfl⟩, h⟩
  have same : s'.console = (acceptConnected i session s.console).2 := by
    split at h
    · rcases runs_done_iff.1 h with ⟨-, rfl⟩
      rfl
    · simp only [runs_bind_iff, runs_ask_iff, Program.pure_eq, runs_done_iff] at h
      rcases h with ⟨_, _, ⟨-, rfl⟩, -, rfl⟩
      rfl
  rw [same, acceptConnected, owned, if_pos rfl]
  rfl

theorem connection_announce (hi : i < c.connections.length) :
    (announce i c).connection i = ({ c.connection i with token := none }.present fun s =>
      { s with status := .connected, retryCount := 0 }) := Console.connection_update_self hi

theorem onMessage_effects {packet : Packet} (held : (c.connection i).session = some session) :
    c.Binds True (onMessage i session packet c) ∧
      c.Airs [⟨(c.connection i).profile.scope, (c.connection i).id, c.clock,
        .messageIn packet.topic⟩] (onMessage i session packet c) := by
  have logged : ∀ m notices, c.Quiet True (logMessage i m (c.notifyAll notices)) :=
    fun _ notices => Console.Quiet.present (c := c.notifyAll notices)
  have kept : ((onMessage i session packet c).connection i).session = some session :=
    calm_onMessage.own.session.trans held
  simp only [onMessage, owns_iff.2 held, if_true] at kept ⊢
  have bound := (logged _ _).bound kept
  exact ⟨(logged _ _).2, airs_raiseFor (logged _ _).1 (bound.scope trivial) bound.id⟩

theorem onEnded_effects (held : (c.connection i).session = some session)
    (hi : i < c.connections.length) :
    c.Binds True (onEnded i session c) ∧
      c.Airs ((c.connection i).profile.scope.event? (c.connection i).id c.clock
        .disconnected).toList (onEnded i session c) := by
  have released : c.Quiet True (c.update i fun connection =>
      { connection with session := none }.present fun s =>
        { s with status := .disconnected, live := .empty }) := .release rfl
  have own : (c.update i fun connection => { connection with session := none }.present fun s =>
      { s with status := .disconnected, live := .empty }).connection i = _ :=
    Console.connection_update_self hi
  simp only [onEnded, owns_iff.2 held, if_true]
  constructor
  · cases (c.connection i).profile.role <;> exact released.2
  · exact airs_spoken rfl released.1 (congrArg (fun x => x.profile.scope) own)
      (congrArg (fun x => x.id) own)

/-- Other events mean nothing to listeners. -/
theorem react_quiet (none : (s.console.connection i).occasion? session event = none)
    (h : (react i session event).Runs s u s') : s.console.Quiet True s'.console := by
  cases event with
  | connected | message | ended => cases none
  | reconnecting => exact quiet_onReconnecting.runs h .refl .trans
  | error reason =>
      rcases runs_change_iff.1 h with rfl
      exact quiet_onError
  | close reason =>
      rcases runs_change_iff.1 h with rfl
      exact quiet_onClose

/-- A connection tells what an event means to the session that it holds. -/
theorem react_airs (sound : s.board.Sound)
    (held : (s.console.connection i).session = some session)
    (h : (react i session event).Runs s u s') :
    s.console.Airs (s.told ((s.console.connection i).occasion? session event).toList)
      s'.console := by
  have hi := (Console.board_get?_iff.1 (Scene.get?_of_held held)).1
  have told {kind : ThingEventKind} : s.told [⟨session, kind⟩] = _ :=
    Scene.told_singleton sound held
  cases event with
  | connected =>
      have own := connection_announce hi
      rw [occasion?, Option.toList_some, told, onConnected_console held h]
      exact airs_spoken rfl ⟨rfl, rfl⟩ (congrArg (fun x => x.profile.scope) own)
        (congrArg (fun x => x.id) own)
  | message packet =>
      rcases runs_change_iff.1 h with rfl
      rw [occasion?, Option.toList_some, told, ThingScope.event?_of_isMessage rfl]
      exact (onMessage_effects held).2
  | ended =>
      rcases runs_change_iff.1 h with rfl
      rw [occasion?, Option.toList_some, told]
      exact (onEnded_effects held hi).2
  | reconnecting | error | close => exact (react_quiet rfl h).1

/-- Only when its session comes up does a connection lose the token of its connect. -/
theorem react_binds (held : (s.console.connection i).session = some session)
    (other : event ≠ .connected) (h : (react i session event).Runs s u s') :
    s.console.Binds True s'.console := by
  have hi := (Console.board_get?_iff.1 (Scene.get?_of_held held)).1
  cases event with
  | connected => exact absurd rfl other
  | message packet =>
      rcases runs_change_iff.1 h with rfl
      exact (onMessage_effects held).1
  | ended =>
      rcases runs_change_iff.1 h with rfl
      exact (onEnded_effects held hi).1
  | reconnecting | error | close => exact (react_quiet rfl h).2

end Connection

/-! ## What a step comes to -/

/-- Whether a step is no connect that opened a session, by what was said during it. -/
def Label.OpensNone (before : Console) (said : List Exchange) (label : Label) : Prop :=
  ∀ p token, label.Connecting before p token → said.filterMap Exchange.opened? = []

/-- Whether a step may give a connection the profile that is stored for it. -/
def Label.Configures : Label → Prop
  | .call asked _ => asked.Configures
  | _ => False

def Label.isEvent : Label → Bool
  | .event _ _ _ => true
  | _ => false

/-- What a step comes to, as listeners and connections see it: a connect or a publish of a
connection after a quiet beginning, an event, or nothing that either of them notices. -/
inductive Course (s : Scene) (label : Label) (said : List Exchange) (s' : Scene) : Prop where
  | quiet : label.isEvent = false → label.OpensNone s.console said →
      label.occasions s.console said = [] → s.console.Quiet (¬ label.Configures) s'.console →
      Course s label said s'
  | connect {p : Profile} {token : Option String} {m : Scene} {i : ConnectionRef} :
      label.Connecting s.console p token →
      label.occasions s.console said =
        (said.filterMap Exchange.closed?).map (⟨·, .disconnected⟩) →
      s.console.Quiet True m.console → Connection.Renews i p token m said s' →
      Course s label said s'
  | publish {d : Connection.Draft} {m last : Scene} {i : ConnectionRef} :
      label.isEvent = false → label.OpensNone s.console said →
      label.occasions s.console said =
        (said.filterMap Exchange.sent?).map (⟨·, .messageOut d.topic⟩) →
      s.console.Quiet True m.console → Connection.Sends i d m said last →
      last.console.Quiet (¬ label.Configures) s'.console → Course s label said s'
  | react {i : ConnectionRef} {session : SessionId} {event : TransportEvent} :
      label = .event i session event → (session, i) ∈ s.console.handlers →
      (s.console.connection i).session = some session →
      (Connection.react i session event).Runs s () s' → Course s label said s'
  | stray {i : ConnectionRef} {session : SessionId} {event : TransportEvent} :
      label = .event i session event → (session, i) ∈ s.console.handlers →
      (s.console.connection i).owns session = false → s' = s → Course s label said s'
  | outside : label = .outside → (∀ i, s'.console.connection i = s.console.connection i) →
      Course s label said s'

theorem Label.Connecting.isEvent {label : Label} {before : Console} {p : Profile}
    {token : Option String} (h : label.Connecting before p token) : label.isEvent = false := by
  cases label with
  | call | direct | outside => rfl
  | event => cases h

/-- A step is a connect under one profile at most, with one token. -/
theorem Label.Connecting.unique {label : Label} {before : Console} {p q : Profile}
    {token other : Option String} (h : label.Connecting before p token)
    (h' : label.Connecting before q other) : p = q ∧ token = other := by
  cases label with
  | call call =>
      cases call with
      | connect => exact ⟨Option.some.inj (h.1.symm.trans h'.1), h.2.symm.trans h'.2⟩
      | _ => cases h
  | direct i call =>
      cases call with
      | connect => exact ⟨h.1.symm.trans h'.1, h.2.symm.trans h'.2⟩
      | _ => cases h
  | event | outside => cases h

namespace Course

variable {s m s' : Scene} {label : Label} {said : List Exchange}

/-- A connect is quiet if it does not go on. -/
theorem of_connect {i : ConnectionRef} {p : Profile} {token : Option String}
    {a : Except ConsoleError Bool} (quiet : s.console.Quiet True m.console)
    (hi : i < m.console.connections.length) (run : (Connection.connect i p token).Runs m a s')
    (e : s'.exchanges = m.exchanges ++ said) (connecting : label.Connecting s.console p token)
    (occasions : label.occasions s.console said =
      (said.filterMap Exchange.closed?).map (⟨·, .disconnected⟩)) :
    Course s label said s' := by
  rcases Connection.connect_renews hi run with ⟨said', e', ⟨unclosed, unopened, later⟩ | renews⟩
  · obtain rfl := List.append_cancel_left (e.symm.trans e')
    refine .quiet connecting.isEvent (fun _ _ _ => unopened) ?_
      ((quiet.trans later).mono fun _ => trivial)
    rw [occasions, unclosed]
    rfl
  · obtain rfl := List.append_cancel_left (e.symm.trans e')
    exact .connect connecting occasions quiet renews

theorem of_console_connect {id : ConnectionId} {token : Option String} {a : Console.Result Bool}
    (sound : s.board.Sound) (run : (Console.connect id token).Runs s a s')
    (e : s'.exchanges = s.exchanges ++ said) :
    Course s (.call (.connect id token) a) said s' := by
  have untouched (same : s' = s) : Course s (.call (.connect id token) a) said s' := by
    obtain rfl : said = [] := by simpa [same] using e
    refine .quiet rfl (fun _ _ _ => rfl) rfl ?_
    rw [same]
    exact .refl _
  simp only [Console.connect, Program.bind_eq, runs_look_bind_iff] at run
  split at run
  · exact untouched (runs_done_iff.1 run).2
  · simp only [runs_look_bind_iff] at run
    split at run
    · exact untouched (runs_done_iff.1 run).2
    · next p known =>
        rcases Console.withConnection_grows sound run with
          ⟨-, same⟩ | ⟨i, m, grown, quiet, -, hi, run⟩
        · exact untouched same
        · rw [← grown.exchanges] at e
          exact of_connect quiet hi run e ⟨known, rfl⟩ rfl

theorem of_console_publish {id : ConnectionId} {d : Connection.Draft} {audience : Audience}
    {a : Console.Result Unit} (sound : s.board.Sound)
    (run : (Console.publish id d audience).Runs s a s')
    (e : s'.exchanges = s.exchanges ++ said) :
    Course s (.call (.publish id d audience) a) said s' := by
  rcases Console.withConnection_grows sound run with ⟨-, rfl⟩ | ⟨i, m, grown, quiet, -, -, run⟩
  · obtain rfl : said = [] := by simpa using e
    exact .quiet rfl (fun _ _ => False.elim) rfl (.refl _)
  · simp only [Program.bind_eq, runs_bind_iff] at run
    rcases run with ⟨result, last, published, run⟩
    rcases Connection.publish_sends published with ⟨said', e', sends⟩
    have rest : last.console.Quiet False s'.console ∧ s'.exchanges = last.exchanges := by
      cases result with
      | error error =>
          rcases runs_done_iff.1 run with ⟨-, rfl⟩
          exact ⟨.refl _, rfl⟩
      | ok _ =>
          exact ⟨Console.quiet_modifyProfile.runs run .refl .trans,
            Console.silent_modifyProfile.exchanges run⟩
    obtain rfl : said = said' := by
      rw [rest.2, e', grown.exchanges] at e
      exact (List.append_cancel_left e).symm
    exact .publish rfl (fun _ _ => False.elim) rfl quiet sends (rest.1.mono fun no => no trivial)

end Course

/-- Every step comes to one of these. -/
theorem Step.course {s s' : Scene} {label : Label} {said : List Exchange} (sound : s.board.Sound)
    (step : Step s label s') (e : s'.exchanges = s.exchanges ++ said) : Course s label said s' := by
  cases step with
  | @call call _ _ _ run =>
      cases call with
      | connect id token => exact .of_console_connect sound run e
      | publish id d audience => exact .of_console_publish sound run e
      | _ => exact .quiet rfl (fun _ _ => False.elim) rfl (Console.Call.runs_quiet run trivial)
  | @direct i call _ _ _ hi run =>
      cases call with
      | connect p token => exact .of_connect (.refl _) hi run e ⟨rfl, rfl⟩ rfl
      | publish d audience =>
          rcases Connection.publish_sends run with ⟨said', e', sends⟩
          obtain rfl := List.append_cancel_left (e.symm.trans e')
          exact .publish rfl (fun _ _ => False.elim) rfl (.refl _) sends (.refl _)
      | _ =>
          exact .quiet rfl (fun _ _ => False.elim) rfl
            ((Connection.Call.runs_quiet run trivial).mono fun _ => trivial)
  | @event i session event _ _ member alive run =>
      cases owned : (s.console.connection i).owns session with
      | false => exact .stray rfl member owned (Connection.react_runs_of_not_owns owned run)
      | true => exact .react rfl member (Connection.owns_iff.1 owned) run
  | outside outside => exact .outside rfl fun _ => outside.connection

/-! ## What follows -/

namespace Course

variable {s s' : Scene} {label : Label} {said : List Exchange}

/-- Listeners are told what a step makes happen to sessions, and nothing else. -/
theorem airs (course : Course s label said s') (sound : s.board.Sound) (inside : label ≠ .outside) :
    s.console.Airs (s.told (label.occasions s.console said)) s'.console := by
  cases course with
  | quiet _ _ occasions quiet =>
      rw [occasions]
      exact quiet.1
  | connect _ occasions quiet renews =>
      rw [occasions]
      exact renews.airs_told sound quiet
  | publish _ _ occasions quiet sends later =>
      have airs := (sends.airs_told sound quiet).trans later.1
      rwa [occasions, ← List.append_nil (s.told _)]
  | react same _ held run =>
      subst same
      rw [Label.occasions, Connection.owns_iff.2 held, if_pos rfl]
      exact Connection.react_airs sound held run
  | stray same _ foreign still =>
      subst same still
      rw [Label.occasions, foreign]
      exact ⟨rfl, rfl⟩
  | outside same _ => exact absurd same inside

/-- At most one thing happens to sessions in a step. -/
theorem occasions_length_le (course : Course s label said s') :
    (label.occasions s.console said).length ≤ 1 := by
  cases course with
  | quiet _ _ occasions _ => simp [occasions]
  | @connect _ _ m i _ occasions _ renews =>
      rw [occasions, renews.closed]
      cases (m.console.connection i).session <;> simp
  | publish _ _ occasions _ sends _ =>
      rw [occasions]
      cases sends with
      | refused none _ => simp [none]
      | sent _ _ one _ _ => simp [one]
  | @react i session event same _ _ _ | @stray i session event same _ _ _ =>
      subst same
      rw [Label.occasions]
      split
      · cases (s.console.connection i).occasion? session event <;> simp
      · simp
  | outside same _ =>
      subst same
      simp [Label.occasions]

end Course

/-- What happens to a session in a step happens while a connection holds it. -/
theorem Course.held {s s' : Scene} {label : Label} {said : List Exchange} {x : Occasion}
    (course : Course s label said s') (h : x ∈ label.occasions s.console said) :
    ∃ i, (s.console.connection i).session = some x.session := by
  cases course with
  | quiet _ _ occasions _ =>
      rw [occasions] at h
      cases h
  | @connect _ _ m i _ occasions quiet renews =>
      rw [occasions, renews.closed] at h
      rcases List.mem_map.1 h with ⟨session, closed, rfl⟩
      have held : (m.console.connection i).session = some session := Option.mem_toList.1 closed
      exact ⟨i, (quiet.bound held).session.symm.trans held⟩
  | @publish d m last i _ _ occasions quiet sends _ =>
      rw [occasions] at h
      cases sends with
      | refused none _ =>
          rw [none] at h
          cases h
      | sent session held one _ _ =>
          rw [one] at h
          obtain rfl := List.mem_singleton.1 h
          exact ⟨i, (quiet.bound held).session.symm.trans held⟩
  | @react i session event same _ held _ | @stray i session event same _ foreign _ =>
      subst same
      rcases Label.mem_occasions_event h with ⟨held, happened⟩
      rw [Connection.session_of_occasion? happened]
      exact ⟨i, held⟩
  | outside same _ =>
      subst same
      cases h

/-- A session that a connect opens is the one of its connection after it. -/
theorem Course.opened {s s' : Scene} {label : Label} {said : List Exchange} {session : SessionId}
    {p : Profile} {token : Option String} (course : Course s label said s')
    (connecting : label.Connecting s.console p token)
    (opened : session ∈ said.filterMap Exchange.opened?) :
    ∃ i, (s'.console.connection i).session = some session ∧
      (s'.console.connection i).token = token ∧ (s'.console.connection i).profile = p := by
  cases course with
  | quiet _ none _ _ | publish _ none _ _ _ _ =>
      rw [none p token connecting] at opened
      cases opened
  | @connect _ _ _ i connecting' _ _ renews =>
      rcases connecting.unique connecting' with ⟨rfl, rfl⟩
      rcases renews.outcome with ⟨none, -⟩ | ⟨new, only, held, token, profile⟩
      · rw [none] at opened
        cases opened
      · rw [only] at opened
        obtain rfl := List.mem_singleton.1 opened
        exact ⟨i, held, token, profile⟩
  | react same _ _ _ | stray same _ _ _ | outside same _ =>
      subst same
      cases connecting

/-- How a connection comes to hold a session after a step: a connect just opened it, it came up just
now, or nothing of the tie between both has changed. -/
inductive Ties (s : Scene) (label : Label) (said : List Exchange) (i : ConnectionRef)
    (session : SessionId) (after : Connection) : Prop where
  | opened (p : Profile) (token : Option String) : label.Connecting s.console p token →
      session ∈ said.filterMap Exchange.opened? → after.token = token → after.profile = p →
      Ties s label said i session after
  | announced : label = .event i session .connected →
      (s.console.connection i).session = some session → after.token = none →
      after.profile.scope = (s.console.connection i).profile.scope →
      Ties s label said i session after
  | kept : (∀ j, label ≠ .event j session .connected) →
      (s.console.connection i).Bound (¬ label.Configures) after →
      Ties s label said i session after

/-- An event of its session leaves the tie to it, and may take the token of its connect. -/
theorem Connection.react_ties {s s' : Scene} {said : List Exchange} {i j : ConnectionRef}
    {other session : SessionId} {event : TransportEvent} (filed : s.board.Filed)
    (member : (other, j) ∈ s.console.handlers)
    (own : (s.console.connection j).session = some other)
    (run : (Connection.react j other event).Runs s () s')
    (held : (s'.console.connection i).session = some session) :
    Ties s (.event j other event) said i session (s'.console.connection i) := by
  have hj := (Console.board_get?_iff.1 (Scene.get?_of_held own)).1
  by_cases up : event = .connected
  · subst up
    have after (k : ConnectionRef) : s'.console.connection k =
        (announce j s.console).connection k := by
      rw [onConnected_console own run]
      cases (s.console.connection j).profile.role <;> rfl
    rw [after] at held ⊢
    by_cases same : i = j
    · subst same
      rw [connection_announce hj] at held ⊢
      obtain rfl : other = session := Option.some.inj (own.symm.trans held)
      exact .announced rfl own rfl rfl
    · have others : (announce j s.console).connection i = s.console.connection i :=
        Console.connection_update_of_ne same
      rw [others] at held ⊢
      refine .kept ?_ (.refl _)
      -- The events of a session that a connection holds come to this one.
      rintro k h
      cases h
      exact same (filed.owner _ member (Scene.get?_of_held held) held)
  · refine .kept ?_ (((react_binds own up run).bound held).mono fun _ => trivial)
    rintro k h
    cases h
    exact up rfl

/-- Every step ties connections to the sessions that they hold. -/
theorem Course.ties {s s' : Scene} {label : Label} {said : List Exchange} {i : ConnectionRef}
    {session : SessionId} (course : Course s label said s') (filed : s.board.Filed)
    (held : (s'.console.connection i).session = some session) :
    Ties s label said i session (s'.console.connection i) := by
  have called (call : label.isEvent = false) (k : ConnectionRef) :
      label ≠ .event k session .connected := by
    rintro rfl
    cases call
  cases course with
  | quiet call _ _ quiet => exact .kept (called call) (quiet.bound held)
  | @connect p token m j connecting _ quiet renews =>
      by_cases same : i = j
      · subst same
        rcases renews.outcome with ⟨-, none⟩ | ⟨new, opened, taken, token', profile⟩
        · rw [held] at none
          cases none
        · obtain rfl : new = session := Option.some.inj (taken.symm.trans held)
          exact .opened p token connecting (by simp [opened]) token' profile
      · rw [renews.others i same] at held ⊢
        exact .kept (called connecting.isEvent) ((quiet.bound held).mono fun _ => trivial)
  | publish call _ _ quiet sends later =>
      have before := (quiet.2.trans sends.binds).mono fun _ : ¬ label.Configures => trivial
      exact .kept (called call) ((before.trans later.2).bound held)
  | react same member own run =>
      subst same
      exact Connection.react_ties filed member own run held
  | @stray j other event same member foreign still =>
      subst same still
      refine .kept ?_ (.refl _)
      rintro k h
      cases h
      obtain rfl : i = j := filed.owner _ member (Scene.get?_of_held held) held
      rw [Connection.owns_iff.2 held] at foreign
      cases foreign
  | outside same still =>
      subst same
      rw [still]
      exact .kept (fun _ h => by cases h) (.refl _)

end DeviceConsole
