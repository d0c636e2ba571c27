import DeviceConsole.Proofs.Session.Requests

/-!
# What a publish comes to

A draft is checked before anything is sent; the first obstacle decides.  This file defines:

* `Connection.Draft.obstacle?`, the first thing that stands against sending a draft;
* `Connection.Sent`, what a message that was sent leaves: an entry in the log, the defaults of the
  profile and one event;
* `Connection.Published`, what a publish comes to, with what it says to the transport, and
  `Connection.publish_published`, that it comes to nothing else;
* `Request.Sendable`, the messages that ever reach a transport.
-/

namespace DeviceConsole

open Operation

/-- Whether the operator is told something, and nothing else changes. -/
def Console.Tells (c c' : Console) : Prop := ∃ notices, c' = c.notifyAll notices

theorem Console.Tells.trans {c c' c'' : Console} (first : c.Tells c') (second : c'.Tells c'') :
    c.Tells c'' := by
  rcases first with ⟨notices, rfl⟩
  rcases second with ⟨more, rfl⟩
  exact ⟨notices ++ more, by simp [Console.notifyAll]⟩

theorem Console.tells_report {c : Console} (audience : Audience) (text : String) :
    c.Tells (c.report audience text) := by
  cases audience with
  | operator => exact ⟨[⟨.fail, text⟩], rfl⟩
  | caller => exact ⟨[], by simp [Console.report, Console.notifyAll]⟩

/-! ## Obstacles -/

theorem Topic.containsWildcard_iff {topic : String} :
    containsWildcard topic = true ↔ '+' ∈ topic.toList ∨ '#' ∈ topic.toList := by
  simp only [containsWildcard, List.any_eq_true, Bool.or_eq_true, decide_eq_true_eq]
  constructor
  · rintro ⟨c, member, rfl | rfl⟩
    · exact Or.inl member
    · exact Or.inr member
  · rintro (member | member)
    · exact ⟨'+', member, Or.inl rfl⟩
    · exact ⟨'#', member, Or.inr rfl⟩

/-- No alias is lost with the properties that say nothing. -/
theorem PublishOptions.topicAlias_stripped (o : PublishOptions) :
    o.stripped.topicAlias = o.topicAlias := by
  cases properties : o.properties with
  | none => simp [stripped, topicAlias, properties]
  | some p =>
      simp only [stripped, topicAlias, properties, Option.bind_some, PublishProperties.stripped?]
      split
      · next bare => exact (congrArg PublishProperties.topicAlias bare).symm
      · rfl

namespace Connection

namespace Draft

def message (d : Draft) : Message :=
  ⟨.outbound, d.topic, d.payload, d.options.qos, d.options.retain, d.options.stripped.properties⟩

/-- What may stand against sending a draft over a connection, in the order in which it counts; and
whether it does. -/
def obstacles (d : Draft) (x : Connection) : List (Bool × ConsoleError) :=
  [(x.destroyed, .destroyed),
    ('+' ∈ d.topic.toList ∨ '#' ∈ d.topic.toList, .precondition (.wildcardTopic d.topic)),
    (d.topic = "" ∧ d.options.topicAlias = none, .precondition .topicRequired),
    (x.snapshot.status ≠ .connected ∨ x.session = none, .precondition .notConnected)] ++
  match Payload.encode d.payload d.mode with
  | .error error => [(true, .codec error)]
  | .ok _ => []

def obstacle? (d : Draft) (x : Connection) : Option ConsoleError :=
  ((d.obstacles x).find? (·.1)).map (·.2)

/-- Whether nothing stands against sending a draft, as this payload over this session. -/
structure Passes (d : Draft) (x : Connection) (session : SessionId) (payload : Bytes) : Prop where
  unobstructed : d.obstacle? x = none
  status : x.snapshot.status = .connected
  session : x.session = some session
  payload : Payload.encode d.payload d.mode = .ok payload

end Draft

variable {i : ConnectionRef} {d : Draft} {audience : Audience} {c c' : Console}

theorem openSession?_eq_some {x : Connection} {session : SessionId} :
    x.openSession? = some session ↔ x.snapshot.status = .connected ∧ x.session = some session := by
  simp [openSession?, ConnectionStatus.isConnected]

theorem openSession?_eq_none {x : Connection} :
    x.openSession? = none ↔ x.snapshot.status ≠ .connected ∨ x.session = none := by
  by_cases up : x.snapshot.status = .connected
  · simp [openSession?, ConnectionStatus.isConnected, up]
  · simp [openSession?, ConnectionStatus.isConnected, up]

/-- The checks find the first obstacle, and let everything else pass. -/
theorem beginPublish_checks (i : ConnectionRef) (d : Draft) (audience : Audience) (c : Console) :
    c.Tells (beginPublish i d audience c).2 ∧
      ((∃ error, d.obstacle? (c.connection i) = some error ∧
          (beginPublish i d audience c).1 = .error error) ∨
        ∃ session payload, d.Passes (c.connection i) session payload ∧
          (beginPublish i d audience c).1 = .ok (session, payload)) := by
  have still : c.Tells c := ⟨[], by simp [Console.notifyAll]⟩
  -- One case for each check, in the order in which they are made.
  by_cases gone : (c.connection i).destroyed = true
  · have begun : beginPublish i d audience c = (.error .destroyed, c) := by
      simp [beginPublish, gone]
    rw [begun]
    exact ⟨still, Or.inl ⟨_, by simp [Draft.obstacle?, Draft.obstacles, gone], rfl⟩⟩
  by_cases wild : '+' ∈ d.topic.toList ∨ '#' ∈ d.topic.toList
  · have begun : beginPublish i d audience c = c.refuse (.wildcardTopic d.topic) := by
      simp [beginPublish, gone, Topic.containsWildcard_iff.2 wild]
    rw [begun]
    refine ⟨⟨[_], rfl⟩, Or.inl ⟨_, ?_, rfl⟩⟩
    simp [Draft.obstacle?, Draft.obstacles, gone, wild]
  have tame : Topic.containsWildcard d.topic = false :=
    Bool.eq_false_iff.2 fun contains => wild (Topic.containsWildcard_iff.1 contains)
  by_cases missing : d.topic = "" ∧ d.options.topicAlias = none
  · have begun : beginPublish i d audience c = c.refuse .topicRequired := by
      simp only [beginPublish, gone, tame, PublishOptions.topicAlias_stripped, if_pos missing,
        Bool.false_eq_true, if_false]
    rw [begun]
    refine ⟨⟨[_], rfl⟩, Or.inl ⟨_, ?_, rfl⟩⟩
    simp [Draft.obstacle?, Draft.obstacles, gone, missing]
  cases held : (c.connection i).openSession? with
  | none =>
      have begun : beginPublish i d audience c = c.refuse .notConnected := by
        simp only [beginPublish, gone, tame, PublishOptions.topicAlias_stripped, if_neg missing,
          held, Bool.false_eq_true, if_false]
      have down := openSession?_eq_none.1 held
      rw [begun]
      refine ⟨⟨[_], rfl⟩, Or.inl ⟨_, ?_, rfl⟩⟩
      simp [Draft.obstacle?, Draft.obstacles, gone, wild, missing, down]
  | some session =>
      rcases openSession?_eq_some.1 held with ⟨status, holds⟩
      cases encoded : Payload.encode d.payload d.mode with
      | error error =>
          have begun : beginPublish i d audience c = (.error (.codec error),
              (c.notifyAll (Payload.publishWarnings d.payload d.mode)).report audience
                error.message) := by
            simp only [beginPublish, gone, tame, PublishOptions.topicAlias_stripped, if_neg missing,
              held, encoded, Bool.false_eq_true, if_false]
          have told : c.Tells (c.notifyAll (Payload.publishWarnings d.payload d.mode)) := ⟨_, rfl⟩
          rw [begun]
          refine ⟨told.trans (Console.tells_report _ _), Or.inl ⟨_, ?_, rfl⟩⟩
          simp [Draft.obstacle?, Draft.obstacles, gone, wild, missing, status, holds, encoded]
      | ok payload =>
          have begun : beginPublish i d audience c = (.ok (session, payload),
              c.notifyAll (Payload.publishWarnings d.payload d.mode)) := by
            simp only [beginPublish, gone, tame, PublishOptions.topicAlias_stripped, if_neg missing,
              held, encoded, Bool.false_eq_true, if_false]
          rw [begun]
          refine ⟨⟨_, rfl⟩, Or.inr ⟨session, payload, ⟨?_, status, holds, encoded⟩, rfl⟩⟩
          simp [Draft.obstacle?, Draft.obstacles, gone, wild, missing, status, holds, encoded]

/-! ## What a message leaves -/

/-- How many of this many messages a log keeps. -/
def kept (limit : Option Nat) (count : Nat) : Nat := min (limit.getD count) count

/-- What a message leaves that was sent: it joins the log, of which the newest messages stay;
nothing is unread, its options are the defaults of the profile, and one event is raised. -/
structure Sent (i : ConnectionRef) (d : Draft) (c c' : Console) : Prop where
  connection : ∃ messages,
    messages <:+ (c.connection i).snapshot.messages ++ [d.message] ∧
      messages.length = kept c.settings.logLimit ((c.connection i).snapshot.messages.length + 1) ∧
      c'.connection i = { c.connection i with
        profile.publishDefaults := ⟨d.options.qos, d.options.retain⟩ }.present fun s =>
          { s with messages := messages, unread := 0 }
  others : ∀ j, j ≠ i → c'.connection j = c.connection j
  event : c'.bus = c.bus.publish
    ⟨(c.connection i).profile.scope, (c.connection i).id, c.clock, .messageOut d.topic⟩
  rest : ∃ notices, c' = { c.notifyAll notices with connections := c'.connections, bus := c'.bus }

theorem log_outbound (limit : Option Nat) (focused : Bool) {m : Message} (s : Snapshot)
    (outbound : m.direction = .outbound) :
    ∃ messages, messages <:+ s.messages ++ [m] ∧
      messages.length = kept limit (s.messages.length + 1) ∧
      s.log limit focused m = { s with messages := messages, unread := 0 } := by
  have logged : s.log limit focused m =
      { s with messages := (s.log limit focused m).messages, unread := 0 } := by
    simp [Snapshot.log, outbound]
  refine ⟨_, ?_, ?_, logged⟩
  · cases limit with
    | none => exact List.suffix_refl _
    | some n => exact List.drop_suffix _ _
  · cases limit with
    | none => simp [Snapshot.log, kept]
    | some n =>
        simp [Snapshot.log, kept]
        omega

theorem finishPublish_sent (hi : i < c.connections.length) : Sent i d c (finishPublish i d c) := by
  let edited := c.update i fun connection =>
    { connection with
      profile.publishDefaults := ⟨d.options.stripped.qos, d.options.stripped.retain⟩ }
  have inside : i < edited.connections.length := by
    simpa [edited, Console.update] using hi
  have own : edited.connection i = { c.connection i with
      profile.publishDefaults := ⟨d.options.qos, d.options.retain⟩ } :=
    Console.connection_update_self hi
  have logged : (logMessage i d.message edited).connection i = (edited.connection i).present
      (Snapshot.log c.settings.logLimit (c.focus = some (edited.connection i).id) d.message) :=
    Console.connection_update_self inside
  rw [own] at logged
  constructor
  case connection =>
    rcases log_outbound c.settings.logLimit (c.focus = some (c.connection i).id)
      (c.connection i).snapshot (m := d.message) rfl with ⟨messages, suffix, count, same⟩
    refine ⟨messages, suffix, count, logged.trans ?_⟩
    simp only [Connection.present, same]
  case others => exact fun j differs => calm_finishPublish.others differs
  case event =>
    have told : (finishPublish i d c).bus = c.bus.publish
        ⟨((logMessage i d.message edited).connection i).profile.scope,
          ((logMessage i d.message edited).connection i).id, c.clock, .messageOut d.topic⟩ := rfl
    rw [told, logged]
    rfl
  case rest =>
    refine ⟨[], ?_⟩
    have none : c.notifyAll [] = c := by simp [Console.notifyAll]
    rw [none]
    rfl

theorem Sent.of_tells (told : c.Tells c') {c'' : Console} (sent : Sent i d c' c'') :
    Sent i d c c'' := by
  rcases told with ⟨notices, rfl⟩
  rcases sent.rest with ⟨more, rest⟩
  refine ⟨sent.connection, sent.others, sent.event, notices ++ more, rest.trans ?_⟩
  simp [Console.notifyAll]

/-- What a publish comes to, with what it says to the transport. -/
inductive Published (i : ConnectionRef) (d : Draft) (s : Scene) (s' : Scene) :
    Except ConsoleError Unit → Prop where
  /-- Something stands against it, and nothing is said. -/
  | refused (error : ConsoleError) : d.obstacle? (s.console.connection i) = some error →
      s'.exchanges = s.exchanges → s.console.Tells s'.console → Published i d s s' (.error error)
  | failed (session : SessionId) (payload : Bytes) (error : TransportError) :
      d.Passes (s.console.connection i) session payload →
      s'.exchanges = s.exchanges ++
        [⟨.publish session d.topic payload d.options.stripped, .error error⟩] →
      s.console.Tells s'.console → Published i d s s' (.error (.transport error))
  | sent (session : SessionId) (payload : Bytes) :
      d.Passes (s.console.connection i) session payload →
      s'.exchanges = s.exchanges ++
        [⟨.publish session d.topic payload d.options.stripped, .ok ()⟩] →
      Sent i d s.console s'.console → Published i d s s' (.ok ())

theorem Draft.Passes.lt {session : SessionId} {payload : Bytes}
    (h : d.Passes (c.connection i) session payload) : i < c.connections.length := by
  refine Console.lt_of_ne_default ?_
  intro new
  have held := h.session
  rw [new] at held
  cases held

theorem publish_published {s s' : Scene} {a : Except ConsoleError Unit}
    (h : (publish i d audience).Runs s a s') : Published i d s s' a := by
  simp only [publish, Program.bind_eq, runs_bind_iff, runs_atomically_iff] at h
  rcases h with ⟨found, middle, ⟨begun, rfl⟩, h⟩
  rcases beginPublish_checks i d audience s.console with
    ⟨told, ⟨error, obstacle, first⟩ | ⟨session, payload, passes, first⟩⟩
  · rw [first] at begun
    subst begun
    rcases runs_done_iff.1 h with ⟨rfl, rfl⟩
    exact .refused error obstacle rfl told
  · rw [first] at begun
    subst begun
    simp only [runs_bind_iff, runs_ask_iff] at h
    rcases h with ⟨reply, _, ⟨-, rfl⟩, h⟩
    cases reply with
    | error error =>
        rcases runs_change_done_iff.1 h with ⟨rfl, rfl⟩
        exact .failed session payload error passes rfl (told.trans (Console.tells_report _ _))
    | ok _ =>
        rcases runs_change_done_iff.1 h with ⟨rfl, rfl⟩
        have inside : i < (beginPublish i d audience s.console).2.connections.length := by
          rcases told with ⟨notices, same⟩
          rw [same]
          exact passes.lt
        exact .sent session payload passes rfl (.of_tells told (finishPublish_sent inside))

end Connection

/-! ## What reaches a transport -/

end DeviceConsole
