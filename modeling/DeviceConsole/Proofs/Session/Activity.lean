import Mathlib.Data.List.DropRight
import DeviceConsole.Proofs.Session.Aspects
import DeviceConsole.Proofs.Session.Reports

/-!
# What a log is made of

The log of a connection and its unread count are kept from step to step; this file tells them from
what happened.  It defines:

* `Activity`, what may happen to the log of a connection, and `Label.activity?`, which of it a step
  brings about, and for which connection;
* `Activity.log` and `Activity.unread`, the log and the unread count of a history;
* `Console.Records`, the changes of a console that record an activity, and `Step.records`: every
  step does;
* `Console.Shows`, the changes that make the operator look at a connection;
* `history`, what happened to the log of a connection during a run;

and shows that log and count are those of the history, `log_of_history`.
-/

namespace DeviceConsole

open Operation

/-! ## Activities -/

/-- What may happen to the log of a connection. -/
inductive Activity where
  | published (m : Message)
  /-- A message came in while the operator looked at the connection, or elsewhere. -/
  | received (m : Message) (focused : Bool)
  | cleared
  | read
  deriving DecidableEq

namespace Activity

def message? : Activity → Option Message
  | published m => some m
  | received m _ => some m
  | cleared => none
  | read => none

def isClear : Activity → Bool
  | cleared => true
  | _ => false

/-- Whether nothing is unread afterwards, whatever was before. -/
def settles : Activity → Bool
  | published _ => true
  | received _ focused => focused
  | cleared => true
  | read => true

/-- Whether a message came in while the operator looked elsewhere. -/
def isMissed : Activity → Bool
  | received _ focused => !focused
  | _ => false

/-- The newest messages, of which a limit lets so many stay. -/
def newest (limit : Option Nat) (messages : List Message) : List Message :=
  match limit with
  | some n => messages.rtake n
  | none => messages

/-- The log that a history leads to: the newest of the messages since the last clear. -/
def log (limit : Option Nat) (history : List Activity) : List Message :=
  newest limit ((history.rtakeWhile (!·.isClear)).filterMap message?)

/-- The unread count that a history leads to: the messages that came in while the operator looked
elsewhere, since the last time that nothing was unread. -/
def unread (history : List Activity) : Nat :=
  (history.rtakeWhile (!·.settles)).countP isMissed

/-- What an activity makes of a log and an unread count. -/
def record (limit : Option Nat) (tally : List Message × Nat) : Activity → List Message × Nat
  | published m => (newest limit (tally.1 ++ [m]), 0)
  | received m focused => (newest limit (tally.1 ++ [m]), if focused then 0 else tally.2 + 1)
  | cleared => ([], 0)
  | read => (tally.1, 0)

theorem record_of_settles {limit : Option Nat} {tally : List Message × Nat} {a : Activity}
    (h : a.settles = true) : (a.record limit tally).2 = 0 := by
  cases a with
  | published | cleared | read => rfl
  | received m focused => exact if_pos h

/-- Trimming a log before a message comes makes no difference. -/
theorem newest_newest (limit : Option Nat) (messages : List Message) (m : Message) :
    newest limit (newest limit messages ++ [m]) = newest limit (messages ++ [m]) := by
  cases limit with
  | none => rfl
  | some n =>
      cases n with
      | zero => simp [newest]
      | succ n =>
          have again : (messages.rtake (n + 1)).rtake n = messages.rtake n := by
            simp [List.rtake_eq_reverse_take_reverse, List.take_take]
          simp only [newest, List.rtake_concat_succ, again]

/-- Activities recorded one after the other lead to the log and the count of their history. -/
theorem foldl_record (limit : Option Nat) (history : List Activity) :
    history.foldl (record limit) ([], 0) = (log limit history, unread history) := by
  -- By induction on the history, from the last activity.
  induction history using List.reverseRecOn with
  | nil => cases limit <;> simp [log, unread, newest]
  | append_singleton history last ih =>
      rw [List.foldl_concat, ih]
      cases last with
      | published m =>
          simp [record, log, unread, isClear, settles, message?, newest_newest]
      | received m focused =>
          cases focused <;>
            simp [record, log, unread, isClear, settles, isMissed, message?, newest_newest]
      | cleared => cases limit <;> simp [record, log, unread, isClear, settles, newest]
      | read => simp [record, log, unread, isClear, settles, message?, List.filterMap_cons]

end Activity

def Packet.message (packet : Packet) (mode : RenderMode) : Message :=
  ⟨.inbound, packet.topic, Payload.decode packet.payload mode, packet.qos, packet.retain,
    packet.properties⟩

namespace Console

/-- The connection that a call for an id is about: the one in use, or else the next new one. -/
def addressed (c : Console) (id : ConnectionId) : ConnectionRef :=
  (c.current? id).getD c.connections.length

/-- Whether the operator looks at a connection. -/
def looksAt (c : Console) (i : ConnectionRef) : Bool := c.focus = some (c.connection i).id

end Console

/-- What a step does to the log of a connection, by what is said to the transport during it.  The
removal of a profile makes the operator look at the first one that is left. -/
def Label.activity? (before : Console) (said : List Exchange) :
    Label → Option (ConnectionRef × Activity)
  | .direct i (.publish d _) _ =>
    (said.findSome? Exchange.sent?).map fun _ => (i, .published d.message)
  | .direct i .clear _ => some (i, .cleared)
  | .direct i .read _ => some (i, .read)
  | .call (.publish id d _) _ =>
    (said.findSome? Exchange.sent?).map fun _ => (before.addressed id, .published d.message)
  | .call (.clear id) (.ok _) => some (before.addressed id, .cleared)
  | .call (.select id) (.ok _) => some (before.addressed id, .read)
  | .call (.remove id) _ =>
    (before.profile? id).bind fun _ =>
      (Console.removeFirst id before.profiles).head?.map fun first =>
        (before.addressed first.id, .read)
  | .event i session (.message packet) =>
    if (before.connection i).owns session then
      some (i, .received (packet.message (before.connection i).snapshot.renderMode)
        (before.looksAt i))
    else none
  | _ => none

/-- The activity, if it is one of the connection. -/
def Activity.of? (i : ConnectionRef) : ConnectionRef × Activity → Option Activity
  | (j, a) => if j = i then some a else none

theorem Activity.of?_eq_some {i : ConnectionRef} {x : ConnectionRef × Activity} {a : Activity} :
    of? i x = some a ↔ x = (i, a) := by
  rcases x with ⟨j, b⟩
  by_cases same : j = i <;> simp [of?, same]

/-- Whether a change of a console records an activity of one connection, or none. -/
def Console.Records (happened : Option (ConnectionRef × Activity)) (c c' : Console) : Prop :=
  ∀ i, (c'.connection i).tally =
    (happened.bind (Activity.of? i)).elim (c.connection i).tally
      (Activity.record c.settings.logLimit (c.connection i).tally)

namespace Console.Records

variable {kept : Aspect → Prop} {c c' c'' : Console} {i : ConnectionRef} {a : Activity}
  {happened : Option (ConnectionRef × Activity)}

theorem of_retains (h : c.Retains kept c') (logged : kept .log) : c.Records none c' :=
  fun i => h.tally logged i

theorem refl (c : Console) : c.Records none c := fun _ => rfl

theorem of_tells (told : c.Tells c') : c.Records none c' := by
  rcases told with ⟨notices, rfl⟩
  exact .refl c

theorem after_retains (first : c.Retains kept c') (logged : kept .log)
    (second : c'.Records happened c'') : c.Records happened c'' := by
  intro i
  rw [second i, first.tally logged i, first.settings]

theorem retains (first : c.Records happened c') (second : c'.Retains kept c'')
    (logged : kept .log) : c.Records happened c'' := by
  intro i
  rw [second.tally logged i, first i]

theorem of_own (own : (c'.connection i).tally =
      a.record c.settings.logLimit (c.connection i).tally)
    (others : ∀ j, j ≠ i → c'.connection j = c.connection j) : c.Records (some (i, a)) c' := by
  intro j
  by_cases same : j = i
  · subst same
    simp [Activity.of?, own]
  · have differs : ¬ i = j := fun e => same e.symm
    simp [Activity.of?, differs, others j same]

theorem present {change : Snapshot → Snapshot} (hi : i < c.connections.length)
    (changed : ((c.connection i).present change).tally =
      a.record c.settings.logLimit (c.connection i).tally) :
    c.Records (some (i, a)) (c.present i change) :=
  of_own (by rw [Console.present, connection_update_self hi, changed])
    fun _ differs => connection_update_of_ne differs

end Console.Records

/-! ## What records an activity -/

namespace Connection

variable {c c' : Console} {i : ConnectionRef}

theorem records_clear (hi : i < c.connections.length) :
    c.Records (some (i, .cleared)) (clear i c) := .present hi rfl

theorem records_read (hi : i < c.connections.length) :
    c.Records (some (i, .read)) (read i c) := .present hi rfl

theorem Sent.records {d : Draft} (h : Sent i d c c') :
    c.Records (some (i, .published d.message)) c' := by
  refine .of_own ?_ h.others
  rcases h.connection with ⟨messages, suffix, length, own⟩
  have trimmed : messages = Activity.newest c.settings.logLimit
      ((c.connection i).snapshot.messages ++ [d.message]) := by
    rw [List.suffix_iff_eq_drop.1 suffix, length]
    cases c.settings.logLimit with
    | none => simp [kept, Activity.newest]
    | some n =>
        simp only [kept, Activity.newest, List.rtake, Option.getD_some, List.length_append,
          List.length_singleton]
        congr 1
        omega
  rw [own, trimmed]
  rfl

/-- A message that came in is unread unless the operator looks at the connection. -/
theorem tally_log_inbound {limit : Option Nat} {focused : Bool} {m : Message} (x : Connection)
    (inbound : m.direction = .inbound) :
    (x.present (Snapshot.log limit focused m)).tally =
      (Activity.received m focused).record limit x.tally := by
  have messages : (x.snapshot.log limit focused m).messages =
      Activity.newest limit (x.snapshot.messages ++ [m]) := by
    cases limit <;> rfl
  have unread : (x.snapshot.log limit focused m).unread =
      if focused then 0 else x.snapshot.unread + 1 := by
    simp [Snapshot.log, inbound]
  exact Prod.ext messages unread

theorem records_onMessage_of_held {session : SessionId} {packet : Packet}
    (held : (c.connection i).session = some session) :
    c.Records (some (i, .received
      (packet.message (c.connection i).snapshot.renderMode) (c.looksAt i)))
      (onMessage i session packet c) := by
  have hi : i < c.connections.length := by
    refine Console.lt_of_ne_default fun unknown => ?_
    rw [unknown] at held
    cases held
  let mode := (c.connection i).snapshot.renderMode
  let told := c.notifyAll (Payload.receiveWarnings packet.payload mode)
  have logged : told.Records (some (i, .received (packet.message mode) (c.looksAt i)))
      (logMessage i (packet.message mode) told) := .present hi (tally_log_inbound _ rfl)
  have whole : onMessage i session packet c =
      (logMessage i (packet.message mode) told).raiseFor i (.messageIn packet.topic) := by
    rw [onMessage, if_pos (owns_iff.2 held)]
    rfl
  rw [whole]
  exact logged

/-- A message of another session is ignored. -/
theorem records_onMessage {session : SessionId} {packet : Packet} :
    c.Records
      (if (c.connection i).owns session then
        some (i, .received (packet.message (c.connection i).snapshot.renderMode) (c.looksAt i))
      else none) (onMessage i session packet c) := by
  by_cases owned : (c.connection i).owns session = true
  · rw [if_pos owned]
    exact records_onMessage_of_held (owns_iff.1 owned)
  · rw [if_neg owned, onMessage, if_neg owned]
    exact .refl c

/-- A publish records its message if the transport took it. -/
theorem Published.records {d : Draft} {s s' : Scene} {a : Except ConsoleError Unit}
    (h : Published i d s s' a) :
    s.console.Records
      (((s'.exchanges.drop s.exchanges.length).findSome? Exchange.sent?).map fun _ =>
        (i, .published d.message)) s'.console := by
  cases h with
  | refused error obstacle said told =>
      rw [said, List.drop_length]
      exact .of_tells told
  | failed session payload error passes said told =>
      rw [said, List.drop_left]
      exact .of_tells told
  | sent session payload passes said sent =>
      rw [said, List.drop_left]
      exact sent.records

end Connection

/-! ## Calls of the console -/

namespace Console

variable {id : ConnectionId} {i : ConnectionRef} {s s' : Scene}

/-- A call finds the connection that it is about. -/
theorem Finds.eq_addressed (finds : Finds s id i s') : i = s.console.addressed id := by
  cases used : s.console.current? id with
  | none =>
      rw [addressed, used]
      exact finds.fresh used
  | some j =>
      have same := finds.others id
      rw [finds.used, used] at same
      rw [addressed, used]
      exact Option.some.inj same

theorem Finds.lt (finds : Finds s id i s') (sound : s.board.Sound) :
    i < s'.console.connections.length := by
  rcases finds.get? sound with ⟨v, hv, -⟩
  exact (board_get?_iff.1 hv).1

/-- Whether a change makes the operator look at the connection for an id: it is found, the focus
moves, and its messages are taken as read. -/
def Shows (id : ConnectionId) (c c' : Console) : Prop :=
  ∃ middle : Console, (∀ kept, c.Retains kept middle) ∧
    middle.current? id = some (c.addressed id) ∧
    c.addressed id < middle.connections.length ∧
    c' = Connection.read (c.addressed id) (middle.setFocus (some id))

theorem Shows.records {c c' : Console} (h : c.Shows id c') :
    c.Records (some (c.addressed id, .read)) c' := by
  rcases h with ⟨middle, retains, -, hi, rfl⟩
  exact .after_retains (retains fun _ => True) trivial
    (Connection.records_read (c := middle.setFocus _) hi)

theorem select_shows {a : Result Unit} (sound : s.board.Sound) (h : (select id).Runs s a s') :
    (a = .error (.connectionNotFound id) ∧ s.console.profile? id = none ∧ s' = s) ∨
      (a = .ok () ∧ s.console.Shows id s'.console) := by
  rcases withConnection_retains h with
    ⟨rfl, unknown, -, rfl⟩ | ⟨i, middle, finds, retains, -, h⟩
  · exact Or.inl ⟨rfl, unknown, rfl⟩
  · rcases runs_change_done_iff.1 h with ⟨rfl, rfl⟩
    have hi := finds.lt sound
    have used := finds.used
    obtain rfl := finds.eq_addressed
    exact Or.inr ⟨rfl, middle.console, retains, used, hi, rfl⟩

/-- A removal of a profile makes the operator look at the first one that is left, or at none; then
the connection is destroyed. -/
theorem removeProfile_shows {a : Result Unit} (sound : s.board.Sound)
    (h : (removeProfile id).Runs s a s') :
    (s.console.profile? id = none ∧ s' = s) ∨
    (s.console.profile? id ≠ none ∧ ∃ chosen : Console,
      (∀ kept, chosen.Retains kept s'.console) ∧
      match (removeFirst id s.console.profiles).head?.map (·.id) with
      | none => ∃ dropped : Console, (∀ kept, s.console.Retains kept dropped) ∧
          chosen = dropped.setFocus none
      | some first => s.console.Shows first chosen) := by
  rcases removeProfile_cases h with
    ⟨-, unknown, rfl⟩ | ⟨known, dropped, focused, found, drop, moved, destroyed, -⟩
  · exact Or.inl ⟨unknown, rfl⟩
  · have retains (kept : Aspect → Prop) : s.console.Retains kept dropped.console := by
      rw [drop]
      exact .refl _
    refine Or.inr ⟨known, focused.console, ?_, ?_⟩
    · exact fun kept => retains_destroy.runs destroyed .refl .trans
    · cases first : (removeFirst id s.console.profiles).head?.map (·.id) with
      | none =>
          rw [first] at moved
          have shown : focused = dropped.apply (·.setFocus none) := moved
          rw [shown]
          exact ⟨dropped.console, retains, rfl⟩
      | some first' =>
          rw [first] at moved
          have same : dropped.board = s.board := by
            rw [drop]
            rfl
          rcases select_shows (same ▸ sound) moved with
            ⟨refused, -, -⟩ | ⟨-, middle, found, used, hi, shown⟩
          · cases refused
          · -- Where connections are found does not depend on the profiles.
            have unmoved : dropped.console.addressed first' = s.console.addressed first' := by
              rw [drop]
              rfl
            rw [unmoved] at used hi shown
            exact ⟨middle, fun kept => (retains kept).trans (found kept), used, hi, shown⟩

theorem clear_records {a : Result Unit} (sound : s.board.Sound) (h : (clear id).Runs s a s') :
    (a = .error (.connectionNotFound id) ∧ s' = s) ∨
      (a = .ok () ∧ s.console.Records (some (s.console.addressed id, .cleared)) s'.console) := by
  rcases withConnection_retains h with ⟨rfl, -, -, rfl⟩ | ⟨i, middle, finds, retains, -, h⟩
  · exact Or.inl ⟨rfl, rfl⟩
  · rcases runs_change_done_iff.1 h with ⟨rfl, rfl⟩
    have hi := finds.lt sound
    obtain rfl := finds.eq_addressed
    exact Or.inr ⟨rfl, .after_retains (retains fun _ => True) trivial
      (Connection.records_clear hi)⟩

theorem removeProfile_records {a : Result Unit} (sound : s.board.Sound)
    (h : (removeProfile id).Runs s a s') :
    s.console.Records ((s.console.profile? id).bind fun _ =>
      (removeFirst id s.console.profiles).head?.map fun first =>
        (s.console.addressed first.id, .read)) s'.console := by
  rcases removeProfile_shows sound h with ⟨unknown, rfl⟩ | ⟨known, chosen, retains, shown⟩
  · rw [unknown]
    exact .refl _
  · rcases Option.ne_none_iff_exists'.1 known with ⟨p, found⟩
    rw [found]
    refine .retains ?_ (retains fun _ => True) trivial
    cases first : (removeFirst id s.console.profiles).head? with
    | none =>
        rw [first] at shown
        rcases shown with ⟨dropped, kept, rfl⟩
        have still : s.console.Records none dropped := .of_retains (kept fun _ => True) trivial
        exact still
    | some first' =>
        rw [first] at shown
        exact shown.records

/-- A message that was published is in the log before its options become defaults of the profile. -/
theorem publish_records {d : Connection.Draft} {audience : Audience} {a : Result Unit}
    (h : (publish id d audience).Runs s a s') :
    s.console.Records
      (((s'.exchanges.drop s.exchanges.length).findSome? Exchange.sent?).map fun _ =>
        (s.console.addressed id, .published d.message)) s'.console := by
  rcases withConnection_retains h with
    ⟨-, -, -, rfl⟩ | ⟨i, middle, finds, retains, silent, h⟩
  · simpa using .refl _
  · obtain rfl := finds.eq_addressed
    simp only [Program.bind_eq, runs_bind_iff] at h
    rcases h with ⟨result, sent, published, h⟩
    have recorded := (Connection.publish_published published).records
    have same : s'.exchanges = sent.exchanges ∧
        sent.console.Retains (fun _ => True) s'.console := by
      cases result with
      | error error =>
          rcases runs_done_iff.1 h with ⟨-, rfl⟩
          exact ⟨rfl, .refl _⟩
      | ok _ =>
          exact ⟨silent_modifyProfile.exchanges h, retains_modifyProfile.runs h .refl .trans⟩
    rw [same.1, ← silent]
    exact .after_retains (retains fun _ => True) trivial (recorded.retains same.2 trivial)

end Console

/-! ## Steps -/

/-- A step that leaves the logs alone brings about no activity. -/
theorem Label.activity?_eq_none {label : Label} {before : Console} {said : List Exchange}
    (untouched : ¬ label.Touches .log) : label.activity? before said = none := by
  cases label with
  | call call result =>
      cases call with
      | publish | clear | select | remove => exact absurd trivial untouched
      | _ => rfl
  | direct i call result =>
      cases call with
      | publish | clear | read => exact absurd trivial untouched
      | _ => rfl
  | event i session event =>
      cases event with
      | message => exact absurd trivial untouched
      | _ => rfl
  | outside => rfl

/-- Every step records what it brings about. -/
theorem Step.records {s s' : Scene} {label : Label} (sound : s.board.Sound)
    (step : Step s label s') :
    s.console.Records (label.activity? s.console (s'.exchanges.drop s.exchanges.length))
      s'.console := by
  by_cases touches : label.Touches .log
  · cases step with
    | @direct i call _ _ _ hi run =>
        cases call with
        | publish d audience => exact (Connection.publish_published run).records
        | clear =>
            obtain rfl := runs_change_iff.1 run
            exact Connection.records_clear hi
        | read =>
            obtain rfl := runs_change_iff.1 run
            exact Connection.records_read hi
        | _ => cases touches
    | @call call _ _ _ run =>
        cases call with
        | publish id d audience => exact Console.publish_records run
        | clear id =>
            rcases Console.clear_records sound run with ⟨rfl, rfl⟩ | ⟨rfl, records⟩
            · exact .refl _
            · exact records
        | select id =>
            rcases Console.select_shows sound run with ⟨rfl, -, rfl⟩ | ⟨rfl, shows⟩
            · exact .refl _
            · exact shows.records
        | remove id => exact Console.removeProfile_records sound run
        | _ => cases touches
    | @event i session event _ _ _ _ run =>
        cases event with
        | message packet =>
            obtain rfl := runs_change_iff.1 run
            exact Connection.records_onMessage
        | _ => cases touches
    | outside => cases touches
  · rw [Label.activity?_eq_none touches]
    exact .of_retains step.retains touches

/-! ## Runs -/

/-- What a step does to the log of a connection. -/
def Transition.activity? (i : ConnectionRef) (t : Transition) : Option Activity :=
  (t.label.activity? t.before.console t.said).bind (Activity.of? i)

def history (i : ConnectionRef) (transitions : List Transition) : List Activity :=
  transitions.filterMap (·.activity? i)

variable {settings : Settings} {catalog : Catalog} {storage : ProfileStorage}
  {fresh : Nat → ConnectionId} {clock : Int} {transitions : List Transition} {s : Scene}

/-- Along a run, the activities of a connection are recorded one after the other. -/
theorem Run.tally (run : Run (.start settings catalog storage fresh clock) transitions s)
    (i : ConnectionRef) :
    s.console.settings = settings ∧ (s.console.connection i).tally =
      (history i transitions).foldl (Activity.record settings.logLimit) ([], 0) := by
  induction run with
  | start =>
      rcases Scene.retains_start settings catalog storage fresh clock with
        ⟨empty, same, none, -, retains⟩
      have retained := retains fun _ => True
      have blank : empty.connection i = default := Console.connection_of_le (by simp [none])
      refine ⟨retained.settings.trans same, ?_⟩
      rw [retained.tally trivial, blank]
      rfl
  | @step transitions s s' label previous step ih =>
      rcases ih with ⟨same, ih⟩
      let t : Transition := ⟨s, label, s'⟩
      have recorded : (s'.console.connection i).tally =
          (t.activity? i).elim (s.console.connection i).tally
            (Activity.record s.console.settings.logLimit (s.console.connection i).tally) :=
        step.records previous.sound i
      have longer : history i (transitions ++ [t]) =
          history i transitions ++ (t.activity? i).toList := by
        rw [history, List.filterMap_append]
        cases happened : t.activity? i <;> simp [history, happened]
      refine ⟨step.retains.settings.trans same, ?_⟩
      rw [recorded, longer, List.foldl_append, ← ih, same]
      cases t.activity? i <;> rfl

/-- The log of a connection is made of the messages that were published or came in since it was
cleared, of which the newest stay; and what is unread are the messages that came in while the
operator looked elsewhere, since the last activity that settles the count. -/
theorem log_of_history (run : Run (.start settings catalog storage fresh clock) transitions s)
    (i : ConnectionRef) :
    (s.console.connection i).snapshot.messages =
        Activity.log settings.logLimit (history i transitions) ∧
      (s.console.connection i).snapshot.unread = Activity.unread (history i transitions) := by
  have recorded := (run.tally i).2
  rw [Activity.foldl_record] at recorded
  exact ⟨congrArg Prod.fst recorded, congrArg Prod.snd recorded⟩

/-- All messages that came in while the operator looked elsewhere are unread, although the first of
them is not in the log any more. -/
theorem log_of_history_of_two :
    ∃ (transitions : List Transition) (s : Scene),
      Run (.start ⟨true, 1, some 2, none⟩ default default (fun _ => default) 0) transitions s ∧
      ((s.console.connection 0).snapshot.messages =
          Activity.log (some 2) (history 0 transitions) ∧
        (s.console.connection 0).snapshot.unread = Activity.unread (history 0 transitions)) ∧
      (s.console.connection 0).snapshot.messages.map (·.payload) = ["b", "c"] ∧
      (s.console.connection 0).snapshot.unread = 3 := by
  let message (letter : UInt8) : TransportEvent :=
    .message ⟨"t", [letter], .atMostOnce, false, none⟩
  let start : Scene := .start ⟨true, 1, some 2, none⟩ default default (fun _ => default) 0
  let actions : List Action :=
    [.call (.getOrCreate ⟨0⟩ (some (.default ⟨0⟩))), .call (.getOrCreate ⟨1⟩ (some (.default ⟨1⟩))),
      .call (.select ⟨0⟩), .direct 0 (.connect (.default ⟨0⟩) none), .event 0 0 .connected,
      .event 0 0 (message 120), .call (.select ⟨1⟩), .event 0 0 (message 97),
      .event 0 0 (message 98), .event 0 0 (message 99)]
  have run : Run start _ (start.play .obliging actions).2 :=
    Run.play Responder.fair_obliging .start (by decide : start.Playable .obliging actions)
  exact ⟨_, _, run, log_of_history run 0, by decide, by decide⟩

end DeviceConsole
