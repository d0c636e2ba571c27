import DeviceConsole.Proofs.Coherence.Calls
import DeviceConsole.Proofs.Session.Aspects
import DeviceConsole.Proofs.Session.Renewal
import DeviceConsole.Proofs.Session.Retries
import DeviceConsole.Proofs.Storage.Ledger

/-!
# Filters after a session came back

A session that was lost and came back has no subscriptions at the broker any more; its connection
asks for them again if the console is set up so.  This file defines:

* `Scene.Agreed`, an invariant of runs: connections with a session restore filters as the settings
  say;
* `Profile.Declares`, the options that a profile declares for a filter;
* `Connection.Restores`, whether a request names exactly the active filters with these options;
* `Scene.Restored`, what a session that came back finds;

and shows that a session which comes back in time finds everything, `reconnect_restores`.
-/

namespace DeviceConsole

open Operation

/-! ## The terms of a session -/

/-- Whether each connection that holds a session restores its filters as the settings say. -/
def Scene.Agreed (s : Scene) : Prop :=
  ∀ i, (s.console.connection i).session ≠ none →
    (s.console.connection i).resubscribe = s.console.settings.autoResubscribe

namespace Connection

variable {i : ConnectionRef} {s s' : Scene} {p : Profile} {token : Option String}

/-- Once the terms of a session are settled, opening it does not change them. -/
theorem takeOver_resubscribe {options : ClientOptions} :
    (takeOver i options).Every (Console.Alters i fun x y => y.resubscribe = x.resubscribe) := by
  refine every_takeOver (fun _ c => ?_) fun session c => ?_
  · exact .update (c := c) (fun _ => rfl) rfl
  · unfold adopt
    split
    · change c.Alters i (fun x y => y.resubscribe = x.resubscribe) c
      refine .refl ?_ c
      exact fun _ => rfl
    · exact .update (c := c) (fun _ => rfl) rfl

/-- A session is opened on the terms of the settings. -/
theorem openSession_resubscribe {a : Except ConsoleError Bool}
    (hi : i < s.console.connections.length) (h : (openSession i p token).Runs s a s') :
    (s'.console.connection i).resubscribe = s.console.settings.autoResubscribe := by
  simp only [openSession_eq, runs_bind_iff, runs_atomically_iff] at h
  rcases h with ⟨_, middle, ⟨rfl, prepared⟩, h⟩
  have own : (middle.console.connection i).resubscribe = s.console.settings.autoResubscribe := by
    rw [prepared]
    exact congrArg Connection.resubscribe (Console.connection_update_self hi)
  have later : middle.console.Alters i (fun x y => y.resubscribe = x.resubscribe) s'.console :=
    takeOver_resubscribe.runs h (.refl fun _ => rfl)
      (.trans fun first second => second.trans first)
  exact later.own.trans own

/-- A session that could not be closed is there again, with the terms that it had. -/
theorem resubscribe_restoreSession {session : SessionId} {c : Console}
    (hi : i < c.connections.length) :
    ((restoreSession i session (takeSession i c)).connection i).resubscribe =
      (c.connection i).resubscribe := by
  have inside : i < (takeSession i c).connections.length := by
    rw [length_takeSession]
    exact hi
  have back : (restoreSession i session (takeSession i c)).connection i = _ :=
    Console.connection_update_self inside
  rw [back, connection_takeSession hi]

end Connection

namespace Scene.Agreed

variable {s s' : Scene} {i : ConnectionRef} {p : Profile} {token : Option String}

/-- Changes that keep the terms of sessions keep the agreement. -/
theorem retains {kept : Aspect → Prop} (agreed : s.Agreed)
    (h : s.console.Retains kept s'.console) (bound : kept .terms) : s'.Agreed := by
  intro i held
  rcases h.terms bound i with lost | ⟨same, resubscribe⟩
  · exact absurd lost held
  · rw [resubscribe, h.settings]
    exact agreed i (same ▸ held)

/-- A session that a connect opens, or gives back, is one of the settings. -/
theorem connect_terms {a : Except ConsoleError Bool} (agreed : s.Agreed)
    (hi : i < s.console.connections.length) (h : (Connection.connect i p token).Runs s a s')
    (held : (s'.console.connection i).session ≠ none) :
    (s'.console.connection i).resubscribe = s.console.settings.autoResubscribe := by
  simp only [Connection.connect, Program.bind_eq, runs_bind_iff, runs_atomically_iff] at h
  rcases h with ⟨_, middle, ⟨rfl, begun⟩, h⟩
  rcases Connection.beginConnect_cases i s.console with ⟨-, e⟩ | ⟨-, e⟩ | ⟨-, -, replaced, e⟩
  · rw [e] at h begun
    rcases runs_done_iff.1 h with ⟨-, rfl⟩
    subst begun
    exact agreed i held
  · rw [e] at h begun
    rcases runs_done_iff.1 h with ⟨-, rfl⟩
    subst begun
    exact agreed i held
  · rw [e] at h begun
    have taken : middle.console = Connection.takeSession i s.console := by
      rw [begun]
      rfl
    simp only [runs_bind_iff] at h
    rcases h with ⟨_, closed, closing, h⟩
    rcases Connection.closePrevious_effects closing with ⟨-, -, -, ⟨session, error, before, rfl, -,
      restored⟩ | ⟨rfl, -, same, -⟩⟩
    · rcases runs_done_iff.1 h with ⟨-, rfl⟩
      rw [restored, taken, Connection.resubscribe_restoreSession hi]
      exact agreed i (before ▸ Option.some_ne_none session)
    · have inside : i < closed.console.connections.length := by
        rw [same, taken, Connection.length_takeSession]
        exact hi
      have kept : middle.console.Retains (fun _ => False) closed.console :=
        (Connection.every_closePrevious .refl
          (fun _ _ => Connection.retains_restoreSession not_false)
          fun c _ => .refl c).runs closing .refl .trans
      rw [Connection.openSession_resubscribe inside h, kept.settings, taken]
      rfl

/-- A connect leaves the other connections alone. -/
theorem connect {a : Except ConsoleError Bool} (agreed : s.Agreed)
    (hi : i < s.console.connections.length)
    (h : (Connection.connect i p token).Runs s a s') : s'.Agreed := by
  have alters : s.console.Alters i Connection.Lasting s'.console :=
    Connection.lasting_connect.runs h (.refl Connection.Lasting.refl)
      (.trans Connection.Lasting.trans)
  have kept : s.console.Retains (fun _ => False) s'.console :=
    (Connection.retains_connect not_false).runs h .refl .trans
  intro j held
  rw [kept.settings]
  by_cases same : j = i
  · subst same
    exact agreed.connect_terms hi h held
  · rw [alters.others same] at held ⊢
    exact agreed j held

/-- A connect of the console first finds the connection. -/
theorem console_connect {id : ConnectionId} {a : Console.Result Bool} (agreed : s.Agreed)
    (sound : s.board.Sound) (h : (Console.connect id token).Runs s a s') : s'.Agreed := by
  simp only [Console.connect, Program.bind_eq, runs_look_bind_iff] at h
  split at h
  · rcases runs_done_iff.1 h with ⟨-, rfl⟩
    exact agreed
  · simp only [runs_look_bind_iff] at h
    split at h
    · rcases runs_done_iff.1 h with ⟨-, rfl⟩
      exact agreed
    · rcases Console.withConnection_retains h with
        ⟨-, -, -, rfl⟩ | ⟨i, middle, finds, retains, -, h⟩
      · exact agreed
      · rcases finds.get? sound with ⟨v, hv, -⟩
        exact (agreed.retains (retains fun _ => True) trivial).connect
          (Console.board_get?_iff.1 hv).1 h

theorem step {label : Label} (agreed : s.Agreed) (sound : s.board.Sound)
    (step : Step s label s') : s'.Agreed := by
  by_cases touches : label.Touches .terms
  · cases step with
    | @direct i call _ _ _ hi run =>
        cases call with
        | connect p token => exact agreed.connect hi run
        | _ => cases touches
    | @call call _ _ _ run =>
        cases call with
        | connect id token => exact agreed.console_connect sound run
        | _ => cases touches
    | @event i session event => cases event <;> cases touches
    | outside => cases touches
  · exact agreed.retains step.retains touches

end Scene.Agreed

/-- A connection with a session restores its filters as the settings say, after every run. -/
theorem Run.agreed {settings : Settings} {catalog : Catalog} {storage : ProfileStorage}
    {fresh : Nat → ConnectionId} {clock : Int} {transitions : List Transition} {s : Scene}
    (run : Run (.start settings catalog storage fresh clock) transitions s) :
    s.console.settings = settings ∧ s.Agreed := by
  induction run with
  | start =>
      rcases Scene.retains_start settings catalog storage fresh clock with
        ⟨empty, same, none, -, retains⟩
      have retained := retains fun _ => True
      refine ⟨retained.settings.trans same, fun i held => ?_⟩
      -- No connection has a session yet.
      have blank : empty.connection i = default := Console.connection_of_le (by simp [none])
      rcases retained.terms trivial i with lost | ⟨lost, -⟩
      · exact absurd lost held
      · rw [blank] at lost
        exact absurd lost held
  | step previous step ih =>
      exact ⟨step.retains.settings.trans ih.1, ih.2.step previous.sound step⟩

/-! ## What is restored -/

/-- The options that a profile declares for a filter: those of its first subscription for it, and
the default ones if it has none. -/
def Profile.Declares (p : Profile) (filter : String) (options : SubscribeOptions) : Prop :=
  (∃ front subscription back, p.subscriptions = front ++ subscription :: back ∧
    subscription.topic = filter ∧ (∀ other ∈ front, other.topic ≠ filter) ∧
    options = subscription.options) ∨
  (∀ subscription ∈ p.subscriptions, subscription.topic ≠ filter) ∧ options = .default

theorem Profile.declares_subscription? (p : Profile) (filter : String) :
    p.Declares filter (((p.subscription? filter).map (·.options)).getD .default) := by
  cases found : p.subscription? filter with
  | none =>
      refine Or.inr ⟨?_, rfl⟩
      simpa [subscription?, Subscription.find?] using found
  | some subscription =>
      rcases List.find?_eq_some_iff_append.1 found with ⟨named, front, back, split, others⟩
      refine Or.inl ⟨front, subscription, back, split, ?_, ?_, rfl⟩
      · simpa using named
      · simpa using others

namespace Snapshot

variable {s : Snapshot} {filter : String}

theorem mem_active_iff_get? : filter ∈ s.active ↔ s.live.get? filter = some true := by
  rw [mem_active_iff]
  exact ⟨KeyList.get?_of_mem s.live.ordered, KeyList.mem_of_get?⟩

theorem nodup_active (s : Snapshot) : s.active.Nodup := by
  have keys : (s.live.entries.map (·.1)).Nodup := by
    rw [List.Nodup, List.pairwise_map]
    exact s.live.ordered.imp fun less => String.ne_of_lt less
  exact keys.sublist (List.filter_sublist.map _)

end Snapshot

namespace Connection

variable {x : Connection} {filters : List FilterRequest}

/-- Whether filters to ask for are exactly the active ones of a connection, each once and with the
options that its profile declares. -/
structure Restores (x : Connection) (filters : List FilterRequest) : Prop where
  once : (filters.map (·.1)).Nodup
  named : ∀ filter, filter ∈ filters.map (·.1) ↔ x.snapshot.live.get? filter = some true
  declared : ∀ request ∈ filters, x.profile.Declares request.1 request.2

theorem Restores.congr {y : Connection} (h : x.Restores filters)
    (live : x.snapshot.live = y.snapshot.live) (profile : x.profile = y.profile) :
    y.Restores filters := by
  refine ⟨h.once, ?_, ?_⟩
  · rw [← live]
    exact h.named
  · rw [← profile]
    exact h.declared

/-- A connection that comes back asks for its active filters again, if it was opened so. -/
theorem restores_restorable {n : Nat} (back : x.snapshot.status = .reconnecting n)
    (resubscribe : x.resubscribe = true) : x.Restores x.restorable := by
  have names : x.restorable.map (·.1) = x.snapshot.active := by
    simp [restorable, back, resubscribe, Function.comp_def]
  refine ⟨?_, ?_, ?_⟩
  · rw [names]
    exact Snapshot.nodup_active _
  · intro filter
    rw [names]
    exact Snapshot.mem_active_iff_get?
  · intro request member
    simp only [restorable, back, resubscribe, if_true, List.mem_map] at member
    rcases member with ⟨filter, -, rfl⟩
    exact x.profile.declares_subscription? filter

theorem restorable_eq_nil (bare : x.resubscribe = false ∨
    ∀ filter, x.snapshot.live.get? filter ≠ some true) : x.restorable = [] := by
  unfold restorable
  split
  · rcases bare with off | none
    · rw [if_neg (by simp [off])]
    · have inactive : x.snapshot.active = [] := by
        refine List.eq_nil_iff_forall_not_mem.2 fun filter member => ?_
        exact none filter (Snapshot.mem_active_iff_get?.1 member)
      rw [inactive, List.map_nil, ite_self]
  · rfl

/-- A session that came up is connected, and is asked for what is to be restored. -/
theorem onConnected_restores {session : SessionId} {i : ConnectionRef} {s s' : Scene} {u : Unit}
    (held : (s.console.connection i).session = some session)
    (h : (onConnected i session).Runs s u s') :
    (s'.console.connection i).vitals =
        { (s.console.connection i).vitals with status := .connected, retryCount := 0 } ∧
      (((s.console.connection i).restorable = [] ∧ s'.exchanges = s.exchanges) ∨
        ∃ reply : Request.Reply (.subscribe session (s.console.connection i).restorable),
          (s.console.connection i).restorable ≠ [] ∧
          s'.exchanges = s.exchanges ++ [⟨.subscribe session _, reply⟩]) := by
  have hv := Scene.get?_of_held held
  constructor
  · refine vitals_eq ?_
    rw [onConnected_runs h, acceptConnected_spec hv held]
    exact Board.get?_put_self hv
  · have asked : (acceptConnected i session s.console).1 =
        (s.console.connection i).restorable := by
      simp [acceptConnected, owns_iff.2 held]
    simp only [onConnected, Program.bind_eq, runs_bind_iff, runs_atomically_iff] at h
    rcases h with ⟨_, middle, ⟨rfl, rfl⟩, h⟩
    rw [asked] at h
    split at h
    · next none =>
        rcases runs_done_iff.1 h with ⟨-, rfl⟩
        exact Or.inl ⟨none, rfl⟩
    · next some =>
        simp only [runs_bind_iff, runs_ask_iff, Program.pure_eq, runs_done_iff] at h
        rcases h with ⟨reply, _, ⟨-, rfl⟩, -, rfl⟩
        exact Or.inr ⟨reply, some, rfl⟩

end Connection

/-! ## Coming back -/

variable {i : ConnectionRef} {session : SessionId} {start s s' : Scene}
  {later : List Transition}

theorem Step.keeps_of_struggles {label : Label} (step : Step s label s')
    (struggles : label.Struggles i session) :
    s.console.Keeps s'.console ∧ ¬ label.Touches .terms := by
  cases step with
  | @event _ _ happened _ _ _ _ run =>
      refine ⟨Connection.keeps_react.runs run .refl .trans, ?_⟩
      cases happened <;> exact not_false
  | call | direct | outside => exact struggles.elim

namespace Run.Struggling

/-- A struggling session changes neither profile nor terms. -/
theorem terms (h : Struggling i session start later s) :
    (s.console.connection i).profile = (start.console.connection i).profile ∧
      (s.console.connection i).resubscribe = (start.console.connection i).resubscribe := by
  -- By induction on the steps, from the last one.
  induction later using List.reverseRecOn generalizing s with
  | nil =>
      obtain rfl := nil_iff.1 h.run
      exact ⟨rfl, rfl⟩
  | append_singleton later t ih =>
      have held := h.clings.1
      rcases h.split with ⟨earlier, step, struggles⟩
      obtain rfl := h.last
      rcases ih earlier with ⟨profile, resubscribe⟩
      rcases step.keeps_of_struggles struggles with ⟨kept, untouched⟩
      refine ⟨(Console.profile_connection_of_keeps kept i).trans profile, ?_⟩
      rcases step.retains.terms untouched i with lost | ⟨-, same⟩
      · rw [held] at lost
        cases lost
      · exact same.trans resubscribe

/-- After the first few attempts, and each step before, every filter is as it was. -/
theorem live (h : Struggling i session start later s)
    (few : attempts later ≤ Connection.maxAttempts) {t : Transition} (member : t ∈ later) :
    (t.after.console.connection i).snapshot.live =
      (start.console.connection i).snapshot.live := by
  rcases List.append_of_mem member with ⟨front, back, rfl⟩
  rcases h.split with ⟨earlier, step, struggles⟩
  have upto : Struggling i session start (front ++ [t]) t.after := by
    refine ⟨earlier.run.step step, ?_, h.held, h.fresh⟩
    intro u among
    refine h.each u ?_
    simp only [List.mem_append, List.mem_cons] at among ⊢
    tauto
  refine (upto.tried (upto.unaccepted ?_)).live
  simp only [attempts_append, attempts_cons, attempts_nil] at few ⊢
  omega

end Run.Struggling

/-- What a session that came back finds, as of when it was lost. -/
structure Scene.Restored (i : ConnectionRef) (session : SessionId) (start s : Scene) : Prop where
  status : (s.console.connection i).snapshot.status = .connected
  retryCount : (s.console.connection i).snapshot.retryCount = 0
  live : (s.console.connection i).snapshot.live = (start.console.connection i).snapshot.live
  asked : (start.console.connection i).resubscribe = true →
    (∃ filter, (start.console.connection i).snapshot.live.get? filter = some true) →
    ∃ filters, ∃ reply : Request.Reply (.subscribe session filters),
      s.exchanges = start.exchanges ++ [⟨.subscribe session filters, reply⟩] ∧
      (start.console.connection i).Restores filters
  unasked : ((start.console.connection i).resubscribe = false ∨
      ∀ filter, (start.console.connection i).snapshot.live.get? filter ≠ some true) →
    s.exchanges = start.exchanges

/-- A session that comes back after a few attempts finds its filters. -/
theorem Run.Struggling.restored (h : Struggling i session start later s)
    (some : 1 ≤ attempts later) (few : attempts later ≤ Connection.maxAttempts)
    (back : Step s (.event i session .connected) s') : start.Restored i session s' := by
  rcases h.counted some few with ⟨down, -, silent, -⟩
  have live := (h.tried (h.unaccepted few)).live
  rcases h.terms with ⟨profile, resubscribe⟩
  cases back with
  | event member alive run =>
      rcases Connection.onConnected_restores h.clings.1 run with ⟨vitals, asked⟩
      refine ⟨congrArg Vitals.status vitals, congrArg Vitals.retryCount vitals,
        (congrArg Vitals.live vitals).trans live, ?_, ?_⟩
      · rintro on ⟨filter, active⟩
        have restores : (s.console.connection i).Restores (s.console.connection i).restorable :=
          Connection.restores_restorable down (resubscribe.trans on)
        have named : filter ∈ (s.console.connection i).restorable.map (·.1) :=
          (restores.named filter).2 (live ▸ active)
        rcases asked with ⟨none, -⟩ | ⟨reply, -, said⟩
        · rw [none] at named
          cases named
        · exact ⟨_, reply, silent ▸ said, restores.congr live profile⟩
      · intro bare
        have none : (s.console.connection i).restorable = [] := by
          refine Connection.restorable_eq_nil ?_
          rwa [resubscribe, live]
        rcases asked with ⟨-, same⟩ | ⟨-, some, -⟩
        · exact same.trans silent
        · exact absurd none some

/-- Nothing is lost over a reconnect.  A connection that is connected after complete calls holds a
session, which restores filters as the settings say, and counts no attempt.  From any such state,
whatever led to it, the live map stays while the session struggles and comes back within a few
attempts; then exactly the active filters are asked for again, in one request, if the session
restores filters. -/
theorem reconnect_restores (i : ConnectionRef) (start : Scene) :
    (∀ (settings : Settings) (catalog : Catalog) (storage : ProfileStorage)
        (fresh : Nat → ConnectionId) (clock : Int) (earlier : List Transition),
      Run (.start settings catalog storage fresh clock) earlier start →
        (start.console.connection i).snapshot.status = .connected →
        ∃ session, Run.Struggling i session start [] start ∧
          (start.console.connection i).resubscribe = settings.autoResubscribe) ∧
    (∀ (session : SessionId) (later : List Transition) (s s' : Scene),
      Run.Struggling i session start later s → 1 ≤ attempts later → attempts later ≤ 3 →
        Step s (.event i session .connected) s' →
        (∀ t ∈ later, (t.after.console.connection i).snapshot.live =
          (start.console.connection i).snapshot.live) ∧
        start.Restored i session s') := by
  constructor
  · intro settings catalog storage fresh clock earlier run up
    have hi : i < start.console.connections.length := by
      refine Console.lt_of_ne_default fun unknown => ?_
      rw [unknown] at up
      cases up
    rcases run.struggling hi up with ⟨session, ready⟩
    rcases run.agreed with ⟨same, agreed⟩
    refine ⟨session, ready, ?_⟩
    rw [agreed i (by simp [ready.held]), same]
  · intro session later s s' h some few back
    exact ⟨fun t member => h.live few member, h.restored some few back⟩

/-- A filter that is active, and one that is not, survive two attempts; the active one is asked for
with its declared options. -/
theorem reconnect_restores_filter :
    ∃ (earlier later : List Transition) (start s s' : Scene),
      Run .blank earlier start ∧
      (start.console.connection 0).snapshot.status = .connected ∧
      (∃ session, Run.Struggling 0 session start [] start ∧
        (start.console.connection 0).resubscribe = true) ∧
      Run.Struggling 0 0 start later s ∧ attempts later = 2 ∧
      Step s (.event 0 0 .connected) s' ∧
      (start.console.connection 0).snapshot.live.entries = [("alarm", false), ("state", true)] ∧
      (∀ t ∈ later, (t.after.console.connection 0).snapshot.live =
        (start.console.connection 0).snapshot.live) ∧
      start.Restored 0 0 s' := by
  let p : Profile :=
    { Profile.default ⟨0⟩ with subscriptions := [.fresh "s" "state" (.ofQos .atLeastOnce)] }
  let opening : List Action :=
    [.call (.getOrCreate ⟨0⟩ (some p)), .direct 0 (.connect p none), .event 0 0 .connected,
      .direct 0 (.subscribe [("state", .default), ("alarm", .default)] .caller),
      .direct 0 (.unsubscribe ["alarm"] .caller)]
  let lost : List Action :=
    [.event 0 0 (.error "lost"), .event 0 0 .reconnecting, .event 0 0 (.close none),
      .event 0 0 (.message ⟨"state", [], .atMostOnce, false, none⟩), .event 0 0 .reconnecting]
  let start := (Scene.blank.play .obliging opening).2
  let down := start.play .obliging lost
  let t := (Action.event 0 0 .connected).take .obliging down.2
  have reached : Run .blank _ start :=
    Run.play Responder.fair_obliging .start (by decide : Scene.blank.Playable .obliging opening)
  have dropped : Run start down.1 down.2 :=
    Run.play Responder.fair_obliging .start (by decide : start.Playable .obliging lost)
  have back : Step down.2 (.event 0 0 .connected) t.after :=
    Action.step_take Responder.fair_obliging
      (by decide : (Action.event 0 0 .connected).Enabled down.2)
  have up : (start.console.connection 0).snapshot.status = .connected := by decide
  have struggling : Run.Struggling 0 0 start down.1 down.2 := by
    refine ⟨dropped, ?_, by decide, by decide⟩
    simp [down, lost, Scene.play, Action.take, Label.Struggles]
  have two : attempts down.1 = 2 := by decide
  have ready := (reconnect_restores 0 start).1 _ _ _ _ _ _ reached up
  have restored := (reconnect_restores 0 start).2 0 _ _ _ struggling (by omega) (by omega) back
  exact ⟨_, down.1, start, down.2, t.after, reached, up, ready, struggling, two, back, by decide,
    restored.1, restored.2⟩

end DeviceConsole
