import DeviceConsole.Proofs.Session.Publishing
import DeviceConsole.Proofs.Session.Renewal
import DeviceConsole.Proofs.Storage.Saving

/-!
# What a call leaves that fails

Some calls change their connection before the request that may fail, and take the change back when
it does.  This file defines:

* `Console.Intact i`, all that a failed call of a connection may do to a console;
* `Connection.Call.Fails`, the outcomes that count as failures, and `Connection.Call.Fails.intact`;
* `Scene.Heeds`, that profiles are edited only after a call of a connection that did not fail, and
  `Console.Call.heeds`, which says so of the calls of the console.
-/

namespace DeviceConsole

open Operation

/-! ## Nothing but notices -/

/-- Whether nothing happens but that the operator is told something, and that observers of one
connection are shown once more what they saw. -/
def Console.Intact (i : ConnectionRef) (c c' : Console) : Prop :=
  ∃ (notices : List Notification) (shown : Snapshot) (writes : Nat),
    (shown = (c.connection i).shown ∨ shown = (c.connection i).snapshot) ∧
    c' = (c.notifyAll notices).update i fun connection =>
      { connection with shown := shown, writes := writes }

namespace Console

variable {i : ConnectionRef} {c c' : Console} {f g : Connection → Connection}

/-- A change of a connection is decided by what becomes of it as it is. -/
theorem update_congr (same : f (c.connection i) = g (c.connection i)) :
    c.update i f = c.update i g := by
  simp only [update, List.modify_eq_set]
  simp only [connection, List.getD_eq_getElem?_getD] at same
  rw [same]

theorem update_eq_self (same : f (c.connection i) = c.connection i) : c.update i f = c := by
  calc c.update i f
      = c.update i id := update_congr same
    _ = c := by simp only [update, List.modify_id]

theorem update_update : (c.update i f).update i g = c.update i (g ∘ f) := by
  simp [update, List.modify_modify_eq]

/-- A change that comes to nothing but what observers are shown. -/
theorem intact_update {notices : List Notification} {shown : Snapshot} {writes : Nat}
    (seen : shown = (c.connection i).shown ∨ shown = (c.connection i).snapshot)
    (same : f (c.connection i) = { c.connection i with shown := shown, writes := writes }) :
    c.Intact i ((c.notifyAll notices).update i f) :=
  ⟨notices, shown, writes, seen, update_congr same⟩

theorem Tells.intact (told : c.Tells c') : c.Intact i c' := by
  rcases told with ⟨notices, rfl⟩
  have same : (c.notifyAll notices).update i id = c.notifyAll notices := update_eq_self rfl
  rw [← same]
  exact intact_update (Or.inl rfl) rfl

end Console

/-! ## Calls of a connection -/

/-- Whether a call failed.  A connect that found the gate closed counts as well, and one that could
not close the session it was to replace. -/
def Connection.Call.Fails (s s' : Scene) : (call : Connection.Call) → call.Result → Prop
  | .connect _ _, result => result = .ok false ∨
      ∃ session error, result = .error (.transport error) ∧
        s'.exchanges = s.exchanges ++ [⟨.close session, .error error⟩]
  | .disconnect, result => ∃ error, result = .error error
  | .publish _ _, result => ∃ error, result = .error error
  | .subscribe _ _, result => ∃ error, result = .error error
  | .unsubscribe _ _, result => ∃ error, result = .error error
  | _, _ => False

namespace Connection

variable {i : ConnectionRef} {c : Console} {s s' : Scene} {audience : Audience}
  {error : ConsoleError}

/-! ### Requests over the session -/

theorem publish_failed_tells {d : Draft}
    (h : (publish i d audience).Runs s (.error error) s') : s.console.Tells s'.console := by
  cases publish_published h with
  | refused _ _ _ told => exact told
  | failed _ _ _ _ _ told => exact told

theorem subscribe_failed_tells {filters : List FilterRequest}
    (h : (subscribe i filters audience).Runs s (.error error) s') :
    s.console.Tells s'.console := by
  cases subscribe_subscribed h with
  | refused _ _ _ told => exact told
  | failed _ _ _ _ told => exact told
  | rejected _ _ _ _ _ _ told => exact told

theorem unsubscribe_failed_tells {filters : List String}
    (h : (unsubscribe i filters audience).Runs s (.error error) s') :
    s.console.Tells s'.console := by
  cases unsubscribe_unsubscribed h with
  | refused _ _ _ told => exact told
  | failed _ _ _ _ told => exact told

/-! ### Closing -/

/-- A connection whose close is announced, if observers take it for open. -/
def announced (x : Connection) : Connection :=
  if x.snapshot.status.isActive then x.present fun s => { s with status := .disconnecting } else x

/-- A connection whose announcement is taken back, for the state before it. -/
def resumed (previous : ConnectionStatus) (x : Connection) : Connection :=
  x.present fun s => { s with status := if s.status = .disconnecting then previous else s.status }

/-- Whether the close was announced, and the state before it, do not show afterwards. -/
theorem resumed_announced (x : Connection) :
    x.announced.resumed x.snapshot.status =
      { x with shown := x.snapshot, writes := x.announced.writes + 1 } := by
  by_cases active : x.snapshot.status.isActive = true
  · simp [announced, resumed, active, present, display]
  · simp [announced, resumed, active, present, display]

theorem beginDisconnect_eq {session : SessionId} (held : (c.connection i).session = some session) :
    beginDisconnect i c =
      (some (session, (c.connection i).snapshot.status), c.update i announced) := by
  by_cases active : (c.connection i).snapshot.status.isActive = true
  · have change : announced (c.connection i) = (c.connection i).present fun s =>
        { s with status := .disconnecting } := if_pos active
    have state : c.update i announced = c.present i fun s => { s with status := .disconnecting } :=
      Console.update_congr change
    simp [beginDisconnect, held, active, state]
  · have still : announced (c.connection i) = c.connection i := if_neg active
    simp [beginDisconnect, held, active, Console.update_eq_self still]

theorem disconnect_failed_intact {error : ConsoleError}
    (h : (disconnect i).Runs s (.error error) s') : s.console.Intact i s'.console := by
  simp only [disconnect, Program.bind_eq, runs_bind_iff, runs_atomically_iff] at h
  rcases h with ⟨begun, _, ⟨rfl, rfl⟩, h⟩
  cases held : (s.console.connection i).session with
  | none =>
      simp only [beginDisconnect, held] at h
      cases (runs_done_iff.1 h).1
  | some session =>
      simp only [beginDisconnect_eq held, runs_bind_iff, runs_ask_iff] at h
      rcases h with ⟨reply, _, ⟨-, rfl⟩, h⟩
      cases reply with
      | ok _ => cases (runs_change_done_iff.1 h).1
      | error refusal =>
          rcases runs_change_done_iff.1 h with ⟨-, rfl⟩
          -- The announcement and what takes it back are one change of the connection.
          let previous := (s.console.connection i).snapshot.status
          let told := s.console.notifyAll [⟨.fail, refusal.message⟩]
          have after : failDisconnect i previous refusal (s.console.update i announced) =
              told.update i (resumed previous ∘ announced) :=
            Console.update_update (c := told)
          have intact : s.console.Intact i (told.update i (resumed previous ∘ announced)) :=
            Console.intact_update (Or.inr rfl) (resumed_announced _)
          rw [← after] at intact
          exact intact

/-! ### Connecting -/

variable {p : Profile} {token : Option String}

/-- The first thing that is said about a new session is the request for it. -/
theorem openSession_asks {a : Except ConsoleError Bool} (h : (openSession i p token).Runs s a s') :
    a ≠ .ok false ∧ ∃ (options : ClientOptions) (reply : Request.Reply (.open options))
      (more : List Exchange), s'.exchanges = s.exchanges ++ ⟨_, reply⟩ :: more := by
  simp only [openSession, Program.bind_eq, runs_bind_iff, runs_atomically_iff, runs_ask_iff] at h
  rcases h with ⟨options, _, ⟨-, rfl⟩, reply, _, ⟨-, rfl⟩, h⟩
  constructor
  · rcases Request.open_reply reply with ⟨error, rfl⟩ | ⟨session, rfl⟩
    · simp [(runs_change_done_iff.1 h).1]
    · simp only [runs_bind_iff, runs_atomically_iff] at h
      rcases h with ⟨adopted, _, -, h⟩
      cases adopted with
      | true => simp [(runs_done_iff.1 h).1]
      | false =>
          simp only [Bool.false_eq_true, if_false, runs_bind_iff, Program.pure_eq,
            runs_done_iff] at h
          rcases h with ⟨_, _, -, rfl, -⟩
          simp
  · rcases h.exchanges with ⟨more, later⟩
    refine ⟨options, reply, more, later.trans ?_⟩
    simp [Scene.note, Scene.apply]

/-- A session that could not be closed is given back, and the gate is open as before. -/
theorem restoreSession_tells {session : SessionId} (free : c.gateHeld = false)
    (held : (c.connection i).session = some session) :
    c.Tells (restoreSession i session
      (c.holdGate.update i fun connection => { connection with session := none })) := by
  let taken (x : Connection) : Connection := { x with session := none }
  let returned (x : Connection) : Connection := { x with session := x.session <|> some session }
  let told := c.notifyAll [⟨.fail, "Connect Failure"⟩]
  have passed : told.holdGate.releaseGate = told := by
    simp [Console.holdGate, Console.releaseGate, told, Console.notifyAll, ← free]
  have kept : (returned ∘ taken) (told.connection i) = told.connection i := by
    have still : told.connection i = c.connection i := rfl
    simp [taken, returned, still, ← held]
  refine ⟨[⟨.fail, "Connect Failure"⟩], ?_⟩
  calc restoreSession i session (c.holdGate.update i taken)
      = (told.holdGate.releaseGate.update i taken).update i returned := rfl
    _ = (told.update i taken).update i returned := by rw [passed]
    _ = told.update i (returned ∘ taken) := Console.update_update
    _ = told := Console.update_eq_self kept

/-- A connect that fails before it asks for a session tells the operator at most. -/
theorem connect_failed_tells {a : Except ConsoleError Bool} (h : (connect i p token).Runs s a s')
    (failed : Call.Fails s s' (.connect p token) a) : s.console.Tells s'.console := by
  have still : s.console.Tells s.console := ⟨[], by simp [Console.notifyAll]⟩
  simp only [connect, Program.bind_eq, runs_bind_iff, runs_atomically_iff] at h
  rcases h with ⟨begun, _, ⟨rfl, rfl⟩, h⟩
  rcases beginConnect_cases i s.console with ⟨-, e⟩ | ⟨-, e⟩ | ⟨-, free, replaced, e⟩
  · simp only [e, Program.pure_eq, runs_done_iff] at h
    rcases h with ⟨-, rfl⟩
    exact still
  · simp only [e, Program.pure_eq, runs_done_iff] at h
    rcases h with ⟨-, rfl⟩
    exact still
  · simp only [e, runs_bind_iff] at h
    rcases h with ⟨closed, middle, closing, h⟩
    rcases closing.exchanges with ⟨said, exchanges⟩
    -- Either the old session could not be closed, and is back, or it is out of the way.
    rcases closePrevious_effects closing with
      ⟨-, -, -, ⟨session, error, held, rfl, -, restored⟩ | ⟨rfl, -⟩⟩
    · rcases runs_done_iff.1 h with ⟨-, rfl⟩
      rw [restored]
      exact restoreSession_tells free held
    · -- From here on a session is asked for, so this is not one of the failures in question.
      rcases openSession_asks h with ⟨goes, options, reply, more, later⟩
      rcases failed with busy | ⟨session, error, -, unclosed⟩
      · exact absurd busy goes
      · have all : s.exchanges ++ (said ++ ⟨.open options, reply⟩ :: more) =
            s.exchanges ++ [⟨.close session, .error error⟩] := by
          rw [← unclosed, later, exchanges, List.append_assoc]
          rfl
        have asked : ⟨.open options, reply⟩ ∈ [(⟨.close session, .error error⟩ : Exchange)] := by
          rw [← List.append_cancel_left all]
          simp
        cases List.mem_singleton.1 asked

end Connection

/-- A call that fails leaves everything as it was, whatever it had changed before. -/
theorem Connection.Call.Fails.intact {i : ConnectionRef} {s s' : Scene} {call : Connection.Call}
    {result : call.Result} (failed : call.Fails s s' result)
    (h : (call.program i).Runs s result s') : s.console.Intact i s'.console := by
  cases call with
  | connect p token => exact (connect_failed_tells h failed).intact
  | disconnect =>
      rcases failed with ⟨error, rfl⟩
      exact disconnect_failed_intact h
  | publish d audience =>
      rcases failed with ⟨error, rfl⟩
      exact (publish_failed_tells h).intact
  | subscribe filters audience =>
      rcases failed with ⟨error, rfl⟩
      exact (subscribe_failed_tells h).intact
  | unsubscribe filters audience =>
      rcases failed with ⟨error, rfl⟩
      exact (unsubscribe_failed_tells h).intact
  | destroy | clear | read | setRenderMode | forget => exact failed.elim

/-! ## Calls of the console -/

/-- Whether profiles and their text are as before, unless a call of a connection of this kind was
made and did not fail. -/
inductive Scene.Heeds (kind : Connection.Call → Prop) (s s' : Scene) : Prop where
  /-- No call of a connection was made. -/
  | idle : s'.exchanges = s.exchanges → s.console.Unedited s'.console → Heeds kind s s'
  | made (i : ConnectionRef) (m last : Scene) (call : Connection.Call) (result : call.Result) :
      kind call → s.console.Spares m.console → m.exchanges = s.exchanges →
      (call.program i).Runs m result last → s'.exchanges = last.exchanges →
      (call.Fails m last result → s.console.Unedited s'.console) → Heeds kind s s'

namespace Scene.Heeds

variable {s m last s' : Scene} {kind : Connection.Call → Prop}

/-- What spares the ledger and is silent may come before and after. -/
theorem within (h : m.Heeds kind last) (before : s.console.Spares m.console)
    (unasked : m.exchanges = s.exchanges) (after : last.console.Spares s'.console)
    (silent : s'.exchanges = last.exchanges) : s.Heeds kind s' := by
  have unedited : m.console.Unedited last.console → s.console.Unedited s'.console := by
    rintro ⟨profiles, text⟩
    constructor
    · rw [after.profiles, profiles, before.profiles]
    · rw [after.storage, text, before.storage]
  cases h with
  | idle quiet same => exact .idle (silent.trans (quiet.trans unasked)) (unedited same)
  | made i n end_ call result this spared first run said heeds =>
      exact .made i n end_ call result this (before.trans spared) (first.trans unasked) run
        (silent.trans said) fun failed => unedited (heeds failed)

end Scene.Heeds

/-- The calls of a console that rest on a call of a connection which may fail. -/
def Console.Call.Rests : Console.Call → Prop
  | .connect _ _ | .disconnect _ | .publish _ _ _ | .subscribe _ _ _ _ | .unsubscribe _ _ _
  | .subscribeAll _ _ | .unsubscribeAll _ => True
  | _ => False

namespace Console

variable {s s' : Scene} {id : ConnectionId} {kind : Connection.Call → Prop} {audience : Audience}
  {α : Type}

theorem Spares.heeds_idle (spared : s.console.Spares s'.console)
    (silent : s'.exchanges = s.exchanges) : s.Heeds kind s' := .idle silent spared.unedited

/-- A call that needs a connection heeds what it goes on with. -/
theorem withConnection_heeds {act : ConnectionRef → Operation (Result α)} {a : Result α}
    (h : (withConnection id act).Runs s a s')
    (acts : ∀ {i m}, (act i).Runs m a s' → m.Heeds kind s') : s.Heeds kind s' := by
  rcases withConnection_found h with ⟨-, rfl⟩ | ⟨i, m, spared, silent, -, -, h⟩
  · exact Spares.heeds_idle (.refl _) rfl
  · exact (acts h).within spared silent (.refl _) rfl

/-- Calls that edit nothing heed every call of a connection. -/
theorem heeds_spares {i : ConnectionRef} {m last : Scene} (call : Connection.Call)
    {result : call.Result} (this : kind call) (run : (call.program i).Runs m result last)
    (after : last.console.Spares s'.console) (silent : s'.exchanges = last.exchanges) :
    m.Heeds kind s' := by
  have spared : m.console.Spares last.console := call.spares.runs run .refl .trans
  exact .made i m last call result this (.refl _) rfl run silent fun _ =>
    (spared.trans after).unedited

theorem connect_heeds {token : Option String} {a : Result Bool}
    (h : (connect id token).Runs s a s') (this : ∀ p, kind (.connect p token)) :
    s.Heeds kind s' := by
  simp only [connect, Program.bind_eq, runs_look_bind_iff] at h
  split at h
  · rcases runs_done_iff.1 h with ⟨-, rfl⟩
    exact Spares.heeds_idle (.refl _) rfl
  · simp only [runs_look_bind_iff] at h
    split at h
    · rcases runs_done_iff.1 h with ⟨-, rfl⟩
      exact Spares.heeds_idle (.refl _) rfl
    · next p _ =>
        exact withConnection_heeds h fun run =>
          heeds_spares (.connect p token) (this p) run (.refl _) rfl

theorem disconnect_heeds {a : Result Bool} (h : (disconnect id).Runs s a s')
    (this : kind .disconnect) : s.Heeds kind s' := by
  simp only [disconnect, Program.bind_eq, runs_look_bind_iff] at h
  split at h
  · rcases runs_done_iff.1 h with ⟨-, rfl⟩
    exact Spares.heeds_idle (.refl _) rfl
  · refine withConnection_heeds h ?_
    intro i m h
    simp only [runs_bind_iff] at h
    rcases h with ⟨result, last, run, h⟩
    have worded : s' = last := by
      cases result with
      | error error => exact (runs_done_iff.1 h).2
      | ok _ => exact (runs_done_iff.1 h).2
    subst worded
    exact heeds_spares .disconnect this run (.refl _) rfl

theorem publish_heeds {d : Connection.Draft} {a : Result Unit}
    (h : (publish id d audience).Runs s a s') (this : kind (.publish d audience)) :
    s.Heeds kind s' := by
  refine withConnection_heeds h ?_
  intro i m h
  simp only [Program.bind_eq, runs_bind_iff] at h
  rcases h with ⟨result, last, run, h⟩
  cases result with
  | error error =>
      rcases runs_done_iff.1 h with ⟨-, rfl⟩
      exact heeds_spares (.publish d audience) this run (.refl _) rfl
  | ok _ =>
      -- The options become the defaults of the profile only now.
      have silent : s'.exchanges = last.exchanges := silent_modifyProfile.exchanges h
      refine .made i m last (.publish d audience) (.ok ()) this (.refl _) rfl run silent ?_
      rintro ⟨error, failed⟩
      cases failed

theorem subscribe_heeds {fresh : Nat → String} {filters : List FilterRequest} {a : Result Unit}
    (h : (subscribe id fresh filters audience).Runs s a s')
    (this : kind (.subscribe filters audience)) : s.Heeds kind s' := by
  refine withConnection_heeds h ?_
  intro i m h
  simp only [Program.bind_eq, runs_bind_iff] at h
  rcases h with ⟨result, last, run, h⟩
  cases result with
  | error error =>
      rcases runs_done_iff.1 h with ⟨-, rfl⟩
      exact heeds_spares (.subscribe filters audience) this run (.refl _) rfl
  | ok _ =>
      simp only [runs_look_bind_iff] at h
      have silent : s'.exchanges = last.exchanges := silent_modifyProfile.exchanges h
      refine .made i m last (.subscribe filters audience) (.ok ()) this (.refl _) rfl run silent ?_
      rintro ⟨error, failed⟩
      cases failed

theorem subscribeAll_heeds {fresh : Nat → String} {a : Result Unit}
    (h : (subscribeAll id fresh).Runs s a s')
    (this : ∀ filters, kind (.subscribe filters .caller)) : s.Heeds kind s' := by
  refine withConnection_heeds h ?_
  intro i m h
  simp only [Program.bind_eq, runs_look_bind_iff] at h
  split at h
  · rcases runs_done_iff.1 h with ⟨-, rfl⟩
    exact Spares.heeds_idle (.refl _) rfl
  · simp only [runs_look_bind_iff] at h
    split at h
    · rcases runs_change_done_iff.1 h with ⟨-, rfl⟩
      exact Spares.heeds_idle rfl rfl
    · simp only [runs_bind_iff] at h
      rcases h with ⟨result, last, subscribed, h⟩
      exact (subscribe_heeds subscribed (this _)).within (.refl _) rfl
        (spares_reportAll.runs h .refl .trans) (silent_reportAll.exchanges h)

theorem unsubscribeAll_heeds {a : Result Unit} (h : (unsubscribeAll id).Runs s a s')
    (this : ∀ filters, kind (.unsubscribe filters .caller)) : s.Heeds kind s' := by
  refine withConnection_heeds h ?_
  intro i m h
  simp only [Program.bind_eq, runs_look_bind_iff] at h
  split at h
  · rcases runs_change_done_iff.1 h with ⟨-, rfl⟩
    exact Spares.heeds_idle rfl rfl
  · simp only [runs_bind_iff] at h
    rcases h with ⟨result, last, run, h⟩
    exact heeds_spares (.unsubscribe _ .caller) (this _) run
      (spares_reportAll.runs h .refl .trans) (silent_reportAll.exchanges h)

end Console

open Console in
theorem Console.Call.heeds {call : Console.Call} {result : call.Result} {s s' : Scene}
    (rests : call.Rests) (h : call.program.Runs s result s') : s.Heeds call.Leads s' := by
  cases call with
  | connect id token => exact connect_heeds h fun _ => rfl
  | disconnect id => exact disconnect_heeds h trivial
  | publish id d audience => exact publish_heeds h ⟨rfl, rfl⟩
  | subscribe id fresh filters audience => exact subscribe_heeds h ⟨rfl, rfl⟩
  | unsubscribe id filters audience =>
      exact withConnection_heeds h fun run =>
        heeds_spares (.unsubscribe filters audience) ⟨rfl, rfl⟩ run (.refl _) rfl
  | subscribeAll id fresh => exact subscribeAll_heeds h fun _ => rfl
  | unsubscribeAll id => exact unsubscribeAll_heeds h fun _ => rfl
  | getOrCreate | destroy | add | update | remove | select | clear | setRenderMode | forget =>
      exact rests.elim

/-! ## Failures -/

/-- A call of a connection that fails leaves the console as it was, and a call of the console edits
profiles and their text only after one that did not fail. -/
theorem failed_calls_intact :
    (∀ (i : ConnectionRef) (call : Connection.Call) (s s' : Scene) (result : call.Result),
      (call.program i).Runs s result s' → call.Fails s s' result →
        s.console.Intact i s'.console) ∧
    (∀ (call : Console.Call) (s s' : Scene) (result : call.Result),
      call.Rests → call.program.Runs s result s' → s.Heeds call.Leads s') := by
  constructor
  · intro i call s s' result run failed
    exact failed.intact run
  · intro call s s' result rests run
    exact Console.Call.heeds rests run

/-- A close that is refused while another one is pending, and a filter that is refused. -/
theorem failed_calls_intact_when_refused :
    ∃ (transitions : List Transition) (up closing asked last : Scene) (error : ConsoleError)
      (call : Console.Call) (result : call.Result),
      Run .blank transitions closing ∧
      (closing.console.connection 0).snapshot.status = .disconnecting ∧
      (Connection.disconnect 0).Runs closing (.error error) last ∧
      closing.console.Intact 0 last.console ∧
      up.console.profiles.length = 1 ∧ call.program.Runs up result asked ∧ call.Rests ∧
      up.exchanges.length < asked.exchanges.length ∧ up.Heeds call.Leads asked := by
  let opening : List Action :=
    [.call (.add ⟨7⟩ (fun _ => "") { (Profile.default ⟨0⟩) with role := .server }),
      .call (.connect ⟨7⟩ none), .event 0 0 .connected]
  let up := (Scene.blank.play .obliging opening).2
  let closing := (Scene.blank.play .obliging (opening ++ [.call (.disconnect ⟨7⟩)])).2
  have playable : Scene.blank.Playable .obliging (opening ++ [.call (.disconnect ⟨7⟩)]) := by
    decide
  have run := Run.play Responder.fair_obliging .start playable
  have pending : (closing.console.connection 0).snapshot.status = .disconnecting := by decide
  have refused := runs_perform Responder.fair_refusing (Connection.disconnect 0) closing
  have unclosed : ((Connection.disconnect 0).perform .refusing closing).1.isOk = false := by decide
  let call : Console.Call := .subscribe ⟨7⟩ (fun _ => "") [("t", .default)] .caller
  have subscribed := runs_perform Responder.fair_refusing call.program up
  have known : up.console.profiles.length = 1 := by decide
  have asked : up.exchanges.length < (call.program.perform .refusing up).2.exchanges.length := by
    decide
  cases outcome : ((Connection.disconnect 0).perform .refusing closing).1 with
  | ok u =>
      rw [outcome] at unclosed
      cases unclosed
  | error error =>
      rw [outcome] at refused
      have intact := failed_calls_intact.1 0 .disconnect closing _ _ refused ⟨error, rfl⟩
      have heeds := failed_calls_intact.2 call up _ _ trivial subscribed
      exact ⟨_, up, closing, _, _, error, call, _, run, pending, refused, intact, known, subscribed,
        trivial, asked, heeds⟩

end DeviceConsole
