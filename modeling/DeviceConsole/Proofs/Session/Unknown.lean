import DeviceConsole.Proofs.Session.Bulk
import DeviceConsole.Proofs.Session.Failures

/-!
# Calls for unknown connections

A call that finds no profile for its id fails with `connectionNotFound`.  Most calls notice this
before they do anything.  Publishing and subscribing notice it in time only if there is no
connection in use for the id either; else the profile is looked for when the broker has been asked.
This file defines:

* `Console.Call.error?`, the failure that a call reports;
* `Console.Call.LooksLate`, the calls that look for the profile once more at the end;
* `Console.Call.Misses`, how a call leaves a scene if it finds no profile, and
  `Scene.Unaffected`, that nothing but what the operator was told has changed;

and shows that calls miss a profile in no other way, `missed_profiles`.
-/

namespace DeviceConsole

open Operation

/-! ## Failures of connections -/

namespace Connection

variable {i : ConnectionRef} {s s' : Scene} {error : ConsoleError} {p : Profile}
  {token : Option String}

theorem closePrevious_error {previous : Option SessionId} {replaced : Option ThingScope}
    (h : (closePrevious i previous replaced).Runs s (.error error) s') : error.IsLocal := by
  cases previous with
  | none => cases (runs_done_iff.1 h).1
  | some session =>
      simp only [closePrevious, Program.bind_eq, runs_bind_iff] at h
      rcases h with ⟨reply, _, -, h⟩
      cases reply with
      | ok _ => cases (runs_change_done_iff.1 h).1
      | error refusal =>
          cases (runs_change_done_iff.1 h).1
          trivial

theorem openSession_error (h : (openSession i p token).Runs s (.error error) s') :
    error.IsLocal := by
  simp only [openSession, Program.bind_eq, runs_bind_iff, runs_atomically_iff, runs_ask_iff] at h
  rcases h with ⟨_, _, -, reply, _, -, h⟩
  rcases Request.open_reply reply with ⟨refusal, rfl⟩ | ⟨session, rfl⟩
  · cases (runs_change_done_iff.1 h).1
    trivial
  · simp only [runs_bind_iff, runs_atomically_iff] at h
    rcases h with ⟨adopted, _, -, h⟩
    cases adopted with
    | true => cases (runs_done_iff.1 h).1
    | false =>
        simp only [Bool.false_eq_true, if_false, runs_bind_iff, Program.pure_eq,
          runs_done_iff] at h
        rcases h with ⟨_, _, -, ⟨⟩, -⟩
        trivial

theorem connect_error (h : (connect i p token).Runs s (.error error) s') : error.IsLocal := by
  simp only [connect, Program.bind_eq, runs_bind_iff, runs_atomically_iff] at h
  rcases h with ⟨begun, _, -, h⟩
  cases begun with
  | destroyed =>
      cases (runs_done_iff.1 h).1
      trivial
  | busy => cases (runs_done_iff.1 h).1
  | ready previous replaced =>
      simp only [runs_bind_iff] at h
      rcases h with ⟨closed, middle, closing, h⟩
      cases closed with
      | error refusal =>
          cases (runs_done_iff.1 h).1
          exact closePrevious_error closing
      | ok _ => exact openSession_error h

theorem disconnect_error (h : (disconnect i).Runs s (.error error) s') : error.IsLocal := by
  simp only [disconnect, Program.bind_eq, runs_bind_iff, runs_atomically_iff] at h
  rcases h with ⟨begun, _, -, h⟩
  cases begun with
  | none => cases (runs_done_iff.1 h).1
  | some held =>
      simp only [runs_bind_iff] at h
      rcases h with ⟨reply, _, -, h⟩
      cases reply with
      | ok _ => cases (runs_change_done_iff.1 h).1
      | error refusal =>
          cases (runs_change_done_iff.1 h).1
          trivial

end Connection

/-! ## What calls report -/

def Console.reported? {α : Type} : Console.Result α → Option ConsoleError
  | .ok _ => none
  | .error error => some error

theorem Console.reported?_eq_some {α : Type} {a : Console.Result α} {error : ConsoleError} :
    Console.reported? a = some error ↔ a = .error error := by
  cases a <;> simp [Console.reported?]

def Console.Call.error? : (call : Console.Call) → call.Result → Option ConsoleError
  | .getOrCreate _ _, _ | .destroy _, _ => none
  | .add _ _ _, a | .update _, a | .remove _, a | .select _, a | .connect _ _, a | .disconnect _, a
  | .publish _ _ _, a | .subscribe _ _ _ _, a | .unsubscribe _ _ _, a | .subscribeAll _ _, a
  | .unsubscribeAll _, a | .clear _, a | .setRenderMode _ _, a | .forget _ _, a =>
    Console.reported? a

/-- Whether a call asks the broker before it looks for the profile. -/
def Console.Call.LooksLate : Console.Call → Prop
  | .publish _ _ _ | .subscribe _ _ _ _ => True
  | _ => False

/-- How a call leaves a scene if it finds no profile for an id. -/
inductive Console.Call.Misses (id : ConnectionId) (s : Scene) : Console.Call → Scene → Prop where
  /-- It finds none before it does anything. -/
  | early (call : Console.Call) :
      (call.LooksLate → s.console.current? id = none) → Misses id s call s
  /-- The message went out over the connection in use. -/
  | published (i : ConnectionRef) (d : Connection.Draft) (audience : Audience) (s' : Scene) :
      s.console.current? id = some i → Connection.Published i d s s' (.ok ()) →
      Misses id s (.publish id d audience) s'
  /-- The filters were granted to the connection in use. -/
  | subscribed (i : ConnectionRef) (fresh : Nat → String) (filters : List FilterRequest)
      (audience : Audience) (s' : Scene) :
      s.console.current? id = some i → Connection.Subscribed i filters s s' (.ok ()) →
      Misses id s (.subscribe id fresh filters audience) s'

/-- Whether at most the operator was told something. -/
structure Scene.Unaffected (s s' : Scene) : Prop where
  profiles : s'.console.profiles = s.console.profiles
  storage : s'.console.storage = s.console.storage
  connections : s'.console.connections = s.console.connections
  current : s'.console.current = s.console.current
  focus : s'.console.focus = s.console.focus
  gate : s'.console.gateHeld = s.console.gateHeld
  bus : s'.console.bus = s.console.bus
  exchanges : s'.exchanges = s.exchanges

theorem Scene.Unaffected.refl (s : Scene) : s.Unaffected s :=
  ⟨rfl, rfl, rfl, rfl, rfl, rfl, rfl, rfl⟩

/-! ## Calls one by one -/

namespace Console

variable {α : Type} {id missed : ConnectionId} {i : ConnectionRef} {s s' : Scene}
  {audience : Audience}

theorem afterSaving_ne_connectionNotFound (saved : Except StorageError Unit) (result : α) :
    afterSaving saved result ≠ .error (.connectionNotFound missed) := by
  cases saved <;> nofun

/-- A call reports that it found no profile only if there was none.  It did nothing then, or it went
on with the connection in use. -/
theorem withConnection_missed {act : ConnectionRef → Operation (Result α)}
    (left : ConnectionRef → Scene → Prop)
    (h : (withConnection id act).Runs s (.error (.connectionNotFound missed)) s')
    (acts : ∀ {i middle}, (act i).Runs middle (.error (.connectionNotFound missed)) s' →
      missed = id ∧ middle.console.profile? id = none ∧ left i middle) :
    missed = id ∧ s.console.profile? id = none ∧
      (s.console.current? id = none ∧ s' = s ∨ ∃ i, s.console.current? id = some i ∧ left i s) := by
  rcases withConnection_cases h with ⟨⟨⟩, unknown, unused, rfl⟩ | ⟨i, middle, found, finds, run⟩
  · exact ⟨rfl, unknown, Or.inl ⟨unused, rfl⟩⟩
  · rcases acts run with ⟨rfl, unknown, -⟩
    have spared : s.console.Spares middle.console := spares_getOrCreate.runs found .refl .trans
    have unknown' : s.console.profile? missed = none := by
      rw [profile?, ← spared.profiles]
      exact unknown
    refine ⟨rfl, unknown', Or.inr ?_⟩
    -- Without a profile no connection is made, so the one that was found was in use before.
    cases used : s.console.current? missed with
    | none =>
        rw [unknown'] at found
        simp only [getOrCreate, Program.bind_eq, runs_look_bind_iff, used] at found
        cases (runs_done_iff.1 found).1
    | some i => exact ⟨i, rfl, (acts (withConnection_used used h)).2.2⟩

/-- A call that finds no profile does nothing if what it goes on with does nothing then. -/
theorem withConnection_missed_early {act : ConnectionRef → Operation (Result α)}
    (h : (withConnection id act).Runs s (.error (.connectionNotFound missed)) s')
    (acts : ∀ {i middle}, (act i).Runs middle (.error (.connectionNotFound missed)) s' →
      missed = id ∧ middle.console.profile? id = none ∧ s' = middle) :
    missed = id ∧ s.console.profile? id = none ∧ s' = s := by
  rcases withConnection_missed (fun _ s => s' = s) h acts with
    ⟨rfl, unknown, ⟨-, rfl⟩ | ⟨_, -, rfl⟩⟩
  · exact ⟨rfl, unknown, rfl⟩
  · exact ⟨rfl, unknown, rfl⟩

theorem locally_missed {change : ConnectionRef → Console → Console}
    (h : (locally id change).Runs s (.error (.connectionNotFound missed)) s') :
    missed = id ∧ s.console.profile? id = none ∧ s' = s :=
  withConnection_missed_early h fun run => nomatch (runs_change_done_iff.1 run).1

theorem modifyProfile_missed {change : Profile → Profile}
    (h : (modifyProfile id change).Runs s (.error (.connectionNotFound missed)) s') :
    missed = id ∧ s.console.profile? id = none ∧ s' = s := by
  rcases modifyProfile_cases h with ⟨⟨⟩, unknown, rfl⟩ | ⟨p, -, saved, -⟩
  · exact ⟨rfl, unknown, rfl⟩
  · exact absurd saved.symm (afterSaving_ne_connectionNotFound _ _)

theorem addProfile_found {fresh : Nat → String} {p : Profile} :
    ¬ (addProfile id fresh p).Runs s (.error (.connectionNotFound missed)) s' := by
  intro h
  simp only [addProfile, Program.bind_eq, runs_bind_iff] at h
  rcases h with ⟨added, _, -, _, _, -, h⟩
  exact afterSaving_ne_connectionNotFound _ _ (runs_done_iff.1 h).1.symm

theorem removeProfile_missed
    (h : (removeProfile id).Runs s (.error (.connectionNotFound missed)) s') :
    missed = id ∧ s.console.profile? id = none ∧ s' = s := by
  rcases removeProfile_cases h with ⟨⟨⟩, unknown, rfl⟩ | ⟨-, _, _, _, -, -, -, saved⟩
  · exact ⟨rfl, unknown, rfl⟩
  · exact absurd saved.symm (afterSaving_ne_connectionNotFound _ _)

theorem select_missed (h : (select id).Runs s (.error (.connectionNotFound missed)) s') :
    missed = id ∧ s.console.profile? id = none ∧ s' = s :=
  withConnection_missed_early h fun run => nomatch (runs_change_done_iff.1 run).1

theorem connect_missed {token : Option String}
    (h : (connect id token).Runs s (.error (.connectionNotFound missed)) s') :
    missed = id ∧ s.console.profile? id = none ∧ s' = s := by
  simp only [connect, Program.bind_eq, runs_look_bind_iff] at h
  split at h
  · cases (runs_done_iff.1 h).1
  · simp only [runs_look_bind_iff] at h
    split at h
    · next unknown =>
        rcases runs_done_iff.1 h with ⟨⟨⟩, rfl⟩
        exact ⟨rfl, unknown, rfl⟩
    · exact withConnection_missed_early h fun run =>
        absurd rfl ((Connection.connect_error run).ne_connectionNotFound _)

theorem disconnect_missed
    (h : (disconnect id).Runs s (.error (.connectionNotFound missed)) s') :
    missed = id ∧ s.console.profile? id = none ∧ s' = s := by
  simp only [disconnect, Program.bind_eq, runs_look_bind_iff] at h
  split at h
  · cases (runs_done_iff.1 h).1
  · refine withConnection_missed_early h fun run => ?_
    simp only [runs_bind_iff] at run
    rcases run with ⟨closed, _, closing, rest⟩
    cases closed with
    | error error =>
        cases (runs_done_iff.1 rest).1
        exact absurd rfl ((Connection.disconnect_error closing).ne_connectionNotFound _)
    | ok _ => cases (runs_done_iff.1 rest).1

/-! ### Messages and filters -/

/-- A message is published before the profile is looked for again. -/
theorem publish_missed {d : Connection.Draft}
    (h : (publish id d audience).Runs s (.error (.connectionNotFound missed)) s') :
    missed = id ∧ s.console.profile? id = none ∧
      (s.console.current? id = none ∧ s' = s ∨
        ∃ i, s.console.current? id = some i ∧ Connection.Published i d s s' (.ok ())) := by
  refine withConnection_missed (fun i s => Connection.Published i d s s' (.ok ())) h ?_
  intro i middle run
  simp only [Program.bind_eq, runs_bind_iff] at run
  rcases run with ⟨sent, last, sending, rest⟩
  cases sent with
  | error error =>
      cases (runs_done_iff.1 rest).1
      exact absurd rfl ((Connection.publish_error sending).ne_connectionNotFound _)
  | ok _ =>
      rcases modifyProfile_missed rest with ⟨rfl, unknown, rfl⟩
      have spared := Connection.spares_publish.runs sending .refl .trans
      rw [profile?, spared.profiles] at unknown
      exact ⟨rfl, unknown, Connection.publish_published sending⟩

/-- Filters are subscribed before the profile is looked for again. -/
theorem subscribe_missed {fresh : Nat → String} {filters : List FilterRequest}
    (h : (subscribe id fresh filters audience).Runs s (.error (.connectionNotFound missed)) s') :
    missed = id ∧ s.console.profile? id = none ∧
      (s.console.current? id = none ∧ s' = s ∨
        ∃ i, s.console.current? id = some i ∧ Connection.Subscribed i filters s s' (.ok ())) := by
  refine withConnection_missed
    (fun i s => Connection.Subscribed i filters s s' (.ok ())) h ?_
  intro i middle run
  simp only [Program.bind_eq, runs_bind_iff] at run
  rcases run with ⟨granted, last, asking, rest⟩
  cases granted with
  | error error =>
      cases (runs_done_iff.1 rest).1
      exact absurd rfl ((Connection.subscribe_error asking).ne_connectionNotFound _)
  | ok _ =>
      simp only [runs_look_bind_iff] at rest
      rcases modifyProfile_missed rest with ⟨rfl, unknown, rfl⟩
      have spared := Connection.spares_subscribe.runs asking .refl .trans
      rw [profile?, spared.profiles] at unknown
      exact ⟨rfl, unknown, Connection.subscribe_subscribed asking⟩

/-- Subscribing all filters looks for the profile first, since that says which filters these are. -/
theorem subscribeAll_missed {fresh : Nat → String}
    (h : (subscribeAll id fresh).Runs s (.error (.connectionNotFound missed)) s') :
    missed = id ∧ s.console.profile? id = none ∧ s' = s := by
  refine withConnection_missed_early h fun run => ?_
  simp only [Program.bind_eq, runs_look_bind_iff] at run
  split at run
  · next unknown =>
      rcases runs_done_iff.1 run with ⟨⟨⟩, rfl⟩
      exact ⟨rfl, unknown, rfl⟩
  · next p known =>
      simp only [runs_look_bind_iff] at run
      split at run
      · cases (runs_change_done_iff.1 run).1
      · simp only [runs_bind_iff] at run
        rcases run with ⟨granted, last, asking, reported⟩
        obtain rfl := reportAll_result reported
        rw [(subscribe_missed asking).2.1] at known
        cases known

theorem unsubscribe_missed {filters : List String}
    (h : (unsubscribe id filters audience).Runs s (.error (.connectionNotFound missed)) s') :
    missed = id ∧ s.console.profile? id = none ∧ s' = s :=
  withConnection_missed_early h fun run =>
    absurd rfl ((Connection.unsubscribe_error run).ne_connectionNotFound _)

theorem unsubscribeAll_missed
    (h : (unsubscribeAll id).Runs s (.error (.connectionNotFound missed)) s') :
    missed = id ∧ s.console.profile? id = none ∧ s' = s := by
  refine withConnection_missed_early h fun run => ?_
  simp only [Program.bind_eq, runs_look_bind_iff] at run
  split at run
  · cases (runs_change_done_iff.1 run).1
  · simp only [runs_bind_iff] at run
    rcases run with ⟨revoked, last, asking, reported⟩
    obtain rfl := reportAll_result reported
    exact absurd rfl ((Connection.unsubscribe_error asking).ne_connectionNotFound _)

end Console

/-! ## All calls -/

open Console in
/-- A call that reports that it found no profile is about its id, and there is none. -/
theorem Console.Call.misses {call : Console.Call} {result : call.Result} {s s' : Scene}
    {id : ConnectionId} (run : call.program.Runs s result s')
    (failed : call.error? result = some (.connectionNotFound id)) :
    id = call.subject ∧ s.console.profile? id = none ∧ call.Misses id s s' := by
  have early (h : id = call.subject ∧ s.console.profile? call.subject = none ∧ s' = s)
      (first : ¬ call.LooksLate) :
      id = call.subject ∧ s.console.profile? id = none ∧ call.Misses id s s' := by
    rcases h with ⟨same, unknown, rfl⟩
    rw [same]
    exact ⟨rfl, unknown, .early call fun late => absurd late first⟩
  cases call with
  | getOrCreate | destroy => cases failed
  | add id' fresh p =>
      rw [reported?_eq_some.1 failed] at run
      exact absurd run addProfile_found
  | update p =>
      rw [reported?_eq_some.1 failed] at run
      exact early (modifyProfile_missed run) not_false
  | remove id' =>
      rw [reported?_eq_some.1 failed] at run
      exact early (removeProfile_missed run) not_false
  | select id' =>
      rw [reported?_eq_some.1 failed] at run
      exact early (select_missed run) not_false
  | connect id' token =>
      rw [reported?_eq_some.1 failed] at run
      exact early (connect_missed run) not_false
  | disconnect id' =>
      rw [reported?_eq_some.1 failed] at run
      exact early (disconnect_missed run) not_false
  | unsubscribe id' filters audience =>
      rw [reported?_eq_some.1 failed] at run
      exact early (unsubscribe_missed run) not_false
  | subscribeAll id' fresh =>
      rw [reported?_eq_some.1 failed] at run
      exact early (subscribeAll_missed run) not_false
  | unsubscribeAll id' =>
      rw [reported?_eq_some.1 failed] at run
      exact early (unsubscribeAll_missed run) not_false
  | clear id' =>
      rw [reported?_eq_some.1 failed] at run
      exact early (locally_missed run) not_false
  | setRenderMode id' mode =>
      rw [reported?_eq_some.1 failed] at run
      exact early (locally_missed run) not_false
  | forget id' filter =>
      rw [reported?_eq_some.1 failed] at run
      exact early (locally_missed run) not_false
  | publish id' d audience =>
      rw [reported?_eq_some.1 failed] at run
      rcases publish_missed run with ⟨rfl, unknown, ⟨unused, rfl⟩ | ⟨i, used, published⟩⟩
      · exact ⟨rfl, unknown, .early _ fun _ => unused⟩
      · exact ⟨rfl, unknown, .published i d audience s' used published⟩
  | subscribe id' fresh filters audience =>
      rw [reported?_eq_some.1 failed] at run
      rcases subscribe_missed run with ⟨rfl, unknown, ⟨unused, rfl⟩ | ⟨i, used, subscribed⟩⟩
      · exact ⟨rfl, unknown, .early _ fun _ => unused⟩
      · exact ⟨rfl, unknown, .subscribed i fresh filters audience s' used subscribed⟩

/-- Profiles, their text, the focus and the gate are as before in any case. -/
theorem Console.Call.Misses.kept {id : ConnectionId} {s s' : Scene} {call : Console.Call}
    (h : call.Misses id s s') :
    s'.console.profiles = s.console.profiles ∧ s'.console.storage = s.console.storage ∧
      s'.console.focus = s.console.focus ∧ s'.console.gateHeld = s.console.gateHeld := by
  cases h with
  | early => exact ⟨rfl, rfl, rfl, rfl⟩
  | published i d audience s' used published =>
      cases published with
      | sent _ _ _ _ sent =>
          rcases sent.rest with ⟨notices, rest⟩
          rw [rest]
          exact ⟨rfl, rfl, rfl, rfl⟩
  | subscribed i fresh filters audience s' used subscribed =>
      cases subscribed with
      | granted _ _ _ _ _ marks =>
          rcases marks with ⟨notices, marked⟩
          rw [marked]
          exact ⟨rfl, rfl, rfl, rfl⟩

/-- Nothing has changed exactly if the profile was looked for in time. -/
theorem Console.Call.Misses.unaffected_iff {id : ConnectionId} {s s' : Scene}
    {call : Console.Call} (h : call.Misses id s s') :
    s.Unaffected s' ↔ (call.LooksLate → s.console.current? id = none) := by
  have late {i : ConnectionRef} {e : Exchange} (looks : call.LooksLate)
      (used : s.console.current? id = some i) (said : s'.exchanges = s.exchanges ++ [e]) :
      s.Unaffected s' ↔ (call.LooksLate → s.console.current? id = none) := by
    refine iff_of_false (fun same => ?_) fun inTime => ?_
    · have more := congrArg List.length (said.symm.trans same.exchanges)
      simp at more
    · rw [inTime looks] at used
      cases used
  cases h with
  | early _ inTime => exact iff_of_true (.refl s) inTime
  | published i d audience s' used published =>
      cases published with
      | sent _ _ _ said _ => exact late trivial used said
  | subscribed i fresh filters audience s' used subscribed =>
      cases subscribed with
      | granted _ _ _ _ said _ => exact late trivial used said

/-- A call that finds no profile for its id leaves profiles, their text, the focus and the gate as
they were.  It leaves everything as it was, and asks for nothing, exactly if it looks for the
profile in time, or there is no connection in use for the id; else it has published its message, or
subscribed its filters, by then. -/
theorem missed_profiles {call : Console.Call} {result : call.Result} {s s' : Scene}
    {id : ConnectionId} (run : call.program.Runs s result s')
    (failed : call.error? result = some (.connectionNotFound id)) :
    id = call.subject ∧ s.console.profile? id = none ∧ call.Misses id s s' ∧
      s'.console.profiles = s.console.profiles ∧ s'.console.storage = s.console.storage ∧
      s'.console.focus = s.console.focus ∧ s'.console.gateHeld = s.console.gateHeld ∧
      (s.Unaffected s' ↔ (call.LooksLate → s.console.current? id = none)) := by
  rcases Console.Call.misses run failed with ⟨about, unknown, misses⟩
  rcases misses.kept with ⟨profiles, storage, focus, gate⟩
  exact ⟨about, unknown, misses, profiles, storage, focus, gate, misses.unaffected_iff⟩

/-- A connection was made for an id without a profile, and is up.  The filter that a call for it
subscribes is active although the call fails. -/
theorem missed_profiles_of_subscription :
    ∃ (transitions : List Transition) (s s' : Scene) (call : Console.Call) (result : call.Result),
      Run .blank transitions s ∧ s.console.current? ⟨0⟩ = some 0 ∧
      call.program.Runs s result s' ∧ call.error? result = some (.connectionNotFound ⟨0⟩) ∧
      s.console.profile? ⟨0⟩ = none ∧ call.Misses ⟨0⟩ s s' ∧
      s'.console.profiles = s.console.profiles ∧ s'.console.storage = s.console.storage ∧
      s'.console.focus = s.console.focus ∧ s'.console.gateHeld = s.console.gateHeld ∧
      ¬ s.Unaffected s' ∧ (s'.console.connection 0).snapshot.active = ["t"] := by
  let p := Profile.default ⟨0⟩
  let opening : List Action :=
    [.call (.getOrCreate ⟨0⟩ (some p)), .direct 0 (.connect p none), .event 0 0 .connected]
  let s := (Scene.blank.play .obliging opening).2
  have run : Run .blank _ s :=
    Run.play Responder.fair_obliging .start (by decide : Scene.blank.Playable .obliging opening)
  let call : Console.Call := .subscribe ⟨0⟩ (fun _ => "") [("t", .default)] .operator
  let outcome := call.program.perform .obliging s
  have ends : call.program.Runs s outcome.1 outcome.2 :=
    runs_perform Responder.fair_obliging call.program s
  have failed : call.error? outcome.1 = some (.connectionNotFound ⟨0⟩) := by decide
  have used : s.console.current? ⟨0⟩ = some 0 := by decide
  rcases missed_profiles ends failed with
    ⟨-, unknown, misses, profiles, storage, focus, gate, unaffected⟩
  have affected : ¬ s.Unaffected outcome.2 := by
    intro same
    rw [unaffected.1 same trivial] at used
    cases used
  exact ⟨_, s, outcome.2, call, outcome.1, run, used, ends, failed, unknown, misses, profiles,
    storage, focus, gate, affected, by decide⟩

/-- A message goes out, and is logged, by a call that reports that there is no such connection. -/
theorem message_to_missed_profile :
    ∃ (transitions : List Transition) (s s' : Scene) (call : Console.Call) (result : call.Result),
      Run .blank transitions s ∧ call.program.Runs s result s' ∧
      call.error? result = some (.connectionNotFound ⟨0⟩) ∧ ¬ s.Unaffected s' ∧
      (s'.exchanges.drop s.exchanges.length).map (·.request) =
        [.publish 0 "t" [104, 105] ⟨.atLeastOnce, false, none⟩] ∧
      (s.console.connection 0).snapshot.messages = [] ∧
      (s'.console.connection 0).snapshot.messages.map (·.direction) = [.outbound] := by
  let p := Profile.default ⟨0⟩
  let opening : List Action :=
    [.call (.getOrCreate ⟨0⟩ (some p)), .direct 0 (.connect p none), .event 0 0 .connected]
  let s := (Scene.blank.play .obliging opening).2
  have run : Run .blank _ s :=
    Run.play Responder.fair_obliging .start (by decide : Scene.blank.Playable .obliging opening)
  let d : Connection.Draft := ⟨"t", "hi", .plaintext, ⟨.atLeastOnce, false, none⟩⟩
  let call : Console.Call := .publish ⟨0⟩ d .operator
  let outcome := call.program.perform .obliging s
  have ends : call.program.Runs s outcome.1 outcome.2 :=
    runs_perform Responder.fair_obliging call.program s
  have said : outcome.2.exchanges.length = s.exchanges.length + 1 := by decide
  have affected : ¬ s.Unaffected outcome.2 := by
    intro same
    rw [same.exchanges] at said
    omega
  exact ⟨_, s, outcome.2, call, outcome.1, run, ends, by decide, affected, by decide, by decide,
    by decide⟩

end DeviceConsole
