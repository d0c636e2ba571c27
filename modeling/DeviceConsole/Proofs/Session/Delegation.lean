import DeviceConsole.Proofs.Session.Operations
import DeviceConsole.Proofs.Session.Quiet

/-!
# What calls of the console ask of connections

A call of the console lets at most one connection do something, by one call of that connection.
Before and after that it works on profiles and references, which is silent and leaves what sessions
depend on alone.  This file defines:

* `Operation.Asks allowed p`: whatever the consoles and the replies, `p` asks for allowed things;
* `Scene.Grows`, what the silent parts of a call may do;
* `Console.Call.Leads`, the call of a connection that a call of the console leads to, and
  `Console.Call.delegates`, which takes the runs of all calls apart accordingly.
-/

namespace DeviceConsole

/-! ## What is said to the transport -/

namespace Operation

variable {α β : Type} {s s' : Scene} {allowed : Request → Prop}

/-- Exchanges are never taken back. -/
theorem Runs.exchanges {p : Operation α} {a : α} (h : p.Runs s a s') :
    ∃ said, s'.exchanges = s.exchanges ++ said := by
  induction h with
  | done a s => exact ⟨[], by simp⟩
  | step _ ih => exact ih
  | @request r next s s' reply a _ _ ih =>
      rcases ih with ⟨said, e⟩
      exact ⟨⟨r, reply⟩ :: said, by simpa [Scene.note] using e⟩

/-- Sessions that an operation opens were not opened before. -/
theorem Runs.unopened {p : Operation α} {a : α} {said : List Exchange} {session : SessionId}
    (h : p.Runs s a s') (e : s'.exchanges = s.exchanges ++ said)
    (opened : session ∈ said.filterMap Exchange.opened?) : session ∉ s.opened := by
  induction h generalizing said with
  | done a s =>
      obtain rfl : said = [] := by simpa using e
      cases opened
  | step _ ih => exact ih e opened
  | @request r next s s' reply a permitted run ih =>
      rcases run.exchanges with ⟨rest, e'⟩
      obtain rfl : said = ⟨r, reply⟩ :: rest := by
        rw [e', Scene.note, List.append_assoc] at e
        exact (List.append_cancel_left e).symm
      intro known
      have later : session ∈ (s.note r reply).opened := by
        rw [Scene.opened_note]
        exact List.mem_append_left _ known
      rw [List.filterMap_cons] at opened
      split at opened
      · exact ih e' opened later
      · next new here =>
          rcases List.mem_cons.1 opened with rfl | opened
          · -- Only a request to open a session gets one, and it is a new one.
            unfold Exchange.opened? at here
            split at here
            · next same =>
                cases same
                cases here
                exact permitted known
            · cases here
          · exact ih e' opened later

/-- Whether an operation asks only for allowed things. -/
def Asks (allowed : Request → Prop) : Operation α → Prop
  | .done _ => True
  | .step _ next => ∀ c, Asks allowed (next c)
  | .request r next => allowed r ∧ ∀ reply, Asks allowed (next reply)

theorem asks_bind {p : Operation α} {f : α → Operation β} (first : p.Asks allowed)
    (rest : ∀ a, (f a).Asks allowed) : Asks allowed (p.bind f) := by
  induction p with
  | done a => exact rest a
  | step change next ih => exact fun c => ih c (first c)
  | request r next ih => exact ⟨first.1, fun reply => ih reply (first.2 reply)⟩

theorem asks_change_bind {update : Console → Console} {f : Unit → Operation β}
    (rest : (f ()).Asks allowed) : Asks allowed ((Program.change update).bind f) := fun _ => rest

theorem asks_look_bind {view : Console → α} {f : α → Operation β}
    (rest : ∀ a, (f a).Asks allowed) : Asks allowed ((Program.look view).bind f) :=
  fun _ => rest _

theorem asks_atomically_bind {act : Console → α × Console} {f : α → Operation β}
    (rest : ∀ a, (f a).Asks allowed) : Asks allowed ((Program.atomically act).bind f) :=
  fun _ => rest _

theorem asks_ask_bind {r : Request} {f : r.Reply → Operation β} (h : allowed r)
    (rest : ∀ reply, (f reply).Asks allowed) : Asks allowed ((Operation.ask r).bind f) := ⟨h, rest⟩

theorem Asks.runs {p : Operation α} {a : α} (h : p.Asks allowed) (run : p.Runs s a s') :
    ∃ said, s'.exchanges = s.exchanges ++ said ∧ ∀ e ∈ said, allowed e.request := by
  induction run with
  | done a s => exact ⟨[], by simp⟩
  | @step change next s s' a _ ih => exact ih (h s.console)
  | @request r next s s' reply a _ _ ih =>
      rcases ih (h.2 reply) with ⟨said, e, each⟩
      refine ⟨⟨r, reply⟩ :: said, by simpa [Scene.note] using e, ?_⟩
      rintro _ (_ | ⟨_, member⟩)
      · exact h.1
      · exact each _ member

def Silent (p : Operation α) : Prop := p.Asks fun _ => False

theorem Silent.exchanges {p : Operation α} {a : α} (h : p.Silent) (run : p.Runs s a s') :
    s'.exchanges = s.exchanges := by
  rcases Asks.runs h run with ⟨said, e, each⟩
  obtain rfl : said = [] := List.eq_nil_iff_forall_not_mem.2 each
  simpa using e

end Operation

open Operation

namespace Console

variable {id : ConnectionId}

theorem silent_getOrCreate {p : Option Profile} : (getOrCreate id p).Silent := by
  refine asks_look_bind ?_
  rintro (_ | i)
  · cases p with
    | none => trivial
    | some p => exact asks_atomically_bind fun _ => trivial
  · trivial

theorem silent_modifyProfile {change : Profile → Profile} : (modifyProfile id change).Silent := by
  refine asks_atomically_bind ?_
  rintro (_ | ⟨p, saved⟩)
  · trivial
  · exact asks_change_bind trivial

theorem silent_select : (select id).Silent := by
  refine asks_bind (asks_look_bind fun _ => silent_getOrCreate) ?_
  rintro (_ | i)
  · trivial
  · exact asks_change_bind trivial

theorem silent_reportAll {success failure : String} {result : Result Unit} :
    (reportAll success failure result).Silent := by
  cases result with
  | ok _ => exact asks_change_bind trivial
  | error error => exact asks_change_bind trivial

end Console

/-! ## The silent parts -/

/-- What the silent parts of a call may do to a scene: connections are made, or taken out of use. -/
structure Scene.Grows (s s' : Scene) : Prop where
  board : s.board.Extends s'.board
  exchanges : s'.exchanges = s.exchanges

namespace Scene.Grows

variable {s m s' : Scene}

theorem refl (s : Scene) : s.Grows s := ⟨.refl _, rfl⟩

theorem trans (first : s.Grows m) (second : m.Grows s') : s.Grows s' :=
  ⟨first.board.trans second.board, second.exchanges.trans first.exchanges⟩

theorem of_board (board : s'.board = s.board) (exchanges : s'.exchanges = s.exchanges) :
    s.Grows s' := by
  refine ⟨?_, exchanges⟩
  rw [board]
  exact .refl _

theorem apply {change : Console → Console}
    (h : (change s.console).board s.opened = s.board) : s.Grows (s.apply change) := .of_board h rfl

end Scene.Grows

namespace Console

variable {s s' : Scene} {id : ConnectionId}

theorem getOrCreate_grows {p : Option Profile} {r : Option ConnectionRef}
    (h : (getOrCreate id p).Runs s r s') : s.Grows s' := by
  refine ⟨?_, silent_getOrCreate.exchanges h⟩
  rcases getOrCreate_runs h with ⟨-, -, -, rfl⟩ | ⟨i, -, finds⟩
  · exact .refl _
  · exact finds.grown

theorem modifyProfile_grows {change : Profile → Profile} {a : Result Unit}
    (h : (modifyProfile id change).Runs s a s') : s.Grows s' :=
  .of_board (modifyProfile_runs h) (silent_modifyProfile.exchanges h)

theorem select_grows {a : Result Unit} (h : (select id).Runs s a s') : s.Grows s' := by
  refine ⟨?_, silent_select.exchanges h⟩
  rcases select_runs h with ⟨-, -, rfl⟩ | ⟨-, i, middle, finds, same⟩
  · exact .refl _
  · rw [same]
    exact finds.grown

theorem reportAll_grows {success failure : String} {result a : Result Unit}
    (h : (reportAll success failure result).Runs s a s') : s.Grows s' :=
  .of_board (reportAll_runs h) (silent_reportAll.exchanges h)

theorem notify_grows {level : NoticeLevel} {text : String} :
    s.Grows (s.apply (·.notify level text)) :=
  .apply (board_notify level text)

/-- A call that needs a connection grows the scene, and is quiet, until it has one. -/
theorem withConnection_grows {α : Type} {act : ConnectionRef → Operation (Result α)} {a : Result α}
    (sound : s.board.Sound) (h : (withConnection id act).Runs s a s') :
    (a = .error (.connectionNotFound id) ∧ s' = s) ∨
    ∃ i m, s.Grows m ∧ s.console.Quiet True m.console ∧ m.board.Sound ∧
      i < m.console.connections.length ∧ (act i).Runs m a s' := by
  simp only [withConnection, resolve, Program.bind_eq, runs_bind_iff, runs_look_iff] at h
  rcases h with ⟨_, m, ⟨_, _, ⟨rfl, rfl⟩, found⟩, h⟩
  have grown := getOrCreate_grows found
  have quiet : Quiet True _ m.console := quiet_getOrCreate.runs found .refl .trans
  rcases getOrCreate_runs found with ⟨rfl, -, -, rfl⟩ | ⟨i, rfl, finds⟩
  · rcases runs_done_iff.1 h with ⟨rfl, rfl⟩
    exact Or.inl ⟨rfl, rfl⟩
  · rcases finds.get? sound with ⟨v, hv, -⟩
    exact Or.inr ⟨i, m, grown, quiet, sound.extends grown.board, (board_get?_iff.1 hv).1, h⟩

end Console

/-! ## Delegation -/

/-- Whether one scene leads to another by silent parts, with at most one call of a connection of the
given kind between them. -/
def Scene.Delegates (s : Scene) (kind : Connection.Call → Prop) (s' : Scene) : Prop :=
  ∃ m, s.Grows m ∧ (s' = m ∨ ∃ (i : ConnectionRef) (call : Connection.Call) (result : call.Result)
    (last : Scene), kind call ∧ i < m.console.connections.length ∧
      (call.program i).Runs m result last ∧ last.Grows s')

namespace Scene.Delegates

variable {s m s' : Scene} {kind : Connection.Call → Prop}

theorem of_grows (h : s.Grows s') : s.Delegates kind s' := ⟨s', h, Or.inl rfl⟩

theorem of_runs {i : ConnectionRef} (call : Connection.Call) {result : call.Result}
    (hi : i < s.console.connections.length) (h : (call.program i).Runs s result m)
    (this : kind call) (grown : m.Grows s') : s.Delegates kind s' :=
  ⟨s, .refl s, Or.inr ⟨i, call, result, m, this, hi, h, grown⟩⟩

theorem of_grown (h : m.Delegates kind s') (grown : s.Grows m) : s.Delegates kind s' := by
  rcases h with ⟨middle, more, h⟩
  exact ⟨middle, grown.trans more, h⟩

theorem grow (h : s.Delegates kind m) (grown : m.Grows s') : s.Delegates kind s' := by
  rcases h with ⟨middle, more, rfl | ⟨i, call, result, last, this, hi, h, later⟩⟩
  · exact .of_grows (more.trans grown)
  · exact ⟨middle, more, Or.inr ⟨i, call, result, last, this, hi, h, later.trans grown⟩⟩

end Scene.Delegates

namespace Console

variable {s s' : Scene} {id : ConnectionId} {kind : Connection.Call → Prop}

theorem withConnection_delegates {α : Type} {act : ConnectionRef → Operation (Result α)}
    {a : Result α} (sound : s.board.Sound) (h : (withConnection id act).Runs s a s')
    (acts : ∀ {i m}, m.board.Sound → i < m.console.connections.length → (act i).Runs m a s' →
      m.Delegates kind s') : s.Delegates kind s' := by
  rcases withConnection_grows sound h with ⟨-, rfl⟩ | ⟨i, m, grown, -, sound, hi, h⟩
  · exact .of_grows (.refl _)
  · exact (acts sound hi h).of_grown grown

theorem locally_delegates {change : ConnectionRef → Console → Console} {a : Result Unit}
    (call : Connection.Call) (this : kind call) (sound : s.board.Sound)
    (h : (locally id change).Runs s a s')
    (same : ∀ i m, ∃ result, (call.program i).Runs m result (m.apply (change i))) :
    s.Delegates kind s' := by
  refine withConnection_delegates sound h ?_
  intro i m _ hi h
  rcases runs_change_done_iff.1 h with ⟨-, rfl⟩
  rcases same i m with ⟨result, run⟩
  exact .of_runs call hi run this (.refl _)

theorem addProfile_grows {fresh : Nat → String} {p : Profile} {a : Result ConnectionId}
    (h : (addProfile id fresh p).Runs s a s') : s.Grows s' := by
  simp only [addProfile, Program.bind_eq, runs_bind_iff, runs_atomically_iff] at h
  rcases h with ⟨_, m, ⟨-, saved⟩, r, last, found, h⟩
  rcases runs_done_iff.1 h with ⟨-, rfl⟩
  have kept : s.Grows m := by
    rw [saved]
    exact .apply rfl
  exact kept.trans (getOrCreate_grows found)

theorem connect_delegates {token : Option String} {a : Result Bool}
    (this : ∀ p, kind (.connect p token)) (sound : s.board.Sound)
    (h : (connect id token).Runs s a s') : s.Delegates kind s' := by
  simp only [connect, Program.bind_eq, runs_look_bind_iff] at h
  split at h
  · rcases runs_done_iff.1 h with ⟨-, rfl⟩
    exact .of_grows (.refl _)
  · simp only [runs_look_bind_iff] at h
    split at h
    · rcases runs_done_iff.1 h with ⟨-, rfl⟩
      exact .of_grows (.refl _)
    · next p _ =>
        exact withConnection_delegates sound h fun _ hi h =>
          .of_runs (.connect p token) hi h (this p) (.refl _)

theorem disconnect_delegates {a : Result Bool} (this : kind .disconnect) (sound : s.board.Sound)
    (h : (disconnect id).Runs s a s') : s.Delegates kind s' := by
  simp only [disconnect, Program.bind_eq, runs_look_bind_iff] at h
  split at h
  · rcases runs_done_iff.1 h with ⟨-, rfl⟩
    exact .of_grows (.refl _)
  · refine withConnection_delegates sound h ?_
    intro i m _ hi h
    simp only [runs_bind_iff] at h
    rcases h with ⟨result, last, closed, h⟩
    refine .of_runs .disconnect hi closed this ?_
    -- What is left is to word the result.
    cases result with
    | error error =>
        rcases runs_done_iff.1 h with ⟨-, rfl⟩
        exact .refl _
    | ok _ =>
        rcases runs_done_iff.1 h with ⟨-, rfl⟩
        exact .refl _

theorem publish_delegates {d : Connection.Draft} {audience : Audience} {a : Result Unit}
    (this : kind (.publish d audience)) (sound : s.board.Sound)
    (h : (publish id d audience).Runs s a s') : s.Delegates kind s' := by
  refine withConnection_delegates sound h ?_
  intro i m _ hi h
  simp only [Program.bind_eq, runs_bind_iff] at h
  rcases h with ⟨result, last, published, h⟩
  refine .of_runs (.publish d audience) hi published this ?_
  cases result with
  | error error =>
      rcases runs_done_iff.1 h with ⟨-, rfl⟩
      exact .refl _
  | ok _ => exact modifyProfile_grows h

theorem subscribe_delegates {fresh : Nat → String} {filters : List FilterRequest}
    {audience : Audience} {a : Result Unit} (this : kind (.subscribe filters audience))
    (sound : s.board.Sound) (h : (subscribe id fresh filters audience).Runs s a s') :
    s.Delegates kind s' := by
  refine withConnection_delegates sound h ?_
  intro i m _ hi h
  simp only [Program.bind_eq, runs_bind_iff] at h
  rcases h with ⟨result, last, subscribed, h⟩
  refine .of_runs (.subscribe filters audience) hi subscribed this ?_
  cases result with
  | error error =>
      rcases runs_done_iff.1 h with ⟨-, rfl⟩
      exact .refl _
  | ok _ =>
      simp only [runs_look_bind_iff] at h
      exact modifyProfile_grows h

theorem subscribeAll_delegates {fresh : Nat → String} {a : Result Unit}
    (this : ∀ filters, kind (.subscribe filters .caller)) (sound : s.board.Sound)
    (h : (subscribeAll id fresh).Runs s a s') : s.Delegates kind s' := by
  refine withConnection_delegates sound h ?_
  intro i m sound _ h
  simp only [Program.bind_eq, runs_look_bind_iff] at h
  split at h
  · rcases runs_done_iff.1 h with ⟨-, rfl⟩
    exact .of_grows (.refl _)
  · simp only [runs_look_bind_iff] at h
    split at h
    · rcases runs_change_done_iff.1 h with ⟨-, rfl⟩
      exact .of_grows notify_grows
    · simp only [runs_bind_iff] at h
      rcases h with ⟨result, last, subscribed, h⟩
      exact (subscribe_delegates (this _) sound subscribed).grow (reportAll_grows h)

theorem unsubscribeAll_delegates {a : Result Unit}
    (this : ∀ filters, kind (.unsubscribe filters .caller)) (sound : s.board.Sound)
    (h : (unsubscribeAll id).Runs s a s') : s.Delegates kind s' := by
  refine withConnection_delegates sound h ?_
  intro i m _ hi h
  simp only [Program.bind_eq, runs_look_bind_iff] at h
  split at h
  · rcases runs_change_done_iff.1 h with ⟨-, rfl⟩
    exact .of_grows notify_grows
  · simp only [runs_bind_iff] at h
    rcases h with ⟨result, last, unsubscribed, h⟩
    exact .of_runs (.unsubscribe _ .caller) hi unsubscribed (this _) (reportAll_grows h)

theorem destroy_delegates {found : Bool} (this : kind .destroy) (sound : s.board.Sound)
    (h : (destroy id).Runs s found s') : s.Delegates kind s' := by
  simp only [destroy, Program.bind_eq, runs_bind_iff, runs_atomically_iff] at h
  rcases h with ⟨_, m, ⟨rfl, retired⟩, h⟩
  have grown : s.Grows m := by
    rw [retired]
    exact ⟨extends_retire _ _, rfl⟩
  -- The id is out of use by now, and the connection it named is destroyed next.
  refine Scene.Delegates.of_grown ?_ grown
  cases used : s.console.current? id with
  | none =>
      rw [used] at h
      rcases runs_done_iff.1 h with ⟨-, rfl⟩
      exact .of_grows (.refl _)
  | some i =>
      rw [used] at h
      simp only [runs_bind_iff, Program.pure_eq, runs_done_iff] at h
      rcases h with ⟨_, last, destroyed, -, rfl⟩
      rcases get?_of_current? sound used with ⟨v, hv⟩
      have hi := (board_get?_iff.1 (grown.board.get?_of_get? hv)).1
      exact .of_runs .destroy hi destroyed this (.refl _)

theorem removeProfile_delegates {a : Result Unit} (this : kind .destroy) (sound : s.board.Sound)
    (h : (removeProfile id).Runs s a s') : s.Delegates kind s' := by
  rcases removeProfile_cases h with
    ⟨-, -, rfl⟩ | ⟨-, dropped, focused, found, drop, moved, destroyed, -⟩
  · exact .of_grows (.refl _)
  · have kept : s.Grows dropped := by
      rw [drop]
      exact .apply rfl
    -- The focus moves while the connection of the removed profile is still there.
    have shown : dropped.Grows focused := by
      unfold Refocuses at moved
      split at moved
      · rw [moved]
        exact .apply (board_setFocus _)
      · exact select_grows moved
    have grown := kept.trans shown
    exact (destroy_delegates this (sound.extends grown.board) destroyed).of_grown grown

end Console

/-- The calls of a connection that a call of the console leads to. -/
def Console.Call.Leads : Console.Call → Connection.Call → Prop
  | .destroy _, .destroy => True
  | .remove _, .destroy => True
  | .connect _ token, .connect _ token' => token' = token
  | .disconnect _, .disconnect => True
  | .publish _ d audience, .publish d' audience' => d' = d ∧ audience' = audience
  | .subscribe _ _ filters audience, .subscribe filters' audience' =>
    filters' = filters ∧ audience' = audience
  | .unsubscribe _ filters audience, .unsubscribe filters' audience' =>
    filters' = filters ∧ audience' = audience
  | .subscribeAll _ _, .subscribe _ audience => audience = .caller
  | .unsubscribeAll _, .unsubscribe _ audience => audience = .caller
  | .clear _, .clear => True
  | .setRenderMode _ mode, .setRenderMode mode' => mode' = mode
  | .forget _ filter, .forget filter' => filter' = filter
  | _, _ => False

open Console in
/-- A call of the console lets at most one connection do something. -/
theorem Console.Call.delegates {call : Console.Call} {result : call.Result} {s s' : Scene}
    (sound : s.board.Sound) (h : call.program.Runs s result s') :
    s.Delegates call.Leads s' := by
  cases call with
  | getOrCreate id p => exact .of_grows (getOrCreate_grows h)
  | destroy id => exact destroy_delegates trivial sound h
  | add id fresh p => exact .of_grows (addProfile_grows h)
  | update p => exact .of_grows (modifyProfile_grows h)
  | remove id => exact removeProfile_delegates trivial sound h
  | select id => exact .of_grows (select_grows h)
  | connect id token => exact connect_delegates (fun _ => rfl) sound h
  | disconnect id => exact disconnect_delegates trivial sound h
  | publish id d audience => exact publish_delegates ⟨rfl, rfl⟩ sound h
  | subscribe id fresh filters audience => exact subscribe_delegates ⟨rfl, rfl⟩ sound h
  | unsubscribe id filters audience =>
      exact withConnection_delegates sound h fun _ hi h =>
        .of_runs (.unsubscribe filters audience) hi h ⟨rfl, rfl⟩ (.refl _)
  | subscribeAll id fresh => exact subscribeAll_delegates (fun _ => rfl) sound h
  | unsubscribeAll id => exact unsubscribeAll_delegates (fun _ => rfl) sound h
  | clear id =>
      exact locally_delegates .clear trivial sound h fun _ _ => ⟨(), runs_change_iff.2 rfl⟩
  | setRenderMode id mode =>
      exact locally_delegates (.setRenderMode mode) rfl sound h fun _ _ =>
        ⟨(), runs_change_iff.2 rfl⟩
  | forget id filter =>
      exact locally_delegates (.forget filter) rfl sound h fun _ _ => ⟨(), runs_change_iff.2 rfl⟩

end DeviceConsole
