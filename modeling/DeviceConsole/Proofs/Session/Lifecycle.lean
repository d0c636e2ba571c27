import DeviceConsole.Proofs.Session.Board

/-!
# What opening and closing do to a board

Each small change of the lifecycle has one lemma, which says what it does to the vitals of its
connection.  From these the runs of whole programs follow:

* `Connection.connect_runs` and `Connection.connect_runs_of_held`;
* `Connection.disconnect_runs`;
* `Connection.destroy_runs`.
-/

namespace DeviceConsole

open Operation

theorem Request.open_reply {options : ClientOptions} (reply : Request.Reply (.open options)) :
    (∃ error, reply = .error error) ∨ ∃ session : SessionId, reply = .ok session := by
  cases reply with
  | error error => exact Or.inl ⟨error, rfl⟩
  | ok session => exact Or.inr ⟨session, rfl⟩

namespace Connection

variable {i : ConnectionRef} {v : Vitals} {c : Console} {opened : List SessionId} {s s' : Scene}

/-! ## Connecting -/

theorem beginConnect_cases (i : ConnectionRef) (c : Console) :
    ((c.connection i).destroyed = true ∧ beginConnect i c = (.destroyed, c)) ∨
    (c.gateHeld = true ∧ beginConnect i c = (.busy, c)) ∨
    ((c.connection i).destroyed = false ∧ c.gateHeld = false ∧ ∃ replaced,
      beginConnect i c = (.ready (c.connection i).session replaced,
        c.holdGate.update i fun connection => { connection with session := none })) := by
  cases dead : (c.connection i).destroyed with
  | true => exact Or.inl ⟨rfl, by simp [beginConnect, dead]⟩
  | false =>
      cases held : c.gateHeld with
      | true => exact Or.inr (Or.inl ⟨rfl, by simp [beginConnect, dead, held]⟩)
      | false =>
          refine Or.inr (Or.inr ⟨rfl, rfl, ?_⟩)
          simp [beginConnect, dead, held]

theorem board_restoreSession {session : SessionId} (hv : (c.board opened).vitals[i]? = some v)
    (taken : v.session = none) :
    (restoreSession i session c).board opened =
      ((c.board opened).put i { v with session := some session }).setGate false := by
  rcases Console.board_get?_iff.1 hv with ⟨-, rfl⟩
  have none : (c.connection i).session = none := taken
  simp [restoreSession, none, Connection.vitals]

theorem board_prepare {p : Profile} {token : Option String}
    (hv : (c.board opened).vitals[i]? = some v) :
    (prepare i p token c).2.board opened =
      (c.board opened).put i
        { v with retryCount := 0, live := .empty, status := .connecting } := by
  rcases Console.board_get?_iff.1 hv with ⟨-, rfl⟩
  exact Console.board_update i _

theorem board_failOpen {error : TransportError} (hv : (c.board opened).vitals[i]? = some v) :
    (failOpen i error c).board opened =
      ((c.board opened).put i { v with status := .disconnected }).setGate false := by
  rcases Console.board_get?_iff.1 hv with ⟨-, rfl⟩
  simp only [failOpen, Console.board_notify, Console.board_releaseGate, Console.board_present]
  rfl

theorem adopt_spec (session : SessionId) (hv : (c.board opened).vitals[i]? = some v)
    (alive : v.destroyed = false) :
    (adopt i session c).1 = true ∧
      (adopt i session c).2.board (opened ++ [session]) =
        ((c.board opened).put i { v with session := some session }).enroll session i := by
  rcases Console.board_get?_iff.1 hv with ⟨-, rfl⟩
  have going : (c.connection i).destroyed = false := alive
  rw [adopt, going, if_neg Bool.false_ne_true]
  refine ⟨rfl, ?_⟩
  exact congrArg (fun b : Board => b.enroll session i) (Console.board_update i _)

/-- A connect closes the session it replaces, or gives it back. -/
theorem closePrevious_runs {previous : Option SessionId} {replaced : Option ThingScope}
    {a : Except ConsoleError Unit} (hv : s.board.vitals[i]? = some v) (taken : v.session = none)
    (h : (closePrevious i previous replaced).Runs s a s') :
    (a = .ok () ∧ s'.board = s.board) ∨
    (∃ error, a = .error error ∧
      s'.board = (s.board.put i { v with session := previous }).setGate false) := by
  cases previous with
  | none =>
      simp only [closePrevious, Program.pure_eq, runs_done_iff] at h
      rcases h with ⟨rfl, rfl⟩
      exact Or.inl ⟨rfl, rfl⟩
  | some session =>
      simp only [closePrevious, Program.bind_eq, runs_bind_iff, runs_ask_iff] at h
      rcases h with ⟨reply, _, ⟨-, rfl⟩, h⟩
      cases reply with
      | error error =>
          -- The session was taken before, so it comes back to a connection without one.
          rcases runs_change_done_iff.1 h with ⟨rfl, rfl⟩
          refine Or.inr ⟨_, rfl, ?_⟩
          simpa using board_restoreSession hv taken
      | ok _ =>
          rcases runs_change_done_iff.1 h with ⟨rfl, rfl⟩
          refine Or.inl ⟨rfl, ?_⟩
          cases replaced <;> simp

/-- A connection takes over a new session, or is left without one. -/
theorem openSession_runs {p : Profile} {token : Option String} {a : Except ConsoleError Bool}
    (hv : s.board.vitals[i]? = some v) (alive : v.destroyed = false)
    (h : (openSession i p token).Runs s a s') :
    (∃ session, a = .ok true ∧ session ∉ s.board.opened ∧
      s'.board = (s.board.put i (v.connecting session)).enroll session i) ∨
    (∃ error, a = .error error ∧
      s'.board = (s.board.put i
        { v with status := .disconnected, retryCount := 0, live := .empty }).setGate false) := by
  simp only [openSession, Program.bind_eq, runs_bind_iff, runs_atomically_iff, runs_ask_iff] at h
  rcases h with ⟨options, _, ⟨rfl, rfl⟩, reply, _, ⟨fresh, rfl⟩, h⟩
  have prepared : ((prepare i p token s.console).2.board s.opened).vitals[i]? =
      some { v with retryCount := 0, live := .empty, status := .connecting } := by
    rw [board_prepare hv]
    exact Board.get?_put_self hv
  rcases Request.open_reply reply with ⟨error, rfl⟩ | ⟨session, rfl⟩
  · rcases runs_change_done_iff.1 h with ⟨rfl, rfl⟩
    refine Or.inr ⟨_, rfl, ?_⟩
    simp [board_failOpen prepared, board_prepare hv]
  · -- Nothing else ran since the request, so the connection was not destroyed meanwhile.
    simp only [runs_bind_iff, runs_atomically_iff] at h
    rcases h with ⟨adopted, _, ⟨taken, rfl⟩, h⟩
    rcases adopt_spec session prepared alive with ⟨yes, after⟩
    obtain rfl : adopted = true := taken.trans yes
    simp only [if_true, Program.pure_eq, runs_done_iff] at h
    rcases h with ⟨rfl, rfl⟩
    refine Or.inl ⟨session, rfl, fresh, ?_⟩
    simp only [Scene.board_apply, Scene.console_note, Scene.console_apply, Scene.opened_note,
      Scene.opened_apply, Exchange.opened?_ok, Option.toList_some]
    rw [after, board_prepare hv, Board.put_put]
    rfl

/-- A connect begins an attempt, or leaves at most its own connection without a session. -/
theorem connect_runs {p : Profile} {token : Option String} {a : Except ConsoleError Bool}
    (hv : s.board.vitals[i]? = some v) (h : (connect i p token).Runs s a s') :
    (a = .ok true ∧ s.board.Move [.began i] s'.board) ∨
    (a ≠ .ok true ∧ s.board.Move [] s'.board) := by
  simp only [connect, Program.bind_eq, runs_bind_iff, runs_atomically_iff] at h
  rcases h with ⟨_, middle, ⟨rfl, begun⟩, h⟩
  rcases beginConnect_cases i s.console with ⟨-, e⟩ | ⟨-, e⟩ | ⟨alive, free, replaced, e⟩
  · rw [e] at h begun
    rcases runs_done_iff.1 h with ⟨rfl, rfl⟩
    refine Or.inr ⟨by simp, ?_⟩
    rw [begun]
    exact .idle
  · rw [e] at h begun
    rcases runs_done_iff.1 h with ⟨rfl, rfl⟩
    refine Or.inr ⟨by simp, ?_⟩
    rw [begun]
    exact .idle
  · -- The gate is taken and the session put aside; what happens to the session decides the rest.
    rw [e] at h begun
    rcases Console.board_get?_iff.1 hv with ⟨-, same⟩
    have going : v.destroyed = false := by
      rw [same]
      exact alive
    have board : middle.board = (s.board.put i { v with session := none }).setGate true := by
      rw [begun, same]
      exact Console.board_update i _
    have hv' : middle.board.vitals[i]? = some { v with session := none } := by
      rw [board]
      exact Board.get?_put_self hv
    simp only [runs_bind_iff] at h
    rcases h with ⟨_, closed, closing, h⟩
    rcases closePrevious_runs hv' rfl closing with ⟨rfl, kept⟩ | ⟨error, rfl, restored⟩
    · rw [← kept] at hv'
      rcases openSession_runs hv' going h with ⟨session, rfl, fresh, after⟩ | ⟨error, rfl, after⟩
      · have opened : s'.board =
            ((s.board.put i (v.connecting session)).setGate true).enroll session i := by
          rw [after, kept, board, Board.put_setGate, Board.put_put]
          rfl
        rw [kept, board] at fresh
        refine Or.inl ⟨rfl, ?_⟩
        rw [opened]
        exact .opened hv going free fresh
      · -- The gate was open before, so its release leaves no trace on the board.
        have unopened : s'.board = s.board.put i v.unopened := by
          calc
            s'.board = ((s.board.put i v.unopened).setGate true).setGate false := by
              rw [after, kept, board, Board.put_setGate, Board.put_put]
              rfl
            _ = (s.board.put i v.unopened).setGate false := Board.setGate_setGate _ _ _
            _ = s.board.put i v.unopened := Board.setGate_eq_self free
        refine Or.inr ⟨by simp, ?_⟩
        rw [unopened]
        exact .unopened hv going free
    · rcases runs_done_iff.1 h with ⟨rfl, rfl⟩
      have back : ({ v with session := (s.console.connection i).session } : Vitals) = v := by
        rw [same]
        rfl
      have unchanged : s'.board = s.board := by
        calc
          s'.board = ((s.board.put i v).setGate true).setGate false := by
            rw [restored, board, Board.put_setGate, Board.put_put, back]
          _ = s.board.setGate false := by
            rw [Board.put_eq_self hv, Board.setGate_setGate]
          _ = s.board := Board.setGate_eq_self free
      refine Or.inr ⟨by simp, ?_⟩
      rw [unchanged]
      exact .idle

/-- While the gate is held, a connect changes nothing. -/
theorem connect_runs_of_held {p : Profile} {token : Option String} {a : Except ConsoleError Bool}
    (held : s.console.gateHeld = true) (h : (connect i p token).Runs s a s') :
    (a = .ok false ∨ a = .error .destroyed) ∧ s' = s := by
  simp only [connect, Program.bind_eq, runs_bind_iff, runs_atomically_iff] at h
  rcases h with ⟨_, middle, ⟨rfl, begun⟩, h⟩
  rcases beginConnect_cases i s.console with ⟨-, e⟩ | ⟨-, e⟩ | ⟨-, free, -⟩
  · rw [e] at h begun
    rcases runs_done_iff.1 h with ⟨rfl, rfl⟩
    exact ⟨Or.inr rfl, begun⟩
  · rw [e] at h begun
    rcases runs_done_iff.1 h with ⟨rfl, rfl⟩
    exact ⟨Or.inl rfl, begun⟩
  · simp [held] at free

/-! ## What a connect says -/

/-- A connect asks at most to close the session that it replaces, before it goes on. -/
theorem closePrevious_said {previous : Option SessionId} {replaced : Option ThingScope}
    {a : Except ConsoleError Unit} (h : (closePrevious i previous replaced).Runs s a s') :
    ∃ said, s'.exchanges = s.exchanges ++ said ∧
      ∀ session, ⟨.close session, .ok ()⟩ ∈ said → previous = some session ∧ a = .ok () := by
  cases previous with
  | none =>
      simp only [closePrevious, Program.pure_eq, runs_done_iff] at h
      rcases h with ⟨-, rfl⟩
      exact ⟨[], by simp, by simp⟩
  | some held =>
      simp only [closePrevious, Program.bind_eq, runs_bind_iff, runs_ask_iff] at h
      rcases h with ⟨reply, _, ⟨-, rfl⟩, h⟩
      refine ⟨[⟨.close held, reply⟩], ?_⟩
      cases reply with
      | error error =>
          rcases runs_change_done_iff.1 h with ⟨-, rfl⟩
          refine ⟨rfl, ?_⟩
          intro session member
          cases List.mem_singleton.1 member
      | ok _ =>
          rcases runs_change_done_iff.1 h with ⟨rfl, rfl⟩
          refine ⟨rfl, ?_⟩
          intro session member
          cases List.mem_singleton.1 member
          exact ⟨rfl, rfl⟩

/-- After that it closes nothing: the connection is still there to take the new session. -/
theorem openSession_said {p : Profile} {token : Option String} {a : Except ConsoleError Bool}
    (hv : s.board.vitals[i]? = some v) (alive : v.destroyed = false)
    (h : (openSession i p token).Runs s a s') :
    ∃ said, s'.exchanges = s.exchanges ++ said ∧ ∀ session, ⟨.close session, .ok ()⟩ ∉ said := by
  simp only [openSession, Program.bind_eq, runs_bind_iff, runs_atomically_iff, runs_ask_iff] at h
  rcases h with ⟨options, _, ⟨-, rfl⟩, reply, _, ⟨-, rfl⟩, h⟩
  have prepared : ((prepare i p token s.console).2.board s.opened).vitals[i]? =
      some { v with retryCount := 0, live := .empty, status := .connecting } := by
    rw [board_prepare hv]
    exact Board.get?_put_self hv
  refine ⟨[⟨.open options, reply⟩], ?_, by simp⟩
  rcases Request.open_reply reply with ⟨error, rfl⟩ | ⟨session, rfl⟩
  · rcases runs_change_done_iff.1 h with ⟨-, rfl⟩
    rfl
  · simp only [runs_bind_iff, runs_atomically_iff] at h
    rcases h with ⟨adopted, _, ⟨taken, rfl⟩, h⟩
    obtain rfl : adopted = true := taken.trans (adopt_spec session prepared alive).1
    simp only [if_true, Program.pure_eq, runs_done_iff] at h
    rcases h with ⟨-, rfl⟩
    rfl

/-- Either a connect leaves the board alone and has closed nothing, or its connection is left with
at most a new session, and no other session was closed than the one it held. -/
theorem connect_outcome {p : Profile} {token : Option String} {a : Except ConsoleError Bool}
    (hv : s.board.vitals[i]? = some v) (h : (connect i p token).Runs s a s') :
    ∃ said, s'.exchanges = s.exchanges ++ said ∧
      ((s'.board = s.board ∧ ∀ session, ⟨.close session, .ok ()⟩ ∉ said) ∨
        ((∀ session, ⟨.close session, .ok ()⟩ ∈ said → v.session = some session) ∧
          ∃ w, s'.board.vitals = s.board.vitals.set i w ∧ w.live = .empty ∧
            ∀ session, w.session = some session → session ∉ s.board.opened)) := by
  simp only [connect, Program.bind_eq, runs_bind_iff, runs_atomically_iff] at h
  rcases h with ⟨_, middle, ⟨rfl, begun⟩, h⟩
  rcases beginConnect_cases i s.console with ⟨-, e⟩ | ⟨-, e⟩ | ⟨alive, free, replaced, e⟩
  · rw [e] at h begun
    rcases runs_done_iff.1 h with ⟨-, rfl⟩
    rw [begun]
    exact ⟨[], by simp [Scene.apply], Or.inl ⟨rfl, by simp⟩⟩
  · rw [e] at h begun
    rcases runs_done_iff.1 h with ⟨-, rfl⟩
    rw [begun]
    exact ⟨[], by simp [Scene.apply], Or.inl ⟨rfl, by simp⟩⟩
  · rw [e] at h begun
    rcases Console.board_get?_iff.1 hv with ⟨-, same⟩
    have going : v.destroyed = false := by
      rw [same]
      exact alive
    have board : middle.board = (s.board.put i { v with session := none }).setGate true := by
      rw [begun, same]
      exact Console.board_update i _
    have hv' : middle.board.vitals[i]? = some { v with session := none } := by
      rw [board]
      exact Board.get?_put_self hv
    have unsaid : middle.exchanges = s.exchanges := by
      rw [begun]
      rfl
    simp only [runs_bind_iff] at h
    rcases h with ⟨_, closed, closing, h⟩
    rcases closePrevious_said closing with ⟨first, said, closes⟩
    rw [unsaid] at said
    have own : ∀ session, ⟨.close session, .ok ()⟩ ∈ first → v.session = some session := by
      intro session member
      rw [same]
      exact (closes session member).1
    rcases closePrevious_runs hv' rfl closing with ⟨rfl, kept⟩ | ⟨error, rfl, restored⟩
    · rw [← kept] at hv'
      rcases openSession_said hv' going h with ⟨second, said', closesNone⟩
      refine ⟨first ++ second, by rw [said', said, List.append_assoc], Or.inr ⟨?_, ?_⟩⟩
      · intro session member
        rcases List.mem_append.1 member with member | member
        · exact own session member
        · exact absurd member (closesNone session)
      · have vitals : closed.board.vitals = s.board.vitals.set i { v with session := none } := by
          rw [kept, board]
          rfl
        have opened : closed.board.opened = s.board.opened := by
          rw [kept, board]
          rfl
        rcases openSession_runs hv' going h with ⟨session, -, fresh, after⟩ | ⟨error, -, after⟩
        · refine ⟨v.connecting session, ?_, rfl, ?_⟩
          · rw [after]
            simp [Board.enroll, Board.put, vitals, Vitals.connecting]
          · rintro _ ⟨⟩
            rwa [opened] at fresh
        · refine ⟨v.unopened, ?_, rfl, fun _ taken => by cases taken⟩
          rw [after]
          simp [Board.setGate, Board.put, vitals, Vitals.unopened]
    · rcases runs_done_iff.1 h with ⟨-, rfl⟩
      have back : ({ v with session := (s.console.connection i).session } : Vitals) = v := by
        rw [same]
        rfl
      have unchanged : s'.board = s.board := by
        calc
          s'.board = ((s.board.put i v).setGate true).setGate false := by
            rw [restored, board, Board.put_setGate, Board.put_put, back]
          _ = s.board := by
            rw [Board.put_eq_self hv, Board.setGate_setGate, Board.setGate_eq_self free]
      refine ⟨first, said, Or.inl ⟨unchanged, ?_⟩⟩
      intro session member
      cases (closes session member).2

/-! ## Disconnecting -/

/-- A disconnect announces that the session closes, if there is one. -/
theorem beginDisconnect_cases (hv : (c.board opened).vitals[i]? = some v) :
    (v.session = none ∧ beginDisconnect i c = (none, c)) ∨
    (∃ session, v.session = some session ∧
      (beginDisconnect i c).1 = some (session, v.status) ∧
      (beginDisconnect i c).2.board opened = (c.board opened).put i v.announced) := by
  rcases Console.board_get?_iff.1 hv with ⟨hi, rfl⟩
  cases held : (c.connection i).session with
  | none => exact Or.inl ⟨held, by simp [beginDisconnect, held]⟩
  | some session =>
      refine Or.inr ⟨session, held, ?_⟩
      cases active : (c.connection i).snapshot.status.isActive with
      | true =>
          simp only [beginDisconnect, held, active, if_true]
          refine ⟨rfl, ?_⟩
          rw [Console.board_present]
          simp [Vitals.announced, Connection.vitals, active, Connection.present, display]
      | false =>
          -- An inactive state is not announced, and `announced` leaves it as it is.
          simp only [beginDisconnect, held, active]
          refine ⟨rfl, ?_⟩
          have same : (c.connection i).vitals.announced = (c.connection i).vitals := by
            simp [Vitals.announced, Connection.vitals, active]
          rw [same, Board.put_eq_self hv]
          rfl

theorem board_emptied (hv : (c.board opened).vitals[i]? = some v) :
    (c.present i fun s => { s with retryCount := 0, live := .empty }).board opened =
      (c.board opened).put i { v with retryCount := 0, live := .empty } := by
  rcases Console.board_get?_iff.1 hv with ⟨-, rfl⟩
  exact Console.board_present i _

theorem board_failDisconnect {previous : ConnectionStatus} {error : TransportError}
    (hv : (c.board opened).vitals[i]? = some v) :
    (failDisconnect i previous error c).board opened =
      (c.board opened).put i
        { v with status := if v.status = .disconnecting then previous else v.status } := by
  rcases Console.board_get?_iff.1 hv with ⟨-, rfl⟩
  exact Console.board_present i _

/-- A disconnect closes the session if there is one; if that fails, everything is as before. -/
theorem disconnect_runs {a : Except ConsoleError Unit} (hv : s.board.vitals[i]? = some v)
    (h : (disconnect i).Runs s a s') :
    (v.session = none ∧ a = .ok () ∧ s' = s) ∨
    (∃ session, v.session = some session ∧ a = .ok () ∧ s'.board = s.board.put i v.closing) ∨
    (∃ error, a = .error error ∧ s'.board = s.board) := by
  simp only [disconnect, Program.bind_eq, runs_bind_iff, runs_atomically_iff] at h
  rcases h with ⟨_, middle, ⟨rfl, begun⟩, h⟩
  rcases beginDisconnect_cases hv with ⟨absent, e⟩ | ⟨session, held, found, board⟩
  · rw [e] at h begun
    rcases runs_done_iff.1 h with ⟨rfl, rfl⟩
    exact Or.inl ⟨absent, rfl, begun⟩
  · rw [found] at h
    have announced : middle.board = s.board.put i v.announced := by
      rw [begun]
      exact board
    have hv' : middle.board.vitals[i]? = some v.announced := by
      rw [announced]
      exact Board.get?_put_self hv
    simp only [runs_bind_iff, runs_ask_iff] at h
    rcases h with ⟨reply, _, ⟨-, rfl⟩, h⟩
    cases reply with
    | ok _ =>
        rcases runs_change_done_iff.1 h with ⟨rfl, rfl⟩
        refine Or.inr (Or.inl ⟨session, held, rfl, ?_⟩)
        simp only [Scene.board_apply, Scene.console_note, Scene.opened_note,
          Exchange.opened?_close, Option.toList_none, List.append_nil]
        rw [board_emptied hv', Scene.board_fold, announced, Board.put_put]
        rfl
    | error error =>
        rcases runs_change_done_iff.1 h with ⟨rfl, rfl⟩
        refine Or.inr (Or.inr ⟨_, rfl, ?_⟩)
        have back := Vitals.announced_back v
        simp [board_failDisconnect hv', announced, back, Board.put_eq_self hv]

/-! ## Destroying -/

theorem beginDestroy_cases (hv : (c.board opened).vitals[i]? = some v) :
    (v.destroyed = true ∧ beginDestroy i c = (none, c)) ∨
    (v.destroyed = false ∧ (beginDestroy i c).1 = some (v.session, v.status) ∧
      (beginDestroy i c).2.board opened =
        (c.board opened).put i { v with destroyed := true, session := none }) := by
  rcases Console.board_get?_iff.1 hv with ⟨hi, rfl⟩
  cases dead : (c.connection i).destroyed with
  | true => exact Or.inl ⟨dead, by simp [beginDestroy, dead]⟩
  | false =>
      refine Or.inr ⟨dead, ?_⟩
      rw [beginDestroy, dead, if_neg Bool.false_ne_true]
      exact ⟨rfl, Console.board_update i _⟩

theorem board_finishDestroy {previous : ConnectionStatus}
    (hv : (c.board opened).vitals[i]? = some v) :
    (finishDestroy i previous c).board opened =
      (if isAttempt previous then (c.board opened).setGate false else c.board opened).put i
        { v with status := .destroyed, retryCount := 0, live := .empty } := by
  rcases Console.board_get?_iff.1 hv with ⟨-, rfl⟩
  rw [finishDestroy]
  cases isAttempt previous with
  | true => exact Console.board_present i _
  | false => exact Console.board_present i _

theorem destroyMarks_eq (hv : (c.board opened).vitals[i]? = some v) :
    c.destroyMarks i =
      if isAttempt v.status then [.settled i, .destroyed i] else [.destroyed i] := by
  rcases Console.board_get?_iff.1 hv with ⟨-, rfl⟩
  rfl

/-- Destroying a connection ends its attempt, if one is under way. -/
theorem destroy_runs {u : Unit} (hv : s.board.vitals[i]? = some v)
    (ended : v.destroyed = true → v.status = .destroyed) (h : (destroy i).Runs s u s') :
    s.board.Move (s.console.destroyMarks i) s'.board := by
  simp only [destroy, Program.bind_eq, runs_bind_iff, runs_atomically_iff] at h
  rcases h with ⟨_, middle, ⟨rfl, begun⟩, h⟩
  have marks := destroyMarks_eq hv
  rcases beginDestroy_cases hv with ⟨dead, e⟩ | ⟨alive, found, board⟩
  · rw [e] at h begun
    rcases runs_done_iff.1 h with ⟨-, rfl⟩
    rw [marks, ended dead, begun]
    exact .gone hv dead
  · rw [found] at h
    have marked : middle.board = s.board.put i { v with destroyed := true, session := none } := by
      rw [begun]
      exact board
    have hv' : middle.board.vitals[i]? = some { v with destroyed := true, session := none } := by
      rw [marked]
      exact Board.get?_put_self hv
    -- The session was taken first, so whether it can be closed makes no difference.
    have finished : s'.board =
        (if isAttempt v.status then s.board.setGate false else s.board).put i v.retired := by
      have last : s'.board = (finishDestroy i v.status middle.console).board middle.opened := by
        cases held : v.session with
        | none =>
            rw [held] at h
            simp only [runs_change_iff] at h
            rw [h, Scene.board_apply]
        | some session =>
            rw [held] at h
            simp only [runs_bind_iff, runs_ask_iff, runs_change_iff] at h
            rcases h with ⟨_, _, ⟨-, rfl⟩, rfl⟩
            simp
      rw [last, board_finishDestroy hv', Scene.board_fold, marked]
      cases isAttempt v.status <;> simp [Vitals.retired]
    rw [marks, finished]
    cases attempt : isAttempt v.status with
    | true => exact .aborted hv alive attempt
    | false => exact .destroyed hv alive attempt

end Connection

end DeviceConsole
