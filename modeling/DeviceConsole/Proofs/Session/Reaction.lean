import DeviceConsole.Proofs.Session.Lifecycle
import DeviceConsole.Proofs.Session.Messaging

/-!
# What events do to a board

Only events of the session that a connection holds move the board.  This file proves one lemma for
each kind of event, and `Connection.react_runs`, which puts them together.
-/

namespace DeviceConsole

open Operation

namespace Connection

variable {i : ConnectionRef} {v : Vitals} {c : Console} {opened : List SessionId} {s s' : Scene}
  {session : SessionId}

theorem owns_iff : (c.connection i).owns session = true ↔
    (c.connection i).vitals.session = some session := by
  simp [owns, Connection.vitals]

/-! ## The session is up -/

theorem acceptConnected_spec (hv : (c.board opened).vitals[i]? = some v)
    (held : v.session = some session) :
    (acceptConnected i session c).2.board opened =
      ((c.board opened).put i { v with status := .connected, retryCount := 0 }).setGate false := by
  rcases Console.board_get?_iff.1 hv with ⟨-, rfl⟩
  have owned := owns_iff.2 held
  simp only [acceptConnected, owned, if_true]
  split
  · simp only [Console.board_raiseFor, Console.board_notify, Console.board_releaseGate,
      Console.board_update]
    rfl
  · simp only [Console.board_notify, Console.board_releaseGate, Console.board_update]
    rfl

theorem onConnected_runs {u : Unit} (h : (onConnected i session).Runs s u s') :
    s'.board = (acceptConnected i session s.console).2.board s.opened := by
  simp only [onConnected, Program.bind_eq, runs_bind_iff, runs_atomically_iff] at h
  rcases h with ⟨_, middle, ⟨rfl, rfl⟩, h⟩
  split at h
  · rcases runs_done_iff.1 h with ⟨-, rfl⟩
    rfl
  · simp only [runs_bind_iff, runs_ask_iff, Program.pure_eq, runs_done_iff] at h
    rcases h with ⟨_, _, ⟨-, rfl⟩, -, rfl⟩
    simp

/-! ## The session was lost -/

theorem countAttempt_cases (hv : (c.board opened).vitals[i]? = some v)
    (held : v.session = some session) :
    (v.retryCount < maxAttempts ∧ (countAttempt i session c).1 = false ∧
      (countAttempt i session c).2.board opened =
        ((c.board opened).put i v.retrying).setGate true) ∨
    (¬ v.retryCount < maxAttempts ∧ countAttempt i session c = (true, c.releaseGate)) := by
  rcases Console.board_get?_iff.1 hv with ⟨-, rfl⟩
  have owned := owns_iff.2 held
  by_cases few : (c.connection i).snapshot.retryCount < maxAttempts
  · refine Or.inl ⟨few, ?_⟩
    simp only [countAttempt, owned, few, if_true, true_and]
    simp only [Console.board_notify, Console.board_holdGate, Console.board_present]
    rfl
  · exact Or.inr ⟨few, by simp [countAttempt, owned, few]⟩

theorem board_resetRetries (hv : (c.board opened).vitals[i]? = some v) :
    (c.present i fun s => { s with retryCount := 0 }).board opened =
      (c.board opened).put i { v with retryCount := 0 } := by
  rcases Console.board_get?_iff.1 hv with ⟨-, rfl⟩
  exact Console.board_present i _

/-- A lost session is counted, or given up after too many attempts. -/
theorem onReconnecting_runs {u : Unit} (hv : s.board.vitals[i]? = some v)
    (alive : v.destroyed = false) (held : v.session = some session)
    (h : (onReconnecting i session).Runs s u s') :
    s.board.Move (if v.retryCount < maxAttempts then [.began i] else [.settled i]) s'.board := by
  simp only [onReconnecting, Program.bind_eq, runs_bind_iff, runs_atomically_iff] at h
  rcases h with ⟨_, middle, ⟨rfl, begun⟩, h⟩
  rcases countAttempt_cases hv held with ⟨few, counted, board⟩ | ⟨many, e⟩
  · rw [counted] at h
    rcases runs_done_iff.1 h with ⟨-, rfl⟩
    rw [if_pos few, begun, Scene.board_apply, board]
    exact .retried hv alive held few
  · rw [e] at h begun
    have open' : middle.board = s.board.setGate false := by
      rw [begun]
      rfl
    have hv' : middle.board.vitals[i]? = some v := by
      rw [open']
      exact hv
    simp only [if_true, runs_bind_iff] at h
    rcases h with ⟨_, closed, closing, h⟩
    rw [if_neg many]
    -- The session is still held, so the disconnect has one to close.
    rcases disconnect_runs hv' closing with ⟨absent, -, -⟩ | ⟨_, -, rfl, after⟩ | ⟨_, rfl, after⟩
    · rw [held] at absent
      cases absent
    · simp only [runs_change_iff] at h
      have hc : closed.board.vitals[i]? = some v.closing := by
        rw [after]
        exact Board.get?_put_self hv'
      have settled : s'.board = (s.board.put i v.closing).setGate false := by
        rw [h, Scene.board_apply, board_resetRetries hc, Scene.board_fold, after, open',
          Board.put_put]
        rfl
      rw [settled]
      exact .settled hv alive held .gaveUp
    · rcases runs_done_iff.1 h with ⟨-, rfl⟩
      have settled : s'.board = (s.board.put i v).setGate false := by
        rw [after, open', Board.put_eq_self hv]
      rw [settled]
      exact .settled hv alive held .failed

/-! ## Other outcomes -/

theorem board_onError {reason : String} (hv : (c.board opened).vitals[i]? = some v)
    (held : v.session = some session) :
    (onError i session reason c).board opened = (c.board opened).setGate false := by
  rcases Console.board_get?_iff.1 hv with ⟨-, rfl⟩
  rw [onError, owns_iff.2 held, if_pos rfl]
  simp only [Console.board_notify, Console.board_releaseGate]
  exact congrArg (fun b : Board => b.setGate false) (Console.board_update_of_vitals rfl)

theorem board_onClose {reason : Option String} (hv : (c.board opened).vitals[i]? = some v)
    (held : v.session = some session) :
    (onClose i session reason c).board opened =
      ((c.board opened).put i
        { v with status := if v.status.isConnected then .disconnected else v.status }).setGate
          false := by
  rcases Console.board_get?_iff.1 hv with ⟨-, rfl⟩
  rw [onClose, owns_iff.2 held, if_pos rfl]
  cases reason with
  | some reason =>
      simp only [Console.board_notify, Console.board_releaseGate, Console.board_present]
      rfl
  | none =>
      simp only [Console.board_releaseGate, Console.board_present]
      rfl

theorem board_onEnded (hv : (c.board opened).vitals[i]? = some v)
    (held : v.session = some session) :
    (onEnded i session c).board opened =
      ((c.board opened).put i
        { v with session := none, status := .disconnected, live := .empty }).setGate false := by
  rcases Console.board_get?_iff.1 hv with ⟨-, rfl⟩
  simp only [onEnded, owns_iff.2 held, if_true, Console.board_notify]
  split
  · simp only [Console.board_raiseFor, Console.board_releaseGate, Console.board_update]
    rfl
  · simp only [Console.board_releaseGate, Console.board_update]
    rfl

theorem board_onMessage {packet : Packet} :
    (onMessage i session packet c).board opened = c.board opened := by
  simp only [onMessage]
  split
  · simp
  · rfl

/-! ## All events -/

/-- An event of a session that the connection does not hold changes nothing. -/
theorem react_runs_of_not_owns {event : TransportEvent} {u : Unit}
    (foreign : (s.console.connection i).owns session = false)
    (h : (react i session event).Runs s u s') : s' = s := by
  cases event with
  | connected =>
      have e : acceptConnected i session s.console = ([], s.console) := by
        simp [acceptConnected, foreign]
      simp only [react, onConnected, Program.bind_eq, runs_bind_iff, runs_atomically_iff, e] at h
      rcases h with ⟨_, _, ⟨rfl, rfl⟩, h⟩
      exact (runs_done_iff.1 h).2
  | reconnecting =>
      have e : countAttempt i session s.console = (false, s.console) := by
        simp [countAttempt, foreign]
      simp only [react, onReconnecting, Program.bind_eq, runs_bind_iff, runs_atomically_iff,
        e] at h
      rcases h with ⟨_, _, ⟨rfl, rfl⟩, h⟩
      exact (runs_done_iff.1 h).2
  | error reason =>
      rw [runs_change_iff.1 h]
      exact Scene.apply_eq_self (by simp [onError, foreign])
  | close reason =>
      rw [runs_change_iff.1 h]
      exact Scene.apply_eq_self (by simp [onClose, foreign])
  | message packet =>
      rw [runs_change_iff.1 h]
      exact Scene.apply_eq_self (by simp [onMessage, foreign])
  | ended =>
      rw [runs_change_iff.1 h]
      exact Scene.apply_eq_self (by simp [onEnded, foreign])

/-- An event moves the board as its marks say. -/
theorem react_runs {event : TransportEvent} {u : Unit} (hv : s.board.vitals[i]? = some v)
    (alive : v.destroyed = false) (h : (react i session event).Runs s u s') :
    s.board.Move (s.console.eventMarks i session event) s'.board := by
  cases owned : (s.console.connection i).owns session with
  | false =>
      have unmarked : s.console.eventMarks i session event = [] := by
        simp [Console.eventMarks, owned]
      rw [react_runs_of_not_owns owned h, unmarked]
      exact .idle
  | true =>
      -- An owned session is held, so every outcome settles an attempt of this connection.
      rcases Console.board_get?_iff.1 hv with ⟨-, rfl⟩
      have held := owns_iff.1 owned
      simp only [Console.eventMarks, owned, if_true]
      cases event with
      | connected =>
          rw [onConnected_runs h, acceptConnected_spec hv held]
          exact .settled hv alive held .up
      | reconnecting => exact onReconnecting_runs hv alive held h
      | error reason =>
          rcases runs_change_iff.1 h with rfl
          rw [Scene.board_apply, board_onError hv held]
          have settled := Board.Move.settled hv alive held .failed
          rwa [Board.put_eq_self hv] at settled
      | close reason =>
          rcases runs_change_iff.1 h with rfl
          rw [Scene.board_apply, board_onClose hv held]
          exact .settled hv alive held .dropped
      | message packet =>
          rcases runs_change_iff.1 h with rfl
          rw [Scene.board_apply, board_onMessage]
          exact .idle
      | ended =>
          rcases runs_change_iff.1 h with rfl
          rw [Scene.board_apply, board_onEnded hv held]
          exact .settled hv alive held .ended

end Connection

end DeviceConsole
