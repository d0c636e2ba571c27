import Mathlib.Data.List.Induction
import DeviceConsole.Proofs.Session.Interference

/-!
# What comes after an accepted close

A disconnect leaves its session with the connection until the session ends, so that other events of
it may still come.  This file defines:

* `Transition.Closes`, the disconnects whose close was accepted while the session was active;
* `Vitals.Parted`, what every step leaves of the connection from then on, but a connect that leads
  to a session and the steps of `Transition.Revives`;
* `Run.withdrawn_iff`, which says when a connection keeps to the states of one that is closed.
-/

namespace DeviceConsole

open Operation

/-! ## Steps -/

/-- Whether a state is that of a connection that is being closed, or was. -/
def ConnectionStatus.isWithdrawn : ConnectionStatus → Bool
  | disconnecting => true
  | disconnected => true
  | destroyed => true
  | connecting => false
  | connected => false
  | reconnecting _ => false

namespace Label

/-- Whether a step may disconnect a connection: a call does, and a session that is given up. -/
def Disconnects : Label → Prop
  | .call (.disconnect _) _ => True
  | .direct _ .disconnect _ => True
  | .event _ _ .reconnecting => True
  | _ => False

/-- Whether a step is a connect of a connection that leads to a session. -/
def Connects (i : ConnectionRef) (after : Console) : Label → Prop
  | .call (.connect id _) (.ok true) => after.current? id = some i
  | .direct j (.connect _ _) (.ok true) => j = i
  | _ => False

end Label

namespace Transition

/-- Whether a step is a disconnect for which the transport accepted to close the session that a
connection holds, while it was active. -/
structure Closes (i : ConnectionRef) (session : SessionId) (t : Transition) : Prop where
  disconnects : t.label.Disconnects
  held : (t.before.console.connection i).session = some session
  active : (t.before.console.connection i).snapshot.status.isActive = true
  accepted : session ∈ t.said.filterMap Exchange.closed?

/-- Whether a step is a connect of a connection that leads to a session. -/
def Connects (i : ConnectionRef) (t : Transition) : Prop := t.label.Connects i t.after.console

/-- Whether a step is an event of a session that the connection still holds, by which the session
comes up or tries to come back. -/
structure Revives (i : ConnectionRef) (session : SessionId) (t : Transition) : Prop where
  label : t.label = .event i session .connected ∨ t.label = .event i session .reconnecting
  held : (t.before.console.connection i).session = some session

end Transition

/-! ## Marks of steps -/

namespace Console

variable {c : Console} {i j : ConnectionRef}

theorem destroyed_mem_of_settled (h : .settled i ∈ c.destroyMarks j) :
    .destroyed i ∈ c.destroyMarks j := by
  unfold destroyMarks at h ⊢
  split at h
  · next attempt =>
      rw [if_pos attempt]
      simpa using h
  · simp at h

theorem began_not_mem_destroyMarks : .began i ∉ c.destroyMarks j := by
  unfold destroyMarks
  split <;> simp

/-- An event has marks of its own connection alone. -/
theorem mem_eventMarks {m : Mark} {session : SessionId} {event : TransportEvent}
    (h : m ∈ c.eventMarks j session event) : m = .began j ∨ m = .settled j := by
  unfold eventMarks at h
  split at h
  · cases event with
    | reconnecting =>
        dsimp only at h
        split at h
        · exact Or.inl (List.mem_singleton.1 h)
        · exact Or.inr (List.mem_singleton.1 h)
    | message => cases h
    | connected | error | close | ended => exact Or.inr (List.mem_singleton.1 h)
  · cases h

end Console

namespace Label

variable {label : Label} {before after : Console} {i : ConnectionRef}

/-- Calls settle attempts only of connections that they destroy. -/
theorem destroyed_mem_of_settled (call : ∀ j session event, label ≠ .event j session event)
    (h : .settled i ∈ label.marks before after) : .destroyed i ∈ label.marks before after := by
  have each : ∀ {refs : List ConnectionRef}, .settled i ∈ refs.flatMap before.destroyMarks →
      .destroyed i ∈ refs.flatMap before.destroyMarks := by
    intro refs h
    rcases List.mem_flatMap.1 h with ⟨j, member, h⟩
    exact List.mem_flatMap.2 ⟨j, member, Console.destroyed_mem_of_settled h⟩
  unfold marks at h ⊢
  split at h
  · simp at h
  · split at h <;> simp at h
  · exact each h
  · exact each h
  · simp at h
  · simp at h
  · exact Console.destroyed_mem_of_settled h
  · exact absurd rfl (call _ _ _)
  · simp at h

/-- The only calls that begin an attempt are connects that lead to a session. -/
theorem connects_of_began (call : ∀ j session event, label ≠ .event j session event)
    (h : .began i ∈ label.marks before after) : label.Connects i after := by
  have none : ∀ {refs : List ConnectionRef}, .began i ∉ refs.flatMap before.destroyMarks := by
    intro refs h
    rcases List.mem_flatMap.1 h with ⟨j, -, h⟩
    exact Console.began_not_mem_destroyMarks h
  unfold marks at h
  split at h
  · simpa [Connects] using h
  · split at h <;> simp at h
  · exact absurd h none
  · exact absurd h none
  · simpa [Connects, eq_comm] using h
  · simp at h
  · exact absurd h Console.began_not_mem_destroyMarks
  · exact absurd rfl (call _ _ _)
  · simp at h

end Label

/-! ## Parted connections -/

/-- Whether a connection waits for the end of a session that it closed, or has none any more. -/
inductive Vitals.Parted (session : SessionId) (v : Vitals) : Prop where
  | closing : v.session = some session → v.status = .disconnecting → v.retryCount = 0 →
      Parted session v
  | closed : v.session = none → v.status = .disconnected → Parted session v
  | destroyed : v.session = none → v.status = .destroyed → Parted session v

namespace Vitals

variable {v w : Vitals} {session : SessionId}

theorem Parted.isWithdrawn (h : v.Parted session) : v.status.isWithdrawn = true := by
  cases h with
  | closing _ status _ | closed _ status | destroyed _ status =>
      rw [status]
      rfl

/-- Only the live map changes. -/
theorem Parted.live (h : v.Parted session) (live : KeyMap Bool) :
    Parted session { v with live := live } := by
  cases h with
  | closing held status zero => exact .closing held status zero
  | closed none status => exact .closed none status
  | destroyed none status => exact .destroyed none status

/-- Closing an active session parts the connection from it. -/
theorem parted_closing (held : v.session = some session) (active : v.status.isActive = true) :
    v.closing.Parted session :=
  .closing held (by simp [Vitals.closing, announced, active]) rfl

theorem Parted.closing_again {other : SessionId} (h : v.Parted session)
    (held : v.session = some other) : v.closing.Parted session := by
  cases h with
  | closing own status _ => exact parted_closing own (by rw [status]; rfl)
  | closed none _ | destroyed none _ =>
      rw [held] at none
      cases none

end Vitals

namespace Board

variable {b b' : Board} {marks : List Mark} {i j : ConnectionRef} {v w : Vitals}
  {session : SessionId}

def Parts (b : Board) (i : ConnectionRef) (session : SessionId) : Prop :=
  ∃ v, b.vitals[i]? = some v ∧ v.Parted session

theorem Extends.parts (grown : b.Extends b') (h : b.Parts i session) : b'.Parts i session := by
  rcases h with ⟨v, hv, parted⟩
  exact ⟨v, grown.get?_of_get? hv, parted⟩

/-- A connection stays parted if another one changes, or if it changes itself accordingly. -/
theorem Parts.put (h : b.Parts i session) (hv : b.vitals[j]? = some v)
    (own : j = i → v.Parted session → w.Parted session) : (b.put j w).Parts i session := by
  rcases h with ⟨u, hu, parted⟩
  by_cases same : i = j
  · subst same
    obtain rfl : u = v := Option.some.inj (hu.symm.trans hv)
    exact ⟨w, get?_put_self hv, own rfl parted⟩
  · exact ⟨u, (get?_put_of_ne same).trans hu, parted⟩

/-- A move leaves a connection parted, unless it begins an attempt of it or is an outcome of its
session. -/
theorem Parts.move (h : b.Parts i session) (move : b.Move marks b') (unbegun : .began i ∉ marks)
    (unsettled : .settled i ∈ marks → .destroyed i ∈ marks) : b'.Parts i session := by
  cases move with
  | idle | kept | gone => exact h
  | opened hv _ _ _ => exact h.put hv fun same => absurd (by simp [same]) unbegun
  | unopened hv _ _ => exact h.put hv fun _ _ => .closed rfl rfl
  | closed hv held => exact h.put hv fun _ parted => parted.closing_again held
  | destroyed hv _ _ => exact h.put hv fun _ _ => .destroyed rfl rfl
  | aborted hv _ _ => exact h.put hv fun _ _ => .destroyed rfl rfl
  | marked live hv _ => exact h.put hv fun _ parted => parted.live live
  | forgot filter hv => exact h.put hv fun _ parted => parted.live _
  | retried hv _ _ _ => exact h.put hv fun same => absurd (by simp [same]) unbegun
  | settled hv _ _ _ => exact h.put hv fun same => by simp [same] at unsettled

/-- Closing an active session that a connection holds parts it, whichever connection was asked to,
since no session has two. -/
theorem Sound.parts_closing (sound : b.Sound) (hv : b.vitals[i]? = some v)
    (held : v.session = some session) (active : v.status.isActive = true)
    (hw : b.vitals[j]? = some w) (held' : w.session = some session) :
    (b.put j w.closing).Parts i session := by
  obtain rfl : i = j := sound.distinct hv hw held held'
  obtain rfl : v = w := Option.some.inj (hv.symm.trans hw)
  exact ⟨v.closing, get?_put_self hv, Vitals.parted_closing held active⟩

end Board

/-! ## Accepted closes -/

namespace Connection

variable {s s' : Scene} {i j : ConnectionRef} {v : Vitals} {session other : SessionId}
  {said : List Exchange}

/-- A disconnect for which the transport accepted to close a session closes the one it holds. -/
theorem disconnect_accepted {a : Except ConsoleError Unit} (hv : s.board.vitals[i]? = some v)
    (h : (disconnect i).Runs s a s') (e : s'.exchanges = s.exchanges ++ said)
    (closed : session ∈ said.filterMap Exchange.closed?) :
    v.session = some session ∧ s'.board = s.board.put i v.closing := by
  have asked : v.session = some session ∧ a = .ok () := by
    simp only [disconnect, Program.bind_eq, runs_bind_iff, runs_atomically_iff] at h
    rcases h with ⟨_, middle, ⟨rfl, begun⟩, h⟩
    rcases beginDisconnect_cases hv with ⟨-, e'⟩ | ⟨held, own, found, -⟩
    · -- Without a session nothing was said.
      rw [e'] at h begun
      rcases runs_done_iff.1 h with ⟨-, rfl⟩
      rw [begun] at e
      obtain rfl : said = [] := by simpa [Scene.apply] using e
      cases closed
    · rw [found] at h
      simp only [runs_bind_iff, runs_ask_iff] at h
      rcases h with ⟨reply, _, ⟨-, rfl⟩, h⟩
      have unsaid : middle.exchanges = s.exchanges := by
        rw [begun]
        rfl
      cases reply with
      | ok u =>
          rcases runs_change_done_iff.1 h with ⟨rfl, rfl⟩
          obtain rfl : said = [⟨.close held, .ok u⟩] := by
            simpa [Scene.apply, Scene.note, unsaid, eq_comm] using e
          obtain rfl : session = held := by simpa [Exchange.closed?] using closed
          exact ⟨own, rfl⟩
      | error error =>
          rcases runs_change_done_iff.1 h with ⟨-, rfl⟩
          obtain rfl : said = [⟨.close held, .error error⟩] := by
            simpa [Scene.apply, Scene.note, unsaid, eq_comm] using e
          simp [Exchange.closed?] at closed
  rcases asked with ⟨held, rfl⟩
  refine ⟨held, ?_⟩
  rcases disconnect_runs hv h with ⟨absent, -, -⟩ | ⟨_, -, -, after⟩ | ⟨_, failed, -⟩
  · rw [held] at absent
    cases absent
  · exact after
  · cases failed

/-- A session that is given up is closed the same way, and the gate opens. -/
theorem onReconnecting_accepted {u : Unit} (hv : s.board.vitals[i]? = some v)
    (held : v.session = some other) (h : (onReconnecting i other).Runs s u s')
    (e : s'.exchanges = s.exchanges ++ said) (closed : session ∈ said.filterMap Exchange.closed?) :
    v.session = some session ∧ s'.board = (s.board.put i v.closing).setGate false := by
  simp only [onReconnecting, Program.bind_eq, runs_bind_iff, runs_atomically_iff] at h
  rcases h with ⟨_, middle, ⟨rfl, begun⟩, h⟩
  rcases countAttempt_cases hv held with ⟨-, counted, -⟩ | ⟨-, many⟩
  · -- While there are few attempts nothing is said.
    rw [counted] at h
    rcases runs_done_iff.1 h with ⟨-, rfl⟩
    rw [begun] at e
    obtain rfl : said = [] := by simpa [Scene.apply] using e
    cases closed
  · rw [many] at h begun
    have open' : middle.board = s.board.setGate false := by
      rw [begun]
      rfl
    have hv' : middle.board.vitals[i]? = some v := by
      rw [open']
      exact hv
    have unsaid : middle.exchanges = s.exchanges := by
      rw [begun]
      rfl
    simp only [if_true, runs_bind_iff] at h
    rcases h with ⟨result, last, closing, h⟩
    have same : s'.exchanges = last.exchanges := by
      cases result with
      | ok _ =>
          rcases runs_change_iff.1 h with rfl
          rfl
      | error _ =>
          rcases runs_done_iff.1 h with ⟨-, rfl⟩
          rfl
    have e' : last.exchanges = middle.exchanges ++ said := by rw [← same, e, unsaid]
    rcases disconnect_accepted hv' closing e' closed with ⟨own, after⟩
    refine ⟨own, ?_⟩
    have hc : last.board.vitals[i]? = some v.closing := by
      rw [after]
      exact Board.get?_put_self hv'
    have shut : last.board = (s.board.put i v.closing).setGate false := by
      rw [after, open']
      rfl
    cases result with
    | ok _ =>
        rcases runs_change_iff.1 h with rfl
        rw [Scene.board_apply, board_resetRetries hc, Scene.board_fold]
        exact (Board.put_eq_self hc).trans shut
    | error _ =>
        rcases runs_done_iff.1 h with ⟨-, rfl⟩
        exact shut

end Connection

namespace Transition

variable {t : Transition} {i : ConnectionRef} {session : SessionId}

/-- After an accepted close the connection is parted from its session. -/
theorem Closes.parts (h : t.Closes i session) (sound : t.before.board.Sound)
    (step : Step t.before t.label t.after) : t.after.board.Parts i session := by
  have e := exchanges_eq step
  have hv := Scene.get?_of_held h.held
  have kind := h.disconnects
  have closed := h.accepted
  have parts := fun {j w} => sound.parts_closing (j := j) (w := w) hv h.held h.active
  generalize t.said = said at e closed
  generalize t.label = label at kind step
  generalize t.after = after at e step ⊢
  cases step with
  | @call call _ _ _ run =>
      cases call with
      | disconnect id =>
          have delegates : t.before.Delegates (· = .disconnect) after :=
            Console.disconnect_delegates rfl sound run
          rcases delegates with ⟨m, grown, rfl | ⟨j, _, _, last, rfl, hj, run, later⟩⟩
          · -- Without a call of a connection nothing was said.
            obtain rfl : said = [] := by simpa [grown.exchanges] using e
            cases closed
          · have said' : last.exchanges = m.exchanges ++ said := by
              rw [← later.exchanges, grown.exchanges, e]
            rcases Connection.disconnect_accepted (Scene.get?_of_lt hj) run said' closed with
              ⟨held, put⟩
            have parts := (sound.extends grown.board).parts_closing
              (grown.board.get?_of_get? hv) h.held h.active (Scene.get?_of_lt hj) held
            rw [← put] at parts
            exact later.board.parts parts
      | _ => cases kind
  | @direct j call _ _ _ hj run =>
      cases call with
      | disconnect =>
          rcases Connection.disconnect_accepted (Scene.get?_of_lt hj) run e closed with ⟨held, put⟩
          rw [put]
          exact parts (Scene.get?_of_lt hj) held
      | _ => cases kind
  | @event j other event _ _ member _ run =>
      cases event with
      | reconnecting =>
          cases owned : (t.before.console.connection j).owns other with
          | false =>
              rw [Connection.react_runs_of_not_owns owned run] at e
              obtain rfl : said = [] := by simpa using e
              cases closed
          | true =>
              have own := Connection.owns_iff.1 owned
              have hw := Scene.get?_of_held own
              rcases Connection.onReconnecting_accepted hw own run e closed with ⟨held, put⟩
              rw [put]
              exact parts hw held
      | _ => cases kind
  | outside => cases kind

end Transition

/-! ## What comes later -/

theorem Vitals.Parted.dropped {v : Vitals} {session : SessionId} (h : v.Parted session) :
    Parted session
      { v with status := if v.status.isConnected then .disconnected else v.status } := by
  have down : v.status.isConnected = false := by
    cases h with
    | closing _ status _ | closed _ status | destroyed _ status =>
        rw [status]
        rfl
  simpa [down] using h

/-- An attempt that begins brings a connection out of the states of one that is closed. -/
theorem Board.Move.not_isWithdrawn {b b' : Board} {i : ConnectionRef}
    (move : b.Move [.began i] b') :
    ∃ v, b'.vitals[i]? = some v ∧ v.status.isWithdrawn = false := by
  cases move with
  | opened hv _ _ _ => exact ⟨_, get?_put_self hv, rfl⟩
  | retried hv _ _ _ => exact ⟨_, get?_put_self hv, rfl⟩

namespace Connection

variable {s s' : Scene} {i : ConnectionRef} {session : SessionId} {event : TransportEvent}
  {u : Unit}

/-- Errors, closes, messages and the end of its session leave a connection parted. -/
theorem react_parts (parts : s.board.Parts i session)
    (held : (s.console.connection i).session = some session)
    (calm : event ≠ .connected ∧ event ≠ .reconnecting) (h : (react i session event).Runs s u s') :
    s'.board.Parts i session := by
  have hv := Scene.get?_of_held held
  cases event with
  | connected => exact absurd rfl calm.1
  | reconnecting => exact absurd rfl calm.2
  | error reason =>
      rcases runs_change_iff.1 h with rfl
      rw [Scene.board_apply, board_onError hv held]
      exact parts
  | close reason =>
      rcases runs_change_iff.1 h with rfl
      rw [Scene.board_apply, board_onClose hv held]
      exact parts.put hv fun _ parted => parted.dropped
  | message packet =>
      rcases runs_change_iff.1 h with rfl
      rw [Scene.board_apply, board_onMessage]
      exact parts
  | ended =>
      rcases runs_change_iff.1 h with rfl
      rw [Scene.board_apply, board_onEnded hv held]
      exact parts.put hv fun _ _ => .closed rfl rfl

/-- When its session comes up, or tries to come back, a connection is not closed any more. -/
theorem react_revives (parts : s.board.Parts i session)
    (held : (s.console.connection i).session = some session)
    (alive : (s.console.connection i).destroyed = false)
    (kind : event = .connected ∨ event = .reconnecting) (h : (react i session event).Runs s u s') :
    ∃ v, s'.board.vitals[i]? = some v ∧ v.status.isWithdrawn = false := by
  have hv := Scene.get?_of_held held
  rcases kind with rfl | rfl
  · rw [onConnected_runs h, acceptConnected_spec hv held]
    exact ⟨_, Board.get?_put_self hv, rfl⟩
  · rcases parts with ⟨v, hv', parted⟩
    obtain rfl := Option.some.inj (hv.symm.trans hv')
    -- No attempt was counted since the close, so the first one counts.
    have few : (s.console.connection i).vitals.retryCount < maxAttempts := by
      cases parted with
      | closing _ _ zero =>
          rw [zero]
          decide
      | closed none _ | destroyed none _ =>
          rw [Connection.vitals, held] at none
          cases none
    have move := onReconnecting_runs hv alive held h
    rw [if_pos few] at move
    exact move.not_isWithdrawn

end Connection

namespace Transition

variable {t : Transition} {s s' : Scene} {label : Label} {i j : ConnectionRef}
  {session other : SessionId} {event : TransportEvent}

theorem revives_event_iff :
    Revives i session ⟨s, .event j other event, s'⟩ ↔
      (j = i ∧ other = session ∧ (event = .connected ∨ event = .reconnecting)) ∧
        (s.console.connection i).session = some session := by
  constructor
  · rintro ⟨label, held⟩
    refine ⟨?_, held⟩
    rcases label with label | label <;> cases label <;> simp
  · rintro ⟨⟨rfl, rfl, rfl | rfl⟩, held⟩
    · exact ⟨Or.inl rfl, held⟩
    · exact ⟨Or.inr rfl, held⟩

/-- Calls revive no session, and neither does what comes from outside. -/
theorem not_revives_of_call (call : ∀ j session event, label ≠ .event j session event) :
    ¬ Revives i session ⟨s, label, s'⟩ := by
  rintro ⟨label | label, -⟩
  · exact call _ _ _ label
  · exact call _ _ _ label

/-- An event leaves its connection parted, or revives the session that was closed. -/
theorem event_parts_or_revives (parts : s.board.Parts i session)
    (alive : (s.console.connection i).destroyed = false)
    (run : (Connection.react i other event).Runs s () s') :
    (¬ Revives i session ⟨s, .event i other event, s'⟩ ∧ s'.board.Parts i session) ∨
      (Revives i session ⟨s, .event i other event, s'⟩ ∧
        ∃ v, s'.board.vitals[i]? = some v ∧ v.status.isWithdrawn = false) := by
  simp only [revives_event_iff, true_and]
  cases owned : (s.console.connection i).owns other with
  | false =>
      obtain rfl := Connection.react_runs_of_not_owns owned run
      refine Or.inl ⟨?_, parts⟩
      rintro ⟨⟨rfl, -⟩, held⟩
      rw [Connection.owns_iff.2 held] at owned
      cases owned
  | true =>
      -- A parted connection holds no other session than the one that was closed.
      have held := Connection.owns_iff.1 owned
      obtain rfl : other = session := by
        rcases parts with ⟨v, hv, parted⟩
        rcases Console.board_get?_iff.1 hv with ⟨-, rfl⟩
        cases parted with
        | closing own _ _ => exact Option.some.inj (held.symm.trans own)
        | closed none _ | destroyed none _ =>
            rw [held] at none
            cases none
      by_cases kind : event = .connected ∨ event = .reconnecting
      · exact Or.inr ⟨⟨⟨rfl, kind⟩, held⟩, Connection.react_revives parts held alive kind run⟩
      · refine Or.inl ⟨fun h => kind h.1.2, Connection.react_parts parts held ?_ run⟩
        exact not_or.1 kind

/-- A connection stays parted but for an event that revives its session, after which its state is
not that of a closed one. -/
theorem parts_or_revives (parts : t.before.board.Parts i session) (sound : t.before.board.Sound)
    (step : Step t.before t.label t.after) (unopened : ¬ t.Connects i) :
    (¬ t.Revives i session ∧ t.after.board.Parts i session) ∨
      (t.Revives i session ∧
        ∃ v, t.after.board.vitals[i]? = some v ∧ v.status.isWithdrawn = false) := by
  rcases t with ⟨s, label, s'⟩
  dsimp only at parts sound step ⊢
  have moves (unbegun : .began i ∉ label.marks s.console s'.console)
      (unsettled : .settled i ∈ label.marks s.console s'.console →
        .destroyed i ∈ label.marks s.console s'.console) : s'.board.Parts i session := by
    rcases step.reaches sound with ⟨middle, grown, move⟩
    exact (grown.parts parts).move move unbegun unsettled
  have called (call : ∀ j session event, label ≠ .event j session event) :
      ¬ Revives i session ⟨s, label, s'⟩ ∧ s'.board.Parts i session :=
    ⟨not_revives_of_call call, moves (fun began => unopened (Label.connects_of_began call began))
      (Label.destroyed_mem_of_settled call)⟩
  cases step with
  | call _ | direct _ _ | outside _ =>
      refine Or.inl (called ?_)
      intro j session event h
      cases h
  | @event j other event _ _ _ alive run =>
      by_cases same : j = i
      · subst same
        exact event_parts_or_revives parts alive run
      · -- An event of another connection has no marks of this one.
        have unmarked (m : Mark) (mark : m = .began i ∨ m = .settled i) :
            m ∉ s.console.eventMarks j other event := by
          intro h
          rcases mark with rfl | rfl
          · rcases Console.mem_eventMarks h with e | e <;> cases e
            exact same rfl
          · rcases Console.mem_eventMarks h with e | e <;> cases e
            exact same rfl
        refine Or.inl ⟨?_, moves (unmarked _ (Or.inl rfl)) fun h => ?_⟩
        · rw [revives_event_iff]
          exact fun h => same h.1.1
        · exact absurd h (unmarked _ (Or.inr rfl))

end Transition

/-! ## Runs -/

/-- Whether a connection is in a state of one that is closed, after a step. -/
def Transition.Withdrawn (i : ConnectionRef) (t : Transition) : Prop :=
  (t.after.console.connection i).snapshot.status.isWithdrawn = true

theorem Board.Parts.withdrawn {t : Transition} {i : ConnectionRef} {session : SessionId}
    (h : t.after.board.Parts i session) : t.Withdrawn i := by
  rcases h with ⟨v, hv, parted⟩
  rcases Console.board_get?_iff.1 hv with ⟨-, rfl⟩
  exact parted.isWithdrawn

namespace Run

variable {settings : Settings} {catalog : Catalog} {storage : ProfileStorage}
  {fresh : Nat → ConnectionId} {clock : Int} {earlier later : List Transition} {t : Transition}
  {s : Scene} {i : ConnectionRef} {session : SessionId}

/-- After an accepted close a connection stays parted as long as no step revives its session, or
every step leaves it in a state of one that is closed. -/
theorem parts_of_closes
    (run : Run (.start settings catalog storage fresh clock) (earlier ++ t :: later) s)
    (closes : t.Closes i session) (unopened : ∀ u ∈ later, ¬ u.Connects i)
    (calm : ∀ u ∈ later, ¬ u.Revives i session ∨ u.Withdrawn i) :
    s.board.Parts i session ∧
      ∀ u ∈ later, ¬ u.Revives i session ∧ u.after.board.Parts i session := by
  -- By induction on the steps since the close, from the last one.
  induction later using List.reverseRecOn generalizing s with
  | nil =>
      rcases snoc_iff.1 run with ⟨previous, step, rfl⟩
      exact ⟨closes.parts previous.sound step, by simp⟩
  | append_singleton front u ih =>
      rw [← List.cons_append, ← List.append_assoc] at run
      rcases snoc_iff.1 run with ⟨previous, step, rfl⟩
      rcases ih previous (fun x member => unopened x (by simp [member]))
        (fun x member => calm x (by simp [member])) with ⟨parts, each⟩
      rcases Transition.parts_or_revives parts previous.sound step (unopened u (by simp)) with
        ⟨stays, parts'⟩ | ⟨revives, v, hv, up⟩
      · refine ⟨parts', ?_⟩
        intro x member
        rcases List.mem_append.1 member with member | member
        · exact each x member
        · obtain rfl : x = u := List.mem_singleton.1 member
          exact ⟨stays, parts'⟩
      · rcases calm u (by simp) with not | withdrawn
        · exact absurd revives not
        · rcases Console.board_get?_iff.1 hv with ⟨-, rfl⟩
          exact absurd (withdrawn.symm.trans up) (by decide)

/-- From the moment an active session was closed by a disconnect until a connect opens another one,
a connection is in the states of a closed one exactly as long as the transport does not tell that
the session, while it is still held, came up or tries to come back. -/
theorem withdrawn_iff
    (run : Run (.start settings catalog storage fresh clock) (earlier ++ t :: later) s)
    (closes : t.Closes i session) (unopened : ∀ u ∈ later, ¬ u.Connects i) :
    (∀ u ∈ t :: later, u.Withdrawn i) ↔ ∀ u ∈ later, ¬ u.Revives i session := by
  constructor
  · intro withdrawn u member
    have stays := run.parts_of_closes closes unopened
      (fun x member => Or.inr (withdrawn x (List.mem_cons_of_mem _ member)))
    exact (stays.2 u member).1
  · intro calm u member
    rcases List.mem_cons.1 member with rfl | member
    · rcases run.split rfl with ⟨previous, step⟩
      exact (closes.parts previous.sound step).withdrawn
    · exact ((run.parts_of_closes closes unopened fun x member => Or.inl (calm x member)).2 u
        member).2.withdrawn

/-- An error, a close, a message and the end of the session come after the disconnect. -/
theorem withdrawn_iff_until_ended :
    ∃ earlier t later s, Run .blank (earlier ++ t :: later) s ∧ t.Closes 0 0 ∧
      (∀ u ∈ later, ¬ u.Connects 0) ∧ later.length = 4 ∧
      (∀ u ∈ later, ¬ u.Revives 0 0) ∧ ∀ u ∈ t :: later, u.Withdrawn 0 := by
  let opening : List Action :=
    [.call (.getOrCreate ⟨0⟩ (some default)), .direct 0 (.connect default none),
      .event 0 0 .connected]
  let late : List Action :=
    [.event 0 0 (.error "late"), .event 0 0 (.close (some "late")),
      .event 0 0 (.message ⟨"t", default, .atMostOnce, false, default⟩), .event 0 0 .ended]
  let middle : Scene := (Scene.blank.play .obliging opening).2
  let t : Transition := (Action.call (.disconnect ⟨0⟩)).take .obliging middle
  have playable : Scene.blank.Playable .obliging opening := by decide
  have playable' : middle.Playable .obliging (.call (.disconnect ⟨0⟩) :: late) := by decide
  have opened : Run .blank _ middle := Run.play Responder.fair_obliging .start playable
  have run : Run .blank (_ ++ t :: (t.after.play .obliging late).1) _ :=
    Run.play Responder.fair_obliging opened playable'
  have closes : t.Closes 0 0 := ⟨trivial, by decide, by decide, by decide⟩
  have unopened : ∀ u ∈ (t.after.play .obliging late).1, ¬ u.Connects 0 := by
    simp [Scene.play, late, Action.take, Transition.Connects, Label.Connects]
  have calm : ∀ u ∈ (t.after.play .obliging late).1, ¬ u.Revives 0 0 := by
    simp [Scene.play, late, Action.take, Transition.revives_event_iff]
  exact ⟨_, t, _, _, run, closes, unopened, by simp [Scene.play, late], calm,
    (Run.withdrawn_iff run closes unopened).2 calm⟩

/-- Without that condition a session comes back after its close was accepted: a late event makes the
connection try to reconnect, and another one takes it for connected. -/
theorem connected_after_disconnect :
    ∃ earlier t later s, Run .blank (earlier ++ t :: later) s ∧ t.Closes 0 0 ∧
      (∀ u ∈ later, ¬ u.Connects 0) ∧
      (∃ u ∈ later, (u.after.console.connection 0).snapshot.status = .reconnecting 1) ∧
      (s.console.connection 0).snapshot.status = .connected ∧
      ¬ ∀ u ∈ t :: later, u.Withdrawn 0 := by
  let opening : List Action :=
    [.call (.getOrCreate ⟨0⟩ (some default)), .direct 0 (.connect default none),
      .event 0 0 .connected]
  let late : List Action := [.event 0 0 .reconnecting, .event 0 0 .connected]
  let middle : Scene := (Scene.blank.play .obliging opening).2
  let t : Transition := (Action.call (.disconnect ⟨0⟩)).take .obliging middle
  let u : Transition := (Action.event 0 0 .reconnecting).take .obliging t.after
  have playable : Scene.blank.Playable .obliging opening := by decide
  have playable' : middle.Playable .obliging (.call (.disconnect ⟨0⟩) :: late) := by decide
  have opened : Run .blank _ middle := Run.play Responder.fair_obliging .start playable
  have run : Run .blank (_ ++ t :: (t.after.play .obliging late).1) _ :=
    Run.play Responder.fair_obliging opened playable'
  have closes : t.Closes 0 0 := ⟨trivial, by decide, by decide, by decide⟩
  have unopened : ∀ u ∈ (t.after.play .obliging late).1, ¬ u.Connects 0 := by
    simp [Scene.play, late, Action.take, Transition.Connects, Label.Connects]
  have first : u ∈ (t.after.play .obliging late).1 := List.mem_cons_self
  have back : (u.after.console.connection 0).snapshot.status = .reconnecting 1 := by decide
  refine ⟨_, t, _, _, run, closes, unopened, ⟨u, first, back⟩, by decide, ?_⟩
  intro withdrawn
  have down : (u.after.console.connection 0).snapshot.status.isWithdrawn = true :=
    withdrawn u (List.mem_cons_of_mem _ first)
  rw [back] at down
  cases down

end Run

end DeviceConsole
