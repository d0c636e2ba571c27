import Mathlib.Data.List.Induction
import DeviceConsole.Proofs.Overlap.Alters
import DeviceConsole.Proofs.Session.Interference

/-!
# Sessions that try to come back

A session that was lost may try to come back a few times; after that it is closed.  The session
stays with its connection until it is over, also when the transport has accepted to close it, and an
accepted close sets the attempts back; so the cap holds up to the first accepted close only.  This
file defines:

* `Label.Struggles`, the events of a session other than that it came up or is over;
* `Transition.GivesUp`, the attempts that make the console close the session;
* `Scene.Tried`, what so many attempts leave, as long as no close was accepted;
* `Run.Struggling`, a run of such events of one session;
* `retries_capped`, which says when every attempt after the first few gives the session up.
-/

namespace DeviceConsole

open Operation

/-! ## Notices -/

/-- What the operator is told of an attempt. -/
def Notification.retry : Notification := ⟨.warn, "reconnecting..."⟩

def Console.retryNotices (c : Console) : Nat := c.notices.count .retry

theorem Payload.retry_not_mem_receiveWarnings {bytes : Bytes} {mode : RenderMode} :
    Notification.retry ∉ receiveWarnings bytes mode := by
  intro member
  unfold receiveWarnings jsonWarnings at member
  -- The only warning is that the payload is no document; its text starts with another letter.
  split at member
  · split at member
    · cases member
    · have text := congrArg (·.text.toList.head?) (List.mem_singleton.1 member)
      simp [Notification.retry] at text
  · cases member

/-- Notices of another kind do not count. -/
theorem Console.retryNotices_of_append {c c' : Console} (told : List Notification)
    (notices : c'.notices = c.notices ++ told) (other : .retry ∉ told) :
    c'.retryNotices = c.retryNotices := by
  rw [retryNotices, notices, List.count_append, List.count_eq_zero.2 other]
  rfl

/-! ## Events -/

namespace Connection

variable {i : ConnectionRef} {session : SessionId} {s s' : Scene}

/-- A disconnect of a connection that holds a session asks for its end, once. -/
theorem disconnect_says {a : Except ConsoleError Unit}
    (held : (s.console.connection i).session = some session) (h : (disconnect i).Runs s a s') :
    ∃ reply : Request.Reply (.close session),
      s'.exchanges = s.exchanges ++ [⟨.close session, reply⟩] ∧
      (∃ told, s'.console.notices = s.console.notices ++ told ∧ .retry ∉ told) ∧
      match reply with
      | .ok _ => a = .ok ()
      | .error error => a = .error (.transport error) := by
  simp only [disconnect, Program.bind_eq, runs_bind_iff, runs_atomically_iff] at h
  rcases h with ⟨_, middle, ⟨rfl, rfl⟩, h⟩
  have found : (beginDisconnect i s.console).1 =
      some (session, (s.console.connection i).snapshot.status) := by
    simp [beginDisconnect, held]
  have untold : (beginDisconnect i s.console).2.notices = s.console.notices := by
    simp only [beginDisconnect, held]
    split <;> rfl
  simp only [found, runs_bind_iff, runs_ask_iff] at h
  rcases h with ⟨reply, _, ⟨-, rfl⟩, h⟩
  cases reply with
  | ok _ =>
      rcases runs_change_done_iff.1 h with ⟨rfl, rfl⟩
      refine ⟨.ok (), rfl, ⟨[], ?_, List.not_mem_nil⟩, rfl⟩
      rw [List.append_nil]
      exact untold
  | error error =>
      rcases runs_change_done_iff.1 h with ⟨rfl, rfl⟩
      refine ⟨.error error, rfl, ⟨[⟨.fail, error.message⟩], ?_, ?_⟩, rfl⟩
      · exact congrArg (· ++ _) untold
      · simp [Notification.retry]

/-- What an attempt of a session to come back leads to. -/
inductive Attempted (i : ConnectionRef) (session : SessionId) (s s' : Scene) : Prop where
  | counted :
      (s.console.connection i).snapshot.retryCount < maxAttempts →
      s'.exchanges = s.exchanges →
      s'.console.retryNotices = s.console.retryNotices + 1 →
      (s'.console.connection i).vitals = (s.console.connection i).vitals.retrying →
      Attempted i session s s'
  /-- There were too many, and the session could not be closed. -/
  | kept (error : TransportError) :
      ¬ (s.console.connection i).snapshot.retryCount < maxAttempts →
      s'.exchanges = s.exchanges ++ [⟨.close session, .error error⟩] →
      s'.console.retryNotices = s.console.retryNotices →
      (s'.console.connection i).vitals = (s.console.connection i).vitals →
      Attempted i session s s'
  | closed :
      ¬ (s.console.connection i).snapshot.retryCount < maxAttempts →
      s'.exchanges = s.exchanges ++ [⟨.close session, .ok ()⟩] →
      s'.console.retryNotices = s.console.retryNotices →
      (s'.console.connection i).vitals = (s.console.connection i).vitals.closing →
      Attempted i session s s'

theorem vitals_eq {v : Vitals} (h : s.board.vitals[i]? = some v) :
    (s.console.connection i).vitals = v := (Console.board_get?_iff.1 h).2.symm

theorem onReconnecting_attempted {u : Unit}
    (held : (s.console.connection i).session = some session)
    (h : (onReconnecting i session).Runs s u s') : Attempted i session s s' := by
  have hv := Scene.get?_of_held held
  simp only [onReconnecting, Program.bind_eq, runs_bind_iff, runs_atomically_iff] at h
  rcases h with ⟨_, middle, ⟨rfl, begun⟩, h⟩
  rcases countAttempt_cases hv held with ⟨few, counted, board⟩ | ⟨many, e⟩
  · replace few : (s.console.connection i).snapshot.retryCount < maxAttempts := few
    have told : (countAttempt i session s.console).2.notices = s.console.notices ++ [.retry] := by
      simp only [countAttempt, owns_iff.2 held, if_true]
      rw [if_pos few]
      rfl
    rw [counted] at h
    rcases runs_done_iff.1 h with ⟨-, rfl⟩
    subst begun
    refine .counted few rfl ?_ (vitals_eq ?_)
    · simp only [Console.retryNotices, Scene.console_apply, told, List.count_append]
      rfl
    · rw [Scene.board_apply, board]
      exact Board.get?_put_self hv
  · rw [e] at h begun
    subst begun
    simp only [if_true, runs_bind_iff] at h
    rcases h with ⟨a, closed, closing, h⟩
    -- Opening the gate does not touch the connection.
    have hv' : (s.apply fun _ => s.console.releaseGate).board.vitals[i]? =
        some (s.console.connection i).vitals := hv
    have held' : ((s.apply fun _ => s.console.releaseGate).console.connection i).session =
        some session := held
    rcases disconnect_says held' closing with ⟨reply, said, ⟨told, notices, other⟩, answer⟩
    have unwarned : closed.console.retryNotices = s.console.retryNotices :=
      Console.retryNotices_of_append told notices other
    -- The connection holds its session, so the disconnect answers as the transport did.
    rcases disconnect_runs hv' closing with ⟨absent, -, -⟩ | ⟨_, -, rfl, after⟩ | ⟨_, rfl, after⟩
    · cases held.symm.trans absent
    · cases reply with
      | error error => cases answer
      | ok _ =>
          obtain rfl := runs_change_iff.1 h
          have hc : closed.board.vitals[i]? = some (s.console.connection i).vitals.closing := by
            rw [after]
            exact Board.get?_put_self hv'
          refine .closed many said unwarned (vitals_eq ?_)
          rw [Scene.board_apply, board_resetRetries hc]
          exact Board.get?_put_self hc
    · cases reply with
      | ok _ => cases answer
      | error error =>
          rcases runs_done_iff.1 h with ⟨-, rfl⟩
          refine .kept error many said unwarned (vitals_eq ?_)
          rw [after]
          exact hv'

/-- What an event leaves that does not tell whether the session is still there. -/
structure Endured (i : ConnectionRef) (s s' : Scene) : Prop where
  exchanges : s'.exchanges = s.exchanges
  unwarned : s'.console.retryNotices = s.console.retryNotices
  /-- Only a connected connection changes its state. -/
  vitals : ∃ status, ((s.console.connection i).snapshot.status ≠ .connected →
      status = (s.console.connection i).snapshot.status) ∧
    (s'.console.connection i).vitals = { (s.console.connection i).vitals with status := status }

theorem react_endured {event : TransportEvent} {u : Unit}
    (held : (s.console.connection i).session = some session)
    (minor : event ≠ .connected ∧ event ≠ .reconnecting ∧ event ≠ .ended)
    (h : (react i session event).Runs s u s') : Endured i s s' := by
  let status := (s.console.connection i).snapshot.status
  have hv := Scene.get?_of_held held
  have owned := owns_iff.2 held
  cases event with
  | connected => exact absurd rfl minor.1
  | reconnecting => exact absurd rfl minor.2.1
  | ended => exact absurd rfl minor.2.2
  | error reason =>
      obtain rfl := runs_change_iff.1 h
      refine ⟨rfl, Console.retryNotices_of_append [⟨.fail, reason⟩] ?_ ?_,
        status, fun _ => rfl, vitals_eq ?_⟩
      · rw [Scene.console_apply, onError, if_pos owned]
        rfl
      · simp [Notification.retry]
      · rw [Scene.board_apply, board_onError hv held]
        exact hv
  | close reason =>
      obtain rfl := runs_change_iff.1 h
      let told := (reason.map (⟨.fail, ·⟩ : String → Notification)).toList
      refine ⟨rfl, Console.retryNotices_of_append told ?_ ?_,
        if status.isConnected then .disconnected else status, ?_, vitals_eq ?_⟩
      · rw [Scene.console_apply, onClose, if_pos owned]
        cases reason with
        | none => exact (List.append_nil _).symm
        | some reason => rfl
      · cases reason <;> simp [told, Notification.retry]
      · intro down
        simp [ConnectionStatus.isConnected, status, down]
      · rw [Scene.board_apply, board_onClose hv held]
        exact Board.get?_put_self hv
  | message packet =>
      obtain rfl := runs_change_iff.1 h
      let mode := (s.console.connection i).snapshot.renderMode
      let told := Payload.receiveWarnings packet.payload mode
      refine ⟨rfl, Console.retryNotices_of_append told ?_
        Payload.retry_not_mem_receiveWarnings, status, fun _ => rfl, vitals_eq ?_⟩
      · simp only [Scene.console_apply, onMessage, owned, if_true]
        rfl
      · rw [Scene.board_apply, board_onMessage]
        exact hv

end Connection

/-! ## Steps -/

/-- Whether a step is an event of a session, other than that it came up or is over. -/
def Label.Struggles (i : ConnectionRef) (session : SessionId) : Label → Prop
  | .event j other happened =>
    j = i ∧ other = session ∧ happened ≠ .connected ∧ happened ≠ .ended
  | _ => False

def Label.isAttempt : Label → Bool
  | .event _ _ .reconnecting => true
  | _ => false

def attempts (transitions : List Transition) : Nat := transitions.countP (·.label.isAttempt)

@[simp] theorem attempts_append (first second : List Transition) :
    attempts (first ++ second) = attempts first + attempts second := List.countP_append

@[simp] theorem attempts_nil : attempts [] = 0 := rfl

@[simp] theorem attempts_cons (t : Transition) (rest : List Transition) :
    attempts (t :: rest) = attempts rest + if t.label.isAttempt then 1 else 0 :=
  List.countP_cons

namespace Transition

/-- Whether the transport accepts, in a step, to close a session. -/
def Accepts (session : SessionId) (t : Transition) : Prop :=
  session ∈ t.said.filterMap Exchange.closed?

/-- Whether a step gives a session up: it is asked to close, once, and no attempt is told of.  If it
cannot be closed, the connection stays as the last attempt left it; otherwise it is closing, and no
attempt counts any more. -/
structure GivesUp (i : ConnectionRef) (session : SessionId) (t : Transition) : Prop where
  closes : ∃ reply : Request.Reply (.close session),
    t.after.exchanges = t.before.exchanges ++ [⟨.close session, reply⟩] ∧
    let before := (t.before.console.connection i).snapshot
    let after := (t.after.console.connection i).snapshot
    match reply with
    | .error _ => after.status = .reconnecting Connection.maxAttempts ∧
        after.retryCount = Connection.maxAttempts ∧ after.live = before.live
    | .ok _ => after.status = .disconnecting ∧ after.retryCount = 0 ∧ after.live = .empty
  unwarned : t.after.console.retryNotices = t.before.console.retryNotices

instance (session : SessionId) (t : Transition) : Decidable (t.Accepts session) :=
  inferInstanceAs (Decidable (_ ∈ _))

variable {t : Transition} {session : SessionId}

theorem accepts_iff_mem {said : List Exchange}
    (e : t.after.exchanges = t.before.exchanges ++ said) :
    t.Accepts session ↔ ⟨.close session, .ok ()⟩ ∈ said := by
  have same : t.said = said := by rw [Transition.said, e, List.drop_left]
  rw [Accepts, same, List.mem_filterMap]
  constructor
  · rintro ⟨exchange, member, closed⟩
    rwa [Exchange.closed?_eq_some.1 closed] at member
  · intro member
    exact ⟨_, member, rfl⟩

end Transition

variable {i : ConnectionRef} {session : SessionId} {start s s' : Scene} {t : Transition}

/-- A step of a struggling session is an attempt, or is endured. -/
theorem Step.struggles {label : Label} (step : Step s label s')
    (struggles : label.Struggles i session)
    (held : (s.console.connection i).session = some session) :
    (label.isAttempt = true ∧ Connection.Attempted i session s s') ∨
      (label.isAttempt = false ∧ Connection.Endured i s s') := by
  cases step with
  | @event j other event _ _ member alive run =>
      rcases struggles with ⟨rfl, rfl, up, going⟩
      by_cases attempt : event = .reconnecting
      · subst attempt
        exact Or.inl ⟨rfl, Connection.onReconnecting_attempted held run⟩
      · have minor : Label.isAttempt (.event j other event) = false := by
          cases event with
          | reconnecting => exact absurd rfl attempt
          | connected | error | close | message | ended => rfl
        exact Or.inr ⟨minor, Connection.react_endured held ⟨up, attempt, going⟩ run⟩
  | call | direct | outside => exact struggles.elim

/-! ## Attempts -/

/-- What so many attempts of a session to come back leave, as long as no close of it was accepted:
the first few were counted, and told to the operator; for each later one a close was refused. -/
structure Scene.Tried (i : ConnectionRef) (session : SessionId) (start : Scene) (k : Nat)
    (s : Scene) : Prop where
  held : (s.console.connection i).session = some session
  retryCount : (s.console.connection i).snapshot.retryCount = min k Connection.maxAttempts
  status : 0 < k →
    (s.console.connection i).snapshot.status = .reconnecting (min k Connection.maxAttempts)
  live : (s.console.connection i).snapshot.live = (start.console.connection i).snapshot.live
  refused : ∃ errors : List TransportError, errors.length = k - Connection.maxAttempts ∧
    s.exchanges = start.exchanges ++ errors.map fun error => ⟨.close session, .error error⟩
  warned : s.console.retryNotices = start.console.retryNotices + min k Connection.maxAttempts

namespace Scene.Tried

variable {k : Nat}

theorem first (held : (start.console.connection i).session = some session)
    (fresh : (start.console.connection i).snapshot.retryCount = 0) :
    start.Tried i session 0 start where
  held := held
  retryCount := by simp [fresh]
  status := nofun
  live := rfl
  refused := ⟨[], rfl, by simp⟩
  warned := by simp

theorem endured (tried : start.Tried i session k s) (h : Connection.Endured i s s') :
    start.Tried i session k s' := by
  rcases h.vitals with ⟨status, kept, vitals⟩
  constructor
  case held => exact (congrArg Vitals.session vitals).trans tried.held
  case retryCount => exact (congrArg Vitals.retryCount vitals).trans tried.retryCount
  case status =>
    intro some
    have down := tried.status some
    have same : (s'.console.connection i).snapshot.status = status :=
      congrArg Vitals.status vitals
    rw [same, kept (by simp [down]), down]
  case live => exact (congrArg Vitals.live vitals).trans tried.live
  case refused =>
    rw [h.exchanges]
    exact tried.refused
  case warned => rw [h.unwarned, tried.warned]

/-- The next attempt counts, or is refused, or the close is accepted. -/
theorem attempted (tried : start.Tried i session k s)
    (h : Connection.Attempted i session s s') :
    start.Tried i session (k + 1) s' ∨
      s'.exchanges = s.exchanges ++ [⟨.close session, .ok ()⟩] := by
  have count := tried.retryCount
  rcases tried.refused with ⟨errors, length, said⟩
  cases h with
  | counted few exchanges warned vitals =>
      have next : min (k + 1) Connection.maxAttempts = min k Connection.maxAttempts + 1 := by
        omega
      refine Or.inl ⟨?_, ?_, ?_, ?_, ⟨errors, ?_, ?_⟩, ?_⟩
      · exact (congrArg Vitals.session vitals).trans tried.held
      · rw [next, ← count]
        exact congrArg Vitals.retryCount vitals
      · intro _
        rw [next, ← count]
        exact congrArg Vitals.status vitals
      · exact (congrArg Vitals.live vitals).trans tried.live
      · omega
      · rw [exchanges, said]
      · rw [warned, tried.warned, next]
        rfl
  | kept error many exchanges unwarned vitals =>
      have next : min (k + 1) Connection.maxAttempts = min k Connection.maxAttempts := by omega
      refine Or.inl ⟨?_, ?_, ?_, ?_, ⟨errors ++ [error], ?_, ?_⟩, ?_⟩
      · exact (congrArg Vitals.session vitals).trans tried.held
      · rw [next, ← count]
        exact congrArg Vitals.retryCount vitals
      · intro _
        have some : 0 < k := by
          unfold Connection.maxAttempts at *
          omega
        rw [next, ← tried.status some]
        exact congrArg Vitals.status vitals
      · exact (congrArg Vitals.live vitals).trans tried.live
      · rw [List.length_append, length, List.length_singleton]
        omega
      · rw [exchanges, said, List.map_append, List.append_assoc]
        rfl
      · rw [unwarned, tried.warned, next]
  | closed _ exchanges _ _ => exact Or.inr exchanges

/-- After the first few attempts, the next one gives the session up. -/
theorem givesUp (tried : start.Tried i session k t.before) (many : Connection.maxAttempts ≤ k)
    (h : Connection.Attempted i session t.before t.after) : t.GivesUp i session := by
  have last : min k Connection.maxAttempts = Connection.maxAttempts := Nat.min_eq_right many
  have some : 0 < k := Nat.lt_of_lt_of_le (by decide) many
  have status := tried.status some
  have count := tried.retryCount
  rw [last] at status count
  cases h with
  | counted few _ _ _ => omega
  | kept error _ exchanges unwarned vitals =>
      refine ⟨⟨.error error, exchanges, ?_, ?_, ?_⟩, unwarned⟩
      · exact (congrArg Vitals.status vitals).trans status
      · exact (congrArg Vitals.retryCount vitals).trans count
      · exact congrArg Vitals.live vitals
  | closed _ exchanges unwarned vitals =>
      refine ⟨⟨.ok (), exchanges, ?_, ?_, ?_⟩, unwarned⟩
      · have closing : (t.after.console.connection i).vitals.status =
            (t.before.console.connection i).vitals.closing.status := congrArg _ vitals
        refine closing.trans ?_
        simp [Vitals.closing, Vitals.announced, Connection.vitals, status,
          ConnectionStatus.isActive]
      · exact congrArg Vitals.retryCount vitals
      · exact congrArg Vitals.live vitals

end Scene.Tried

/-! ## Runs -/

/-- The session stays with its connection, and no attempt counts twice. -/
theorem Connection.Attempted.clings (h : Connection.Attempted i session s s')
    (held : (s.console.connection i).session = some session) :
    (s'.console.connection i).session = some session ∧
      (s'.console.connection i).snapshot.retryCount ≤
        (s.console.connection i).snapshot.retryCount + 1 := by
  cases h with
  | counted _ _ _ vitals =>
      exact ⟨(congrArg Vitals.session vitals).trans held,
        Nat.le_of_eq (congrArg Vitals.retryCount vitals)⟩
  | kept _ _ _ _ vitals =>
      have count : (s'.console.connection i).snapshot.retryCount =
          (s.console.connection i).snapshot.retryCount := congrArg Vitals.retryCount vitals
      exact ⟨(congrArg Vitals.session vitals).trans held, by omega⟩
  | closed _ _ _ vitals =>
      have count : (s'.console.connection i).snapshot.retryCount = 0 :=
        congrArg Vitals.retryCount vitals
      exact ⟨(congrArg Vitals.session vitals).trans held, by omega⟩

theorem Connection.Endured.clings (h : Connection.Endured i s s') :
    (s'.console.connection i).session = (s.console.connection i).session ∧
      (s'.console.connection i).snapshot.retryCount =
        (s.console.connection i).snapshot.retryCount := by
  rcases h.vitals with ⟨status, -, vitals⟩
  exact ⟨congrArg Vitals.session vitals, congrArg Vitals.retryCount vitals⟩

/-- A run in which a session struggles and nothing else happens, from a scene in which a connection
holds it and counts no attempt. -/
structure Run.Struggling (i : ConnectionRef) (session : SessionId) (start : Scene)
    (later : List Transition) (s : Scene) : Prop where
  run : Run start later s
  each : ∀ t ∈ later, t.label.Struggles i session
  held : (start.console.connection i).session = some session
  fresh : (start.console.connection i).snapshot.retryCount = 0

namespace Run.Struggling

variable {later front back : List Transition}

/-- What comes before a step is such a run, too. -/
theorem split (h : Struggling i session start (front ++ t :: back) s) :
    Struggling i session start front t.before ∧ Step t.before t.label t.after ∧
      t.label.Struggles i session := by
  rcases h.run.split rfl with ⟨previous, step⟩
  exact ⟨⟨previous, fun u member => h.each u (List.mem_append_left _ member), h.held, h.fresh⟩,
    step, h.each t (by simp)⟩

theorem last (h : Struggling i session start (later ++ [t]) s) : s = t.after :=
  (snoc_iff.1 h.run).2.2

theorem clings (h : Struggling i session start later s) :
    (s.console.connection i).session = some session ∧
      (s.console.connection i).snapshot.retryCount ≤ attempts later := by
  induction later using List.reverseRecOn generalizing s with
  | nil =>
      obtain rfl := nil_iff.1 h.run
      exact ⟨h.held, Nat.le_of_eq h.fresh⟩
  | append_singleton later t ih =>
      rcases h.split with ⟨earlier, step, struggles⟩
      obtain rfl := h.last
      rcases ih earlier with ⟨owned, few⟩
      rcases step.struggles struggles owned with ⟨attempt, happened⟩ | ⟨-, happened⟩
      · rcases happened.clings owned with ⟨still, more⟩
        refine ⟨still, ?_⟩
        simp only [attempts_append, attempts_cons, attempts_nil, attempt, if_true]
        omega
      · refine ⟨happened.clings.1.trans owned, ?_⟩
        rw [happened.clings.2, attempts_append]
        omega

/-- As long as no close was accepted, the attempts tell the state. -/
theorem tried (h : Struggling i session start later s)
    (unaccepted : ∀ u ∈ later, ¬ u.Accepts session) :
    start.Tried i session (attempts later) s := by
  induction later using List.reverseRecOn generalizing s with
  | nil =>
      obtain rfl := nil_iff.1 h.run
      exact .first h.held h.fresh
  | append_singleton later t ih =>
      rcases h.split with ⟨earlier, step, struggles⟩
      obtain rfl := h.last
      have tried := ih earlier fun u member => unaccepted u (by simp [member])
      have refused := unaccepted t (by simp)
      rw [attempts_append, attempts_cons, attempts_nil]
      rcases step.struggles struggles tried.held with ⟨attempt, happened⟩ | ⟨minor, happened⟩
      · rw [if_pos attempt]
        rcases tried.attempted happened with next | accepted
        · exact next
        · exact absurd ((Transition.accepts_iff_mem accepted).2 (by simp)) refused
      · rw [if_neg (by simp [minor])]
        exact tried.endured happened

/-- A close is accepted only for an attempt after the first few, and no attempt counts then. -/
theorem accepted (h : Struggling i session start (front ++ t :: back) s)
    (accepts : t.Accepts session) :
    t.label.isAttempt = true ∧ Connection.maxAttempts ≤ attempts front ∧
      (t.after.console.connection i).session = some session ∧
      (t.after.console.connection i).snapshot.retryCount = 0 := by
  rcases h.split with ⟨earlier, step, struggles⟩
  rcases earlier.clings with ⟨owned, few⟩
  rcases step.struggles struggles owned with ⟨attempt, happened⟩ | ⟨-, happened⟩
  · cases happened with
    | counted _ exchanges _ _ =>
        have unasked : t.after.exchanges = t.before.exchanges ++ [] := by simp [exchanges]
        cases (Transition.accepts_iff_mem unasked).1 accepts
    | kept error _ exchanges _ _ =>
        cases List.mem_singleton.1 ((Transition.accepts_iff_mem exchanges).1 accepts)
    | closed many _ _ vitals =>
        exact ⟨attempt, by omega, (congrArg Vitals.session vitals).trans owned,
          congrArg Vitals.retryCount vitals⟩
  · have unasked : t.after.exchanges = t.before.exchanges ++ [] := by simp [happened.exchanges]
    cases (Transition.accepts_iff_mem unasked).1 accepts

/-- After an accepted close no attempt counts until the next one. -/
theorem fresh_of_accepted (h : Struggling i session start (front ++ t :: back) s)
    (accepts : t.Accepts session) (calm : ∀ u ∈ back, u.label.isAttempt = false) :
    (s.console.connection i).session = some session ∧
      (s.console.connection i).snapshot.retryCount = 0 := by
  -- By induction on the steps since the close, from the last one.
  induction back using List.reverseRecOn generalizing s with
  | nil =>
      rcases h.accepted accepts with ⟨-, -, owned, count⟩
      obtain rfl := h.last
      exact ⟨owned, count⟩
  | append_singleton back u ih =>
      have minor : u.label.isAttempt = false := calm u (by simp)
      rw [← List.cons_append, ← List.append_assoc] at h
      rcases h.split with ⟨earlier, step, struggles⟩
      obtain rfl := h.last
      rcases ih earlier fun x member => calm x (by simp [member]) with ⟨owned, count⟩
      rcases step.struggles struggles owned with ⟨attempt, -⟩ | ⟨-, happened⟩
      · cases attempt.symm.trans minor
      · exact ⟨happened.clings.1.trans owned, happened.clings.2.trans count⟩

/-- While no close was accepted, every attempt after the first few gives the session up. -/
theorem givesUp (h : Struggling i session start (front ++ t :: back) s)
    (attempt : t.label.isAttempt = true) (many : Connection.maxAttempts ≤ attempts front)
    (unaccepted : ∀ u ∈ front, ¬ u.Accepts session) : t.GivesUp i session := by
  rcases h.split with ⟨earlier, step, struggles⟩
  have tried := earlier.tried unaccepted
  rcases step.struggles struggles tried.held with ⟨-, happened⟩ | ⟨minor, -⟩
  · exact tried.givesUp many happened
  · cases attempt.symm.trans minor

/-- The first attempt after an accepted close does not give the session up. -/
theorem not_givesUp {middle : List Transition} {u : Transition}
    (h : Struggling i session start ((front ++ t :: middle) ++ u :: back) s)
    (accepts : t.Accepts session) (calm : ∀ x ∈ middle, x.label.isAttempt = false)
    (attempt : u.label.isAttempt = true) : ¬ u.GivesUp i session := by
  intro gives
  rcases h.split with ⟨earlier, step, struggles⟩
  rcases earlier.fresh_of_accepted accepts calm with ⟨owned, count⟩
  have few : (u.before.console.connection i).snapshot.retryCount < Connection.maxAttempts := by
    rw [count]
    decide
  rcases gives.closes with ⟨reply, closes, -⟩
  rcases step.struggles struggles owned with ⟨-, happened⟩ | ⟨minor, -⟩
  · cases happened with
    | counted _ exchanges _ _ => simp [exchanges] at closes
    | kept _ many _ _ _ | closed many _ _ _ => exact absurd few many
  · cases attempt.symm.trans minor

/-- If every attempt after the first few gives the session up, none comes after an accepted
close. -/
theorem calm_of_accepted (h : Struggling i session start (front ++ t :: back) s)
    (accepts : t.Accepts session)
    (gives : ∀ front' u back', front ++ t :: back = front' ++ u :: back' →
      u.label.isAttempt = true → Connection.maxAttempts ≤ attempts front' → u.GivesUp i session) :
    ∀ u ∈ back, u.label.isAttempt = false := by
  have many := (h.accepted accepts).2.1
  -- By induction on what follows the close, as far as it is calm.
  suffices calm : ∀ middle rest, back = middle ++ rest →
      ∀ u ∈ middle, u.label.isAttempt = false from calm back [] (List.append_nil _).symm
  intro middle
  induction middle using List.reverseRecOn with
  | nil => exact fun _ _ _ member => nomatch member
  | append_singleton middle u ih =>
      intro rest whole
      have calm := ih (u :: rest) (by simp [whole])
      have split : front ++ t :: back = (front ++ t :: middle) ++ u :: rest := by simp [whole]
      have enough : Connection.maxAttempts ≤ attempts (front ++ t :: middle) := by
        rw [attempts_append]
        omega
      have minor : u.label.isAttempt = false := by
        rw [split] at h
        refine Bool.eq_false_iff.2 ?_
        intro attempt
        exact h.not_givesUp accepts calm attempt (gives _ u rest split attempt enough)
      intro x member
      rcases List.mem_append.1 member with member | member
      · exact calm x member
      · rw [List.mem_singleton.1 member]
        exact minor

/-- No close is accepted for the first few attempts. -/
theorem unaccepted (h : Struggling i session start later s)
    (few : attempts later ≤ Connection.maxAttempts) : ∀ t ∈ later, ¬ t.Accepts session := by
  intro t member accepts
  rcases List.append_of_mem member with ⟨front, back, rfl⟩
  rcases h.accepted accepts with ⟨attempt, many, -⟩
  rw [attempts_append, attempts_cons, if_pos attempt] at few
  omega

/-- The first few attempts are counted, and no close is asked for. -/
theorem counted (h : Struggling i session start later s) (some : 0 < attempts later)
    (few : attempts later ≤ Connection.maxAttempts) :
    (s.console.connection i).snapshot.status = .reconnecting (attempts later) ∧
      (s.console.connection i).snapshot.retryCount = attempts later ∧
      s.exchanges = start.exchanges ∧
      s.console.retryNotices = start.console.retryNotices + attempts later := by
  have tried := h.tried (h.unaccepted few)
  have all : min (attempts later) Connection.maxAttempts = attempts later := Nat.min_eq_left few
  rcases tried.refused with ⟨errors, length, said⟩
  have none : errors = [] := by
    rw [Nat.sub_eq_zero_of_le few] at length
    exact List.eq_nil_of_length_eq_zero length
  have status := tried.status some
  have count := tried.retryCount
  have warned := tried.warned
  rw [all] at status count warned
  rw [none, List.map_nil, List.append_nil] at said
  exact ⟨status, count, said, warned⟩

end Run.Struggling

/-- A connection that is connected after complete calls holds a session and counts no attempt. -/
theorem Run.struggling {settings : Settings} {catalog : Catalog} {storage : ProfileStorage}
    {fresh : Nat → ConnectionId} {clock : Int} {earlier : List Transition}
    (run : Run (.start settings catalog storage fresh clock) earlier start)
    (hi : i < start.console.connections.length)
    (up : (start.console.connection i).snapshot.status = .connected) :
    ∃ session, Run.Struggling i session start [] start := by
  have sound := run.orderly.sound i hi
  have active : (start.console.connection i).vitals.status.isActive = true := by
    simp [Connection.vitals, up, ConnectionStatus.isActive]
  have steady := sound.steady (Or.inr (Or.inl up))
  cases held : (start.console.connection i).session with
  | none => exact absurd held (sound.held active)
  | some session =>
      refine ⟨session, .start, ?_, held, steady⟩
      intro t member
      cases member

/-! ## The cap -/

/-- Whatever else a lost session tells, its first few attempts to come back are counted, and each
later one gives the session up, until a close is accepted; every later one does so exactly if none
comes after that.  A connected connection holds a session and counts no attempt. -/
theorem retries_capped (i : ConnectionRef) (start : Scene) :
    (∀ (settings : Settings) (catalog : Catalog) (storage : ProfileStorage)
        (fresh : Nat → ConnectionId) (clock : Int) (earlier : List Transition),
      Run (.start settings catalog storage fresh clock) earlier start →
        i < start.console.connections.length →
        (start.console.connection i).snapshot.status = .connected →
        ∃ session, Run.Struggling i session start [] start) ∧
    (∀ (session : SessionId) (s : Scene) (later : List Transition),
      Run.Struggling i session start later s →
        (0 < attempts later → attempts later ≤ Connection.maxAttempts →
          (s.console.connection i).snapshot.status = .reconnecting (attempts later) ∧
          (s.console.connection i).snapshot.retryCount = attempts later ∧
          s.exchanges = start.exchanges ∧
          s.console.retryNotices = start.console.retryNotices + attempts later) ∧
        ((∀ t ∈ later, ¬ t.Accepts session) → start.Tried i session (attempts later) s) ∧
        (∀ front t back, later = front ++ t :: back → t.label.isAttempt = true →
          Connection.maxAttempts ≤ attempts front → (∀ u ∈ front, ¬ u.Accepts session) →
          t.GivesUp i session) ∧
        ((∀ front t back, later = front ++ t :: back → t.label.isAttempt = true →
            Connection.maxAttempts ≤ attempts front → t.GivesUp i session) ↔
          ∀ front t back, later = front ++ t :: back → t.Accepts session →
            ∀ u ∈ back, u.label.isAttempt = false)) := by
  constructor
  · intro settings catalog storage fresh clock earlier run hi up
    exact run.struggling hi up
  · intro session s later h
    refine ⟨h.counted, h.tried, ?_, ?_, ?_⟩
    · rintro front t back rfl attempt many unaccepted
      exact h.givesUp attempt many unaccepted
    · rintro gives front t back rfl accepts
      exact h.calm_of_accepted accepts gives
    · rintro calm front t back rfl attempt many
      refine h.givesUp attempt many ?_
      intro u member accepts
      -- An accepted close before the attempt is one that the attempt comes after.
      rcases List.append_of_mem member with ⟨first, between, rfl⟩
      have later := calm first u (between ++ t :: back) (by simp) accepts t (by simp)
      cases attempt.symm.trans later

/-- The fourth attempt is refused a close, the fifth one is not. -/
theorem retries_capped_at_fifth :
    ∃ (earlier front : List Transition) (t : Transition) (start middle : Scene),
      Run .blank earlier start ∧
      (start.console.connection 0).snapshot.status = .connected ∧
      (∃ session, Run.Struggling 0 session start [] start) ∧
      Run.Struggling 0 0 start front middle ∧ attempts front = 4 ∧ start.Tried 0 0 4 middle ∧
      Run.Struggling 0 0 start (front ++ [t]) t.after ∧ t.Accepts 0 ∧ t.GivesUp 0 0 := by
  let opening : List Action :=
    [.call (.getOrCreate ⟨0⟩ (some default)), .direct 0 (.connect default none),
      .event 0 0 .connected]
  let lost : List Action :=
    [.event 0 0 .reconnecting, .event 0 0 (.error "lost"), .event 0 0 .reconnecting,
      .event 0 0 (.close none), .event 0 0 .reconnecting]
  let stuck : List Action := [.event 0 0 .reconnecting, .event 0 0 (.close (some "lost"))]
  let start := (Scene.blank.play .obliging opening).2
  let few := start.play .obliging lost
  let many := few.2.play .refusing stuck
  let t := (Action.event 0 0 .reconnecting).take .obliging many.2
  have reached : Run .blank _ start :=
    Run.play Responder.fair_obliging .start (by decide : Scene.blank.Playable .obliging opening)
  have counted : Run start few.1 few.2 :=
    Run.play Responder.fair_obliging .start (by decide : start.Playable .obliging lost)
  have refused : Run start (few.1 ++ many.1) many.2 :=
    Run.play Responder.fair_refusing counted (by decide : few.2.Playable .refusing stuck)
  have enabled : (Action.event 0 0 .reconnecting).Enabled many.2 := by decide
  have step : Step many.2 t.label t.after := Action.step_take Responder.fair_obliging enabled
  have run : Run start ((few.1 ++ many.1) ++ [⟨many.2, t.label, t.after⟩]) t.after :=
    .step refused step
  rw [Action.take_eta] at run
  have held : (start.console.connection 0).session = some 0 := by decide
  have fresh : (start.console.connection 0).snapshot.retryCount = 0 := by decide
  have each : ∀ u ∈ (few.1 ++ many.1) ++ [t], u.label.Struggles 0 0 := by
    simp [few, many, lost, stuck, t, Scene.play, Action.take, Label.Struggles]
  have unaccepted : ∀ u ∈ few.1 ++ many.1, ¬ u.Accepts 0 := by decide
  have up : (start.console.connection 0).snapshot.status = .connected := by decide
  have first := (retries_capped 0 start).1 _ _ _ _ _ _ reached (by decide) up
  have before : Run.Struggling 0 0 start (few.1 ++ many.1) many.2 :=
    ⟨refused, fun u member => each u (List.mem_append_left _ member), held, fresh⟩
  have whole : Run.Struggling 0 0 start ((few.1 ++ many.1) ++ [t]) t.after :=
    ⟨run, each, held, fresh⟩
  have tried := ((retries_capped 0 start).2 0 _ _ before).2.1 unaccepted
  have gives := ((retries_capped 0 start).2 0 _ _ whole).2.2.1 _ t [] rfl rfl (by decide)
    unaccepted
  have four : attempts (few.1 ++ many.1) = 4 := by decide
  have accepts : t.Accepts 0 := by decide
  rw [four] at tried
  exact ⟨_, _, t, start, many.2, reached, up, first, before, four, tried, whole, accepts, gives⟩

/-- Otherwise the console starts again: the attempt after the accepted close is counted, and told to
the operator.  Calls that overlap even leave a connected connection with all attempts counted: a
close that is refused takes back the announcement of another one. -/
theorem retries_start_again :
    (∃ (earlier front : List Transition) (t : Transition) (start : Scene),
      Run .blank earlier start ∧
      (start.console.connection 0).snapshot.status = .connected ∧
      Run.Struggling 0 0 start (front ++ [t]) t.after ∧ t.label.isAttempt = true ∧
      Connection.maxAttempts ≤ attempts front ∧
      t.after.console.retryNotices = t.before.console.retryNotices + 1 ∧ ¬ t.GivesUp 0 0) ∧
    ∃ (turns : List Turn) (T : Traffic),
      Traffic.Run .long (.quiet (.furnished [.default ⟨7⟩])) turns T ∧
      (∀ task ∈ T.tasks, task.isOver = true) ∧
      (T.connection 0).session = some 0 ∧ (T.connection 0).snapshot.status = .connected ∧
      (T.connection 0).snapshot.retryCount = Connection.maxAttempts ∧
      ((T.enter .long (.event 0 0 .reconnecting)).tasks.map Task.requests).getLast? =
        some [.close 0] := by
  constructor
  · let opening : List Action :=
      [.call (.getOrCreate ⟨0⟩ (some default)), .direct 0 (.connect default none),
        .event 0 0 .connected]
    let lost : List Action := List.replicate 4 (.event 0 0 .reconnecting)
    let start := (Scene.blank.play .obliging opening).2
    let many := start.play .obliging lost
    let t := (Action.event 0 0 .reconnecting).take .obliging many.2
    have reached : Run .blank _ start :=
      Run.play Responder.fair_obliging .start (by decide : Scene.blank.Playable .obliging opening)
    have closed : Run start many.1 many.2 :=
      Run.play Responder.fair_obliging .start (by decide : start.Playable .obliging lost)
    have enabled : (Action.event 0 0 .reconnecting).Enabled many.2 := by decide
    have step : Step many.2 t.label t.after := Action.step_take Responder.fair_obliging enabled
    have run : Run start (many.1 ++ [⟨many.2, t.label, t.after⟩]) t.after := .step closed step
    rw [Action.take_eta] at run
    have each : ∀ u ∈ many.1 ++ [t], u.label.Struggles 0 0 := by
      simp [many, lost, t, Scene.play, Action.take, Label.Struggles, List.replicate]
    have whole : Run.Struggling 0 0 start (many.1 ++ [t]) t.after :=
      ⟨run, each, by decide, by decide⟩
    have unasked : t.after.exchanges.length = t.before.exchanges.length := by decide
    have warned : t.after.console.retryNotices = t.before.console.retryNotices + 1 := by decide
    have silent : ¬ t.GivesUp 0 0 := by
      intro gives
      rcases gives.closes with ⟨reply, closes, -⟩
      rw [closes] at unasked
      simp at unasked
    exact ⟨_, _, t, start, reached, by decide, whole, rfl, by decide, warned, silent⟩
  · -- The session is lost while the operator's close is under way; both closes are refused.
    have playable : (Traffic.quiet (.furnished [.default ⟨7⟩])).Playable .long
        [.start (.direct 0 (.connect (.default ⟨7⟩) none)), .go 0, .start (.event 0 0 .connected),
          .start (.direct 0 .disconnect), .start (.event 0 0 .reconnecting),
          .start (.event 0 0 .reconnecting), .start (.event 0 0 .reconnecting),
          .start (.event 0 0 .reconnecting), .refuse 2, .refuse 6] := by
      decide
    have run := Traffic.Run.play .start playable
    exact ⟨_, _, run, by decide, by decide, by decide, by decide, by decide⟩

end DeviceConsole
