import DeviceConsole.Proofs.Session.Attempt

/-!
# The board of a console

What becomes of sessions depends on little of a console: the state of each connection, the gate, and
who refers to whom.  This file defines:

* `Vitals` and `Board`, that part of a connection and of a scene;
* `Board.Move`, the ways in which one connection and the gate may move, with the marks of each;
* `Board.Extends`, what else may happen to a board: more connections, other references;
* one equation for each small change of a console, which says what it does to the board.
-/

namespace DeviceConsole

/-! ## Boards -/

/-- The part of a connection that the life of its sessions depends on. -/
structure Vitals where
  status : ConnectionStatus
  retryCount : Nat
  session : Option SessionId
  live : KeyMap Bool
  destroyed : Bool

def Connection.vitals (c : Connection) : Vitals :=
  ⟨c.snapshot.status, c.snapshot.retryCount, c.session, c.snapshot.live, c.destroyed⟩

namespace Vitals

def initial : Vitals := ⟨.disconnected, 0, none, .empty, false⟩

/-- After a new session was opened. -/
def connecting (session : SessionId) (v : Vitals) : Vitals :=
  { v with session := some session, status := .connecting, retryCount := 0, live := .empty }

/-- After no session could be opened. -/
def unopened (v : Vitals) : Vitals :=
  { v with session := none, status := .disconnected, retryCount := 0, live := .empty }

/-- While the session is asked to close. -/
def announced (v : Vitals) : Vitals :=
  { v with status := if v.status.isActive then .disconnecting else v.status }

/-- The announcement of a close can be taken back. -/
theorem announced_back (v : Vitals) :
    { v.announced with
      status := if v.announced.status = .disconnecting then v.status else v.announced.status } =
      v := by
  cases active : v.status.isActive with
  | true => simp [announced, active]
  | false => simp [announced, active]

/-- After the session was asked to close. -/
def closing (v : Vitals) : Vitals := { v.announced with retryCount := 0, live := .empty }

/-- After the connection was destroyed. -/
def retired (v : Vitals) : Vitals :=
  { v with
    session := none, status := .destroyed, retryCount := 0, live := .empty, destroyed := true }

/-- After the session was lost and tries to come back. -/
def retrying (v : Vitals) : Vitals :=
  { v with retryCount := v.retryCount + 1, status := .reconnecting (v.retryCount + 1) }

/-- What an outcome of its session makes of a connection. -/
inductive Settles (v : Vitals) : Vitals → Prop where
  | up : Settles v { v with status := .connected, retryCount := 0 }
  | failed : Settles v v
  | dropped :
      Settles v { v with status := if v.status.isConnected then .disconnected else v.status }
  | ended : Settles v { v with session := none, status := .disconnected, live := .empty }
  | gaveUp : Settles v v.closing

end Vitals

/-- The part of a scene that the life of sessions depends on. -/
structure Board where
  vitals : List Vitals
  current : List (ConnectionId × ConnectionRef)
  handlers : List (SessionId × ConnectionRef)
  gateHeld : Bool
  opened : List SessionId

/-- The board of a console whose transport opened the given sessions. -/
def Console.board (c : Console) (opened : List SessionId) : Board :=
  ⟨c.connections.map Connection.vitals, c.current, c.handlers, c.gateHeld, opened⟩

def Scene.board (s : Scene) : Board := s.console.board s.opened

namespace Board

def put (b : Board) (i : ConnectionRef) (v : Vitals) : Board :=
  { b with vitals := b.vitals.set i v }

def setGate (b : Board) (held : Bool) : Board := { b with gateHeld := held }

/-- Adds a new session, whose events go to a connection. -/
def enroll (b : Board) (session : SessionId) (i : ConnectionRef) : Board :=
  { b with handlers := b.handlers ++ [(session, i)], opened := b.opened ++ [session] }

/-! ## Moves -/

/-- What one call or event makes of a board, with its marks.  Each move touches one connection. -/
inductive Move (b : Board) : List Mark → Board → Prop where
  | idle : Move b [] b
  | opened {i : ConnectionRef} {v : Vitals} {session : SessionId} :
      b.vitals[i]? = some v → v.destroyed = false → b.gateHeld = false → session ∉ b.opened →
      Move b [.began i]
        (((b.put i (v.connecting session)).setGate true).enroll session i)
  | unopened {i : ConnectionRef} {v : Vitals} :
      b.vitals[i]? = some v → v.destroyed = false → b.gateHeld = false →
      Move b [] (b.put i v.unopened)
  | kept (i : ConnectionRef) : Move b [.withdrew i] b
  | closed {i : ConnectionRef} {v : Vitals} {session : SessionId} :
      b.vitals[i]? = some v → v.session = some session →
      Move b [.withdrew i] (b.put i v.closing)
  | destroyed {i : ConnectionRef} {v : Vitals} :
      b.vitals[i]? = some v → v.destroyed = false → Connection.isAttempt v.status = false →
      Move b [.destroyed i] (b.put i v.retired)
  | aborted {i : ConnectionRef} {v : Vitals} :
      b.vitals[i]? = some v → v.destroyed = false → Connection.isAttempt v.status = true →
      Move b [.settled i, .destroyed i] ((b.put i v.retired).setGate false)
  | gone {i : ConnectionRef} {v : Vitals} :
      b.vitals[i]? = some v → v.destroyed = true → Move b [.destroyed i] b
  | marked {i : ConnectionRef} {v : Vitals} {session : SessionId} (live : KeyMap Bool) :
      b.vitals[i]? = some v → v.session = some session →
      Move b [] (b.put i { v with live := live })
  | forgot {i : ConnectionRef} {v : Vitals} (filter : String) :
      b.vitals[i]? = some v → Move b [] (b.put i { v with live := v.live.erase filter })
  | retried {i : ConnectionRef} {v : Vitals} {session : SessionId} :
      b.vitals[i]? = some v → v.destroyed = false → v.session = some session →
      v.retryCount < Connection.maxAttempts →
      Move b [.began i] ((b.put i v.retrying).setGate true)
  | settled {i : ConnectionRef} {v v' : Vitals} {session : SessionId} :
      b.vitals[i]? = some v → v.destroyed = false → v.session = some session → v.Settles v' →
      Move b [.settled i] ((b.put i v').setGate false)

theorem Move.current {b b' : Board} {marks : List Mark} (move : b.Move marks b') :
    b'.current = b.current := by
  cases move <;> rfl

/-- What may happen to a board besides: connections are made, or taken out of use, and handlers
stop.  References lead to connections all the time. -/
structure Extends (b b' : Board) : Prop where
  vitals : ∃ n, b'.vitals = b.vitals ++ List.replicate n .initial
  current : ∀ entry ∈ b'.current, entry ∈ b.current ∨ entry.2 < b'.vitals.length
  handlers : ∀ entry ∈ b'.handlers, entry ∈ b.handlers
  gateHeld : b'.gateHeld = b.gateHeld
  opened : b'.opened = b.opened

theorem Extends.refl (b : Board) : b.Extends b :=
  ⟨⟨0, by simp⟩, fun _ h => Or.inl h, fun _ h => h, rfl, rfl⟩

theorem Extends.length_le {b b' : Board} (h : b.Extends b') :
    b.vitals.length ≤ b'.vitals.length := by
  rcases h.vitals with ⟨n, hn⟩
  simp [hn]

theorem Extends.trans {a b c : Board} (first : a.Extends b) (second : b.Extends c) :
    a.Extends c := by
  rcases first.vitals with ⟨m, hm⟩
  rcases second.vitals with ⟨n, hn⟩
  refine ⟨⟨m + n, ?_⟩, ?_, ?_, ?_, ?_⟩
  · rw [hn, hm, List.append_assoc, List.replicate_append_replicate]
  · intro entry h
    rcases second.current entry h with h | h
    · rcases first.current entry h with h | h
      · exact Or.inl h
      · exact Or.inr (Nat.lt_of_lt_of_le h second.length_le)
    · exact Or.inr h
  · intro entry h
    exact first.handlers entry (second.handlers entry h)
  · exact second.gateHeld.trans first.gateHeld
  · exact second.opened.trans first.opened

/-- The vitals on an extended board are old ones, or initial. -/
theorem Extends.get? {b b' : Board} (h : b.Extends b') {i : ConnectionRef} {v : Vitals}
    (hv : b'.vitals[i]? = some v) : b.vitals[i]? = some v ∨ v = .initial := by
  rcases h.vitals with ⟨n, hn⟩
  rw [hn, List.getElem?_append] at hv
  split at hv
  · exact Or.inl hv
  · exact Or.inr (List.eq_of_mem_replicate (List.mem_of_getElem? hv))

theorem Extends.get?_of_get? {b b' : Board} (h : b.Extends b') {i : ConnectionRef} {v : Vitals}
    (hv : b.vitals[i]? = some v) : b'.vitals[i]? = some v := by
  rcases h.vitals with ⟨n, hn⟩
  rcases List.getElem?_eq_some_iff.1 hv with ⟨hi, -⟩
  rw [hn, List.getElem?_append_left hi, hv]

/-! ## Getting and putting -/

theorem get?_put_self {b : Board} {i : ConnectionRef} {v w : Vitals}
    (hv : b.vitals[i]? = some v) : (b.put i w).vitals[i]? = some w := by
  rcases List.getElem?_eq_some_iff.1 hv with ⟨hi, -⟩
  simp [put, hi]

theorem get?_put_of_ne {b : Board} {i j : ConnectionRef} {w : Vitals} (h : j ≠ i) :
    (b.put i w).vitals[j]? = b.vitals[j]? := by
  simp [put, Ne.symm h]

@[simp] theorem length_put (b : Board) (i : ConnectionRef) (v : Vitals) :
    (b.put i v).vitals.length = b.vitals.length := by
  simp [put]

theorem get?_put {b : Board} {i j : ConnectionRef} {v w : Vitals}
    (h : (b.put i w).vitals[j]? = some v) :
    (j = i ∧ v = w) ∨ (j ≠ i ∧ b.vitals[j]? = some v) := by
  by_cases same : j = i
  · subst same
    left
    rcases List.getElem?_eq_some_iff.1 h with ⟨hj, -⟩
    rw [length_put] at hj
    simp [put, hj] at h
    exact ⟨rfl, h.symm⟩
  · rw [get?_put_of_ne same] at h
    exact Or.inr ⟨same, h⟩

@[simp] theorem put_put (b : Board) (i : ConnectionRef) (v w : Vitals) :
    (b.put i v).put i w = b.put i w := by
  simp [put]

theorem put_eq_self {b : Board} {i : ConnectionRef} {v : Vitals} (hv : b.vitals[i]? = some v) :
    b.put i v = b := by
  rcases List.getElem?_eq_some_iff.1 hv with ⟨hi, rfl⟩
  simp [put]

@[simp] theorem put_setGate (b : Board) (i : ConnectionRef) (v : Vitals) (held : Bool) :
    (b.setGate held).put i v = (b.put i v).setGate held := rfl

@[simp] theorem setGate_setGate (b : Board) (first second : Bool) :
    (b.setGate first).setGate second = b.setGate second := rfl

theorem setGate_eq_self {b : Board} {held : Bool} (h : b.gateHeld = held) :
    b.setGate held = b := by
  subst h
  rfl

end Board

/-! ## What changes of a console do to its board -/

namespace Console

variable {c : Console} {opened : List SessionId}

/-- Every connection stands on the board. -/
theorem board_get?_iff {i : ConnectionRef} {v : Vitals} :
    (c.board opened).vitals[i]? = some v ↔
      i < c.connections.length ∧ v = (c.connection i).vitals := by
  by_cases hi : i < c.connections.length
  · simp [board, connection, hi, eq_comm]
  · simp [board, hi]

@[simp] theorem board_update (i : ConnectionRef) (change : Connection → Connection) :
    (c.update i change).board opened =
      (c.board opened).put i (change (c.connection i)).vitals := by
  have mapped : (c.connections.modify i change).map Connection.vitals =
      (c.connections.map Connection.vitals).set i (change (c.connection i)).vitals := by
    apply List.ext_getElem?
    intro j
    by_cases hj : i = j
    · subst hj
      by_cases hi : i < c.connections.length
      · simp [connection, hi]
      · -- A reference to no connection changes nothing.
        simp [hi]
    · simp [hj]
  simp [board, update, Board.put, mapped]

@[simp] theorem board_present (i : ConnectionRef) (change : Snapshot → Snapshot) :
    (c.present i change).board opened =
      (c.board opened).put i ((c.connection i).present change).vitals := board_update i _

/-- A change that the vitals do not show leaves the board as it is. -/
theorem board_update_of_vitals {i : ConnectionRef} {change : Connection → Connection}
    (h : (change (c.connection i)).vitals = (c.connection i).vitals) :
    (c.update i change).board opened = c.board opened := by
  rw [board_update, h]
  by_cases hi : i < c.connections.length
  · exact Board.put_eq_self (board_get?_iff.2 ⟨hi, rfl⟩)
  · -- Without a connection there is nothing to replace, whatever the default connection shows.
    have short : (c.connections.map Connection.vitals).length ≤ i := by simpa using hi
    simp [Board.put, board, List.set_eq_of_length_le short]

@[simp] theorem board_notify (level : NoticeLevel) (text : String) :
    (c.notify level text).board opened = c.board opened := rfl

@[simp] theorem board_notifyAll (notices : List Notification) :
    (c.notifyAll notices).board opened = c.board opened := rfl

@[simp] theorem board_report (audience : Audience) (text : String) :
    (c.report audience text).board opened = c.board opened := by
  cases audience <;> rfl

@[simp] theorem board_confirm (audience : Audience) (text : String) :
    (c.confirm audience text).board opened = c.board opened := by
  cases audience <;> rfl

@[simp] theorem board_raise (scope : ThingScope) (id : ConnectionId) (kind : ThingEventKind) :
    (c.raise scope id kind).board opened = c.board opened := rfl

@[simp] theorem board_raiseFor (i : ConnectionRef) (kind : ThingEventKind) :
    (c.raiseFor i kind).board opened = c.board opened := rfl

@[simp] theorem board_setFocus (id : Option ConnectionId) :
    (c.setFocus id).board opened = c.board opened := rfl

@[simp] theorem board_holdGate :
    c.holdGate.board opened = (c.board opened).setGate true := rfl

@[simp] theorem board_releaseGate :
    c.releaseGate.board opened = (c.board opened).setGate false := rfl

@[simp] theorem board_configure (p : Profile) :
    (c.configure p).board opened = c.board opened := by
  unfold configure
  split
  · exact board_update_of_vitals rfl
  · rfl

end Console

namespace Scene

@[simp] theorem board_apply (s : Scene) (change : Console → Console) :
    (s.apply change).board = (change s.console).board s.opened := rfl

@[simp] theorem board_note (s : Scene) (r : Request) (reply : r.Reply) :
    (s.note r reply).board =
      s.console.board (s.opened ++ (Exchange.opened? ⟨r, reply⟩).toList) := by
  simp [board]

@[simp] theorem board_fold (s : Scene) : s.console.board s.opened = s.board := rfl

variable {s : Scene} {i : ConnectionRef} {session : SessionId}

theorem get?_of_lt (hi : i < s.console.connections.length) :
    s.board.vitals[i]? = some (s.console.connection i).vitals := Console.board_get?_iff.2 ⟨hi, rfl⟩

/-- A connection that holds a session stands on the board. -/
theorem get?_of_held (held : (s.console.connection i).session = some session) :
    s.board.vitals[i]? = some (s.console.connection i).vitals := by
  by_cases hi : i < s.console.connections.length
  · exact get?_of_lt hi
  · have unknown : s.console.connection i = default := by simp [Console.connection, hi]
    rw [unknown] at held
    cases held

end Scene

end DeviceConsole
