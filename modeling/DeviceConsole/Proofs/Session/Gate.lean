import DeviceConsole.Proofs.Session.Reachable

/-!
# The gate

The gate has no owner: whoever begins an attempt closes it, and whoever has an outcome opens it.
This file proves

* that the gate follows the marks of a run, `Run.gateHeld_eq`, and so when it is closed amid an
  attempt;
* that somebody is there to open a closed gate after a move, `Board.Move.attended`, unless the move
  destroyed the last one, `Board.Move.not_attended`, and so when somebody is there after a run;
* that a gate nobody can open stays closed, `Run.blocked`.
-/

namespace DeviceConsole

variable {settings : Settings} {catalog : Catalog} {storage : ProfileStorage}
  {fresh : Nat → ConnectionId} {clock : Int} {transitions : List Transition} {s : Scene}

/-! ## Who closes and opens the gate -/

theorem Board.Move.gateHeld {b b' : Board} {marks : List Mark} (move : b.Move marks b') :
    b'.gateHeld = marks.foldl Mark.gate b.gateHeld := by
  cases move <;> rfl

/-- The gate follows the marks: a beginning closes it, an outcome opens it. -/
theorem Run.gateHeld_eq (run : Run (.start settings catalog storage fresh clock) transitions s) :
    s.console.gateHeld = (marksOf transitions).foldl Mark.gate false := by
  induction run with
  | start => exact (Scene.extends_start _ _ _ _ _).gateHeld
  | step previous step ih =>
      rcases step.reaches previous.sound with ⟨middle, grown, move⟩
      rw [marksOf_append, marksOf_singleton, List.foldl_append, ← ih]
      have after := move.gateHeld
      rw [grown.gateHeld] at after
      exact after

/-- Amid an attempt the gate is closed unless another connection had an outcome, and no attempt
began since; while it is closed, no connect of any connection does anything. -/
theorem Run.gateHeld_iff_of_inFlight {i : ConnectionRef}
    (run : Run (.start settings catalog storage fresh clock) transitions s)
    (flight : InFlight i (marksOf transitions)) :
    (s.console.gateHeld = true ↔ ¬ Preempted i (marksOf transitions)) ∧
    (¬ Preempted i (marksOf transitions) →
      ∀ (j : ConnectionRef) (p : Profile) (token : Option String)
        (result : Except ConsoleError Bool) (s' : Scene),
        (Connection.connect j p token).Runs s result s' →
          (result = .ok false ∨ result = .error .destroyed) ∧ s' = s) := by
  have opened : s.console.gateHeld = false ↔ Preempted i (marksOf transitions) := by
    rw [run.gateHeld_eq, foldl_gate_eq_false_iff, flight.settledLast_iff]
    constructor
    · -- That nothing began before is out of the question amid an attempt.
      rintro (⟨-, none⟩ | preempted)
      · exact absurd flight.began_mem (none i)
      · exact preempted
    · exact Or.inr
  have closed : s.console.gateHeld = true ↔ ¬ Preempted i (marksOf transitions) := by
    rw [← opened, Bool.not_eq_false]
  refine ⟨closed, ?_⟩
  intro alone j p token result s' h
  exact Connection.connect_runs_of_held (closed.2 alone) h

/-- The second of two connections is alone with its attempt after the first one came up. -/
theorem Run.gateHeld_iff_of_inFlight_second :
    ∃ transitions s, Run .blank transitions s ∧ InFlight 1 (marksOf transitions) ∧
      (s.console.gateHeld = true ↔ ¬ Preempted 1 (marksOf transitions)) ∧
      (¬ Preempted 1 (marksOf transitions) →
        ∀ (j : ConnectionRef) (p : Profile) (token : Option String)
          (result : Except ConsoleError Bool) (s' : Scene),
          (Connection.connect j p token).Runs s result s' →
            (result = .ok false ∨ result = .error .destroyed) ∧ s' = s) := by
  have playable : Scene.blank.Playable .obliging
      [.call (.getOrCreate ⟨0⟩ (some default)), .call (.getOrCreate ⟨1⟩ (some default)),
        .direct 0 (.connect default none), .event 0 0 .connected,
        .direct 1 (.connect default none)] := by
    decide
  have run := Run.play Responder.fair_obliging .start playable
  have flight : InFlight 1 [.began 0, .settled 0, .began 1] :=
    ⟨[.began 0, .settled 0], [], rfl, nofun⟩
  exact ⟨_, _, run, flight, Run.gateHeld_iff_of_inFlight run flight⟩

/-- An error of the first connection opens the gate amid the attempt of the second one, and lets
another connect through. -/
theorem Run.gate_opened_amid_attempt :
    ∃ transitions s, Run .blank transitions s ∧ InFlight 1 (marksOf transitions) ∧
      s.console.gateHeld = false ∧
      ∃ s', (Connection.connect 0 default none).Runs s (.ok true) s' := by
  have playable : Scene.blank.Playable .obliging
      [.call (.getOrCreate ⟨0⟩ (some default)), .call (.getOrCreate ⟨1⟩ (some default)),
        .direct 0 (.connect default none), .event 0 0 .connected,
        .direct 1 (.connect default none), .event 0 0 (.error "")] := by
    decide
  have run := Run.play Responder.fair_obliging .start playable
  have flight : InFlight 1 [.began 0, .settled 0, .began 1, .settled 0] :=
    ⟨[.began 0, .settled 0], [.settled 0], rfl, by simp [Mark.Ends]⟩
  exact ⟨_, _, run, flight, by decide, _, Operation.runs_perform Responder.fair_obliging _ _⟩

/-! ## Who can open a closed gate -/

/-- Whether a connection is in a state that an outcome of its session ends. -/
structure Vitals.Pending (v : Vitals) : Prop where
  alive : v.destroyed = false
  held : v.session ≠ none
  status : Connection.isAttempt v.status = true ∨ v.status = .disconnecting

theorem Connection.isActive_of_isAttempt {status : ConnectionStatus}
    (h : Connection.isAttempt status = true) : status.isActive = true := by
  cases status with
  | connecting | reconnecting => rfl
  | disconnected | connected | disconnecting | destroyed => cases h

theorem Vitals.Pending.active {v : Vitals} (h : v.Pending) : v.status.isActive = true := by
  rcases h.status with trying | leaving
  · exact Connection.isActive_of_isAttempt trying
  · rw [leaving]
    rfl

namespace Board

variable {b b' : Board} {marks : List Mark} {i j : ConnectionRef} {v w : Vitals}

/-- Whether somebody is there to open the gate, if it is closed. -/
def Attended (b : Board) : Prop :=
  b.gateHeld = true → ∃ (i : ConnectionRef) (v : Vitals), b.vitals[i]? = some v ∧ v.Pending

/-- Whether the gate is closed, and nobody can open it but a connection that is disconnecting. -/
structure Relies (b : Board) (i : ConnectionRef) : Prop where
  gateHeld : b.gateHeld = true
  leaving : ∃ v, b.vitals[i]? = some v ∧ v.Pending ∧ v.status = .disconnecting
  alone : ∀ {j : ConnectionRef} {w : Vitals}, b.vitals[j]? = some w → w.Pending → j = i

theorem not_pending_initial : ¬ Vitals.initial.Pending := fun h => h.held rfl

theorem Extends.pending (grown : b.Extends b') (hv : b'.vitals[i]? = some v) (h : v.Pending) :
    b.vitals[i]? = some v := by
  rcases grown.get? hv with before | rfl
  · exact before
  · exact absurd h not_pending_initial

theorem Extends.attended (grown : b.Extends b') : b'.Attended ↔ b.Attended := by
  unfold Attended
  rw [grown.gateHeld]
  constructor
  · intro h held
    rcases h held with ⟨i, v, hv, pending⟩
    exact ⟨i, v, grown.pending hv pending, pending⟩
  · intro h held
    rcases h held with ⟨i, v, hv, pending⟩
    exact ⟨i, v, grown.get?_of_get? hv, pending⟩

theorem Extends.relies_iff (grown : b.Extends b') : b'.Relies i ↔ b.Relies i := by
  constructor
  · rintro ⟨held, ⟨v, hv, pending, status⟩, alone⟩
    refine ⟨by rw [← grown.gateHeld, held], ⟨v, grown.pending hv pending, pending, status⟩, ?_⟩
    intro j w hw
    exact alone (grown.get?_of_get? hw)
  · rintro ⟨held, ⟨v, hv, pending, status⟩, alone⟩
    refine ⟨by rw [grown.gateHeld, held], ⟨v, grown.get?_of_get? hv, pending, status⟩, ?_⟩
    intro j w hw leaving
    exact alone (grown.pending hw leaving) leaving

/-- If somebody is pending and stays so whenever it is the one that moves, somebody is pending
afterwards. -/
theorem Attended.put (h : b.Attended) (hv : b.vitals[i]? = some v)
    (keep : v.Pending → w.Pending) : (b.put i w).Attended := by
  intro held
  rcases h held with ⟨j, u, hu, pending⟩
  by_cases same : j = i
  · subst same
    rw [hv] at hu
    cases hu
    exact ⟨j, w, get?_put_self hv, keep pending⟩
  · exact ⟨j, u, by rw [get?_put_of_ne same, hu], pending⟩

theorem attended_of_open (h : b.gateHeld = false) : b.Attended := by
  intro held
  rw [h] at held
  cases held

/-- A move leaves somebody to open the gate, unless it destroys the last one. -/
theorem Move.attended (move : b.Move marks b') (h : b.Attended)
    (spared : ∀ i, .destroyed i ∈ marks → ¬ b.Relies i) : b'.Attended := by
  cases move with
  | idle => exact h
  | @opened i v session hv alive _ _ =>
      intro _
      exact ⟨i, v.connecting session, get?_put_self hv, alive, nofun, Or.inl rfl⟩
  | unopened hv _ free => exact attended_of_open free
  | kept i => exact h
  | closed hv held =>
      refine h.put hv ?_
      intro pending
      exact ⟨pending.alive, pending.held, Or.inr (if_pos pending.active)⟩
  | @destroyed i v hv _ attempt =>
      -- Somebody else is there, or the gate relied on the connection that was destroyed.
      intro held
      by_cases other : ∃ (k : ConnectionRef) (w : Vitals),
          k ≠ i ∧ b.vitals[k]? = some w ∧ w.Pending
      · rcases other with ⟨k, w, differs, hw, pending⟩
        exact ⟨k, w, by rw [get?_put_of_ne differs, hw], pending⟩
      · have only : ∀ {k : ConnectionRef} {w : Vitals}, b.vitals[k]? = some w → w.Pending →
            k = i := by
          intro k w hw pending
          by_cases same : k = i
          · exact same
          · exact absurd ⟨k, w, same, hw, pending⟩ other
        rcases h held with ⟨j, u, hu, pending⟩
        rcases only hu pending with rfl
        rw [hv] at hu
        cases hu
        have leaving : v.status = .disconnecting := by
          rcases pending.status with trying | leaving
          · rw [attempt] at trying
            cases trying
          · exact leaving
        exact absurd ⟨held, ⟨v, hv, pending, leaving⟩, only⟩ (spared j (by simp))
  | aborted => exact attended_of_open rfl
  | gone => exact h
  | marked live hv _ => exact h.put hv fun pending => ⟨pending.alive, pending.held, pending.status⟩
  | forgot filter hv => exact h.put hv fun pending => ⟨pending.alive, pending.held, pending.status⟩
  | @retried i v session hv alive held _ =>
      intro _
      refine ⟨i, v.retrying, get?_put_self hv, alive, ?_, Or.inl rfl⟩
      simp [Vitals.retrying, held]
  | settled => exact attended_of_open rfl

/-- If the gate relies on a connection, nobody can open it once that was destroyed. -/
theorem Move.not_attended (move : b.Move marks b') (destroyed : .destroyed i ∈ marks)
    (h : b.Relies i) : ¬ b'.Attended := by
  rcases h with ⟨held, ⟨v, hv, pending, leaving⟩, alone⟩
  intro attended
  cases move with
  | @destroyed k w hw _ _ =>
      obtain rfl : i = k := by simpa using destroyed
      -- Whoever is there after the move was there before it, or is the one that was destroyed.
      rcases attended held with ⟨j, u, hu, left⟩
      rcases get?_put hu with ⟨rfl, rfl⟩ | ⟨differs, before⟩
      · exact left.held rfl
      · exact differs (alone before left)
  | @aborted k w hw _ attempt =>
      obtain rfl : i = k := by simpa using destroyed
      rw [hv] at hw
      cases hw
      rw [leaving] at attempt
      cases attempt
  | @gone k w hw dead =>
      obtain rfl : i = k := by simpa using destroyed
      rw [hv] at hw
      cases hw
      rw [pending.alive] at dead
      cases dead
  | idle | opened | unopened | kept | closed | marked | forgot | retried | settled =>
      simp at destroyed

end Board

/-- If somebody is there after every step of a run, somebody is there in the end. -/
theorem Run.attended_of_forall
    (run : Run (.start settings catalog storage fresh clock) transitions s)
    (h : ∀ t ∈ transitions, t.after.board.Attended) : s.board.Attended := by
  cases run with
  | start =>
      exact (Scene.extends_start _ _ _ _ _).attended.2 (Board.attended_of_open rfl)
  | @step ts before s label previous step => exact h ⟨before, label, s⟩ (by simp)

/-- After every step of a run somebody is there to open the gate, if it is closed, exactly if no
step destroyed a disconnecting connection that was the last one. -/
theorem Run.attended_iff (run : Run (.start settings catalog storage fresh clock) transitions s) :
    (∀ t ∈ transitions, t.after.board.Attended) ↔
      ∀ t ∈ transitions, ∀ i, .destroyed i ∈ t.marks → ¬ t.before.board.Relies i := by
  constructor
  · intro attended t member i destroyed relies
    -- The step would take away the only connection that could open the gate.
    rcases run.before_mem member with ⟨earlier, later, -, reached, step⟩
    rcases step.reaches reached.sound with ⟨middle, grown, move⟩
    exact move.not_attended destroyed (grown.relies_iff.2 relies) (attended t member)
  · -- The steps before the last one are spared too, so somebody is there when it is taken.
    intro spared
    induction run with
    | start =>
        intro t member
        cases member
    | @step ts before s label previous step ih =>
        have earlier : ∀ t ∈ ts, t.after.board.Attended := by
          refine ih ?_
          intro t member
          exact spared t (List.mem_append_left _ member)
        intro t member
        rcases List.mem_append.1 member with member | member
        · exact earlier t member
        · rcases List.mem_singleton.1 member with rfl
          rcases step.reaches previous.sound with ⟨middle, grown, move⟩
          have attended := grown.attended.2 (previous.attended_of_forall earlier)
          refine move.attended attended ?_
          intro i destroyed relies
          have last : (⟨before, label, s⟩ : Transition) ∈ ts ++ [⟨before, label, s⟩] := by simp
          exact spared _ last i destroyed (grown.relies_iff.1 relies)

/-- A connection that connects and then disconnects is there to open the gate. -/
theorem Run.attended_iff_disconnecting :
    ∃ transitions s, Run .blank transitions s ∧ s.console.gateHeld = true ∧
      (s.console.connection 0).snapshot.status = .disconnecting ∧
      ((∀ t ∈ transitions, t.after.board.Attended) ↔
        ∀ t ∈ transitions, ∀ i, .destroyed i ∈ t.marks → ¬ t.before.board.Relies i) := by
  have playable : Scene.blank.Playable .obliging
      [.call (.getOrCreate ⟨0⟩ (some default)), .direct 0 (.connect default none),
        .direct 0 .disconnect] := by
    decide
  have run := Run.play Responder.fair_obliging .start playable
  exact ⟨_, _, run, by decide, by decide, Run.attended_iff run⟩

/-- A connection that was destroyed before its session ended leaves the gate closed, and no
connection with a session. -/
theorem Run.gate_left_unattended :
    ∃ transitions s, Run .blank transitions s ∧ s.console.gateHeld = true ∧
      ∀ i < s.console.connections.length, (s.console.connection i).session = none := by
  have playable : Scene.blank.Playable .obliging
      [.call (.getOrCreate ⟨0⟩ (some default)), .direct 0 (.connect default none),
        .direct 0 .disconnect, .call (.destroy ⟨0⟩)] := by
    decide
  have run := Run.play Responder.fair_obliging .start playable
  exact ⟨_, _, run, by decide, by decide⟩

/-! ## A gate that nobody can open -/

/-- The gate is closed, and no connection has a session. -/
structure Board.Blocked (b : Board) : Prop where
  gateHeld : b.gateHeld = true
  bare : ∀ {i : ConnectionRef} {v : Vitals}, b.vitals[i]? = some v → v.session = none

namespace Board

variable {b b' : Board} {marks : List Mark}

theorem Blocked.extends (h : b.Blocked) (grown : b.Extends b') : b'.Blocked where
  gateHeld := grown.gateHeld.trans h.gateHeld
  bare := by
    intro i v hv
    rcases grown.get? hv with before | rfl
    · exact h.bare before
    · rfl

theorem Blocked.put (h : b.Blocked) {i : ConnectionRef} {v : Vitals} (bare : v.session = none) :
    (b.put i v).Blocked where
  gateHeld := h.gateHeld
  bare := by
    intro j w hw
    rcases get?_put hw with ⟨-, rfl⟩ | ⟨-, before⟩
    · exact bare
    · exact h.bare before

theorem Blocked.move (h : b.Blocked) (sound : b.Sound) (move : b.Move marks b') : b'.Blocked := by
  cases move with
  | idle | kept | gone => exact h
  | opened hv _ free _ | unopened hv _ free =>
      rw [h.gateHeld] at free
      cases free
  | closed hv held | marked live hv held | retried hv _ held _ | settled hv _ held _ =>
      rw [h.bare hv] at held
      cases held
  | destroyed hv _ _ => exact h.put rfl
  | @aborted i v hv _ attempt =>
      -- An attempt has a session, and here nobody has one.
      have active := Connection.isActive_of_isAttempt attempt
      exact absurd (h.bare hv) ((sound.each hv).held active)
  | forgot filter hv =>
      have bare := h.bare hv
      exact h.put bare

end Board

/-- A gate that is closed while no connection has a session stays closed. -/
theorem Run.blocked {later : List Transition} {s' : Scene}
    (run : Run (.start settings catalog storage fresh clock) transitions s)
    (more : Run s later s') (h : s.board.Blocked) : s'.board.Blocked := by
  have both : s'.board.Sound ∧ s'.board.Blocked := by
    refine more.invariant (fun s => s.board.Sound ∧ s.board.Blocked) ⟨run.sound, h⟩ ?_
    rintro s label s' ⟨sound, blocked⟩ step
    rcases step.reaches sound with ⟨middle, grown, move⟩
    have sound' := sound.extends grown
    exact ⟨sound'.move move, (blocked.extends grown).move sound' move⟩
  exact both.2

end DeviceConsole
