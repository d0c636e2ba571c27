import DeviceConsole.Proofs.Session.Run

/-!
# Attempts to connect

An attempt of a connection begins when a connect is let through or when its session is lost, and
ends with an outcome of that session, with a disconnect, or when the connection is destroyed.  This
file defines:

* `Mark`, a beginning or an end of an attempt, and `Label.marks`, the marks of a step;
* `InFlight i marks`, whether an attempt of a connection is under way after the given marks;
* `Preempted i marks`, whether another connection had an outcome since an attempt began last;
* `Mark.gate`, what marks do to a flag that beginnings raise and outcomes lower.
-/

namespace DeviceConsole

/-! ## Marks -/

inductive Mark where
  /-- A connect was let through, or a lost session tries to come back. -/
  | began (i : ConnectionRef)
  /-- The session of the connection came up, failed, closed, ended or was given up, or the
  connection was destroyed amid an attempt. -/
  | settled (i : ConnectionRef)
  /-- The connection was disconnected. -/
  | withdrew (i : ConnectionRef)
  | destroyed (i : ConnectionRef)
  deriving DecidableEq

namespace Console

def destroyMarks (c : Console) (i : ConnectionRef) : List Mark :=
  if Connection.isAttempt (c.connection i).snapshot.status then [.settled i, .destroyed i]
  else [.destroyed i]

/-- The connection that the removal of a profile destroys.  Before that the focus moves, which makes
a connection for the first remaining profile if there is none. -/
def removed? (c : Console) (id : ConnectionId) : Option ConnectionRef :=
  match c.profile? id, c.current? id with
  | none, _ => none
  | some _, some i => some i
  | some _, none =>
    if (removeFirst id c.profiles).head?.map (·.id) = some id then some c.connections.length
    else none

/-- The marks of an event; only events of the session that the connection holds have any. -/
def eventMarks (c : Console) (i : ConnectionRef) (session : SessionId) (event : TransportEvent) :
    List Mark :=
  if (c.connection i).owns session then
    match event with
    | .reconnecting =>
      if (c.connection i).snapshot.retryCount < Connection.maxAttempts then [.began i]
      else [.settled i]
    | .message _ => []
    | _ => [.settled i]
  else []

end Console

def Label.marks (before after : Console) : Label → List Mark
  | .call (.connect id _) (.ok true) => (after.current? id).toList.map .began
  | .call (.disconnect id) _ =>
    if before.gateHeld then [] else (after.current? id).toList.map .withdrew
  | .call (.destroy id) _ => (before.current? id).toList.flatMap before.destroyMarks
  | .call (.remove id) _ => (before.removed? id).toList.flatMap before.destroyMarks
  | .direct i (.connect _ _) (.ok true) => [.began i]
  | .direct i .disconnect _ => [.withdrew i]
  | .direct i .destroy _ => before.destroyMarks i
  | .event i session happened => before.eventMarks i session happened
  | _ => []

def Transition.marks (t : Transition) : List Mark :=
  t.label.marks t.before.console t.after.console

def marksOf (transitions : List Transition) : List Mark := transitions.flatMap Transition.marks

@[simp] theorem marksOf_append (first second : List Transition) :
    marksOf (first ++ second) = marksOf first ++ marksOf second := List.flatMap_append

@[simp] theorem marksOf_singleton (t : Transition) : marksOf [t] = t.marks := by
  simp [marksOf]

/-! ## Attempts under way -/

/-- Whether a mark ends the attempts of a connection. -/
def Mark.Ends (i : ConnectionRef) : Mark → Prop
  | began _ => False
  | settled j => j = i
  | withdrew j => j = i
  | destroyed j => j = i

/-- An attempt of the connection began and has not ended. -/
def InFlight (i : ConnectionRef) (marks : List Mark) : Prop :=
  ∃ earlier later, marks = earlier ++ .began i :: later ∧ ∀ m ∈ later, ¬ m.Ends i

/-- Some outcome came after every beginning. -/
def SettledLast (marks : List Mark) : Prop :=
  ∃ j earlier later, marks = earlier ++ .settled j :: later ∧ ∀ k, .began k ∉ later

/-- Another connection had an outcome, and no attempt of any connection began since. -/
def Preempted (i : ConnectionRef) (marks : List Mark) : Prop :=
  ∃ j earlier later,
    j ≠ i ∧ marks = earlier ++ .settled j :: later ∧ ∀ k, .began k ∉ later

@[simp] theorem not_settledLast_nil : ¬ SettledLast [] := by
  rintro ⟨j, earlier, later, h, _⟩
  simp at h

theorem settledLast_cons_iff {m : Mark} {marks : List Mark} :
    SettledLast (m :: marks) ↔
      (∃ j, m = .settled j ∧ ∀ k, .began k ∉ marks) ∨ SettledLast marks := by
  constructor
  · rintro ⟨j, earlier, later, h, none⟩
    cases earlier with
    | nil =>
        rcases List.cons.inj h with ⟨rfl, rfl⟩
        exact Or.inl ⟨j, rfl, none⟩
    | cons first earlier =>
        rcases List.cons.inj h with ⟨-, rfl⟩
        exact Or.inr ⟨j, earlier, later, rfl, none⟩
  · rintro (⟨j, rfl, none⟩ | ⟨j, earlier, later, rfl, none⟩)
    · exact ⟨j, [], marks, rfl, none⟩
    · exact ⟨j, m :: earlier, later, rfl, none⟩

/-- Amid an attempt, only an outcome of another connection can be the latest. -/
theorem InFlight.settledLast_iff {i : ConnectionRef} {marks : List Mark} (h : InFlight i marks) :
    SettledLast marks ↔ Preempted i marks := by
  constructor
  · rintro ⟨j, earlier, later, split, none⟩
    refine ⟨j, earlier, later, ?_, split, none⟩
    rintro rfl
    rcases h with ⟨first, rest, hsplit, alive⟩
    -- The outcome would stand after the beginning, where the attempt would have ended, or before
    -- it, where a beginning would have come later.
    rcases List.append_eq_append_iff.1 (hsplit.symm.trans split) with
      ⟨between, -, hrest⟩ | ⟨between, -, hlater⟩
    · cases between with
      | nil => cases (List.cons.inj hrest).1
      | cons m between =>
          have member : .settled j ∈ rest := by
            rw [(List.cons.inj hrest).2]
            simp
          exact alive _ member rfl
    · cases between with
      | nil => cases (List.cons.inj hlater).1
      | cons m between =>
          have member : .began j ∈ later := by
            rw [(List.cons.inj hlater).2]
            simp
          exact none j member
  · rintro ⟨j, earlier, later, -, split, none⟩
    exact ⟨j, earlier, later, split, none⟩

theorem InFlight.began_mem {i : ConnectionRef} {marks : List Mark} (h : InFlight i marks) :
    .began i ∈ marks := by
  rcases h with ⟨earlier, later, rfl, -⟩
  simp

/-! ## A flag that follows the marks -/

/-- A beginning raises the flag and an outcome lowers it. -/
def Mark.gate (held : Bool) : Mark → Bool
  | began _ => true
  | settled _ => false
  | _ => held

/-- The flag is down if nothing raised it, or if an outcome came after every beginning. -/
theorem foldl_gate_eq_false_iff (held : Bool) (marks : List Mark) :
    marks.foldl Mark.gate held = false ↔
      (held = false ∧ ∀ k, .began k ∉ marks) ∨ SettledLast marks := by
  induction marks generalizing held with
  | nil => simp
  | cons m marks ih =>
      rw [List.foldl_cons, ih, settledLast_cons_iff]
      cases m with
      | began i =>
          -- The beginning itself stands in the way of an open flag.
          have absent : ¬ ∀ k, Mark.began k ∉ Mark.began i :: marks := by
            intro h
            exact h i List.mem_cons_self
          simp only [Mark.gate, absent, reduceCtorEq, false_and, exists_false, false_or, and_false]
      | settled i =>
          simp only [Mark.gate, Mark.settled.injEq, exists_eq_left', true_and, List.mem_cons,
            reduceCtorEq, false_or]
          constructor
          · exact Or.inr
          · rintro (⟨-, h⟩ | h)
            · exact Or.inl h
            · exact h
      | withdrew i => simp [Mark.gate]
      | destroyed i => simp [Mark.gate]

end DeviceConsole
