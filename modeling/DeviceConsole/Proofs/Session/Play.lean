import DeviceConsole.Proofs.Session.Run

/-!
# Playing runs

Against a transport that answers by rule, a list of actions makes one run.  This file defines:

* `Responder`, such a rule, and `Responder.Fair`, that no session is opened twice;
* `Operation.perform`, which takes an operation to its end;
* `Action` and `Scene.play`, calls and events one after the other, and `Scene.blank` to begin with;
* `Responder.obliging`, a transport that does all it is asked.
-/

namespace DeviceConsole

/-! ## Operations -/

abbrev Responder := Scene → (r : Request) → r.Reply

def Responder.Fair (respond : Responder) : Prop :=
  ∀ (s : Scene) (r : Request), s.Permits r (respond s r)

def Operation.perform {α : Type} (respond : Responder) : Operation α → Scene → α × Scene
  | .done a, s => (a, s)
  | .step change next, s => perform respond (next s.console) (s.apply change)
  | .request r next, s => perform respond (next (respond s r)) (s.note r (respond s r))

/-- What an operation comes to against a fair rule is one of its runs. -/
theorem Operation.runs_perform {α : Type} {respond : Responder} (fair : respond.Fair)
    (p : Operation α) (s : Scene) :
    p.Runs s (p.perform respond s).1 (p.perform respond s).2 := by
  induction p generalizing s with
  | done a => exact .done a s
  | step change next ih => exact .step (ih s.console (s.apply change))
  | request r next ih => exact .request (fair s r) (ih (respond s r) (s.note r (respond s r)))

/-! ## Actions -/

inductive Action where
  | call (call : Console.Call)
  | direct (i : ConnectionRef) (call : Connection.Call)
  | event (i : ConnectionRef) (session : SessionId) (event : TransportEvent)

namespace Action

def Enabled (s : Scene) : Action → Prop
  | call _ => True
  | direct i _ => i < s.console.connections.length
  | event i session _ =>
    (session, i) ∈ s.console.handlers ∧ (s.console.connection i).destroyed = false

instance (s : Scene) : (a : Action) → Decidable (a.Enabled s)
  | call _ => inferInstanceAs (Decidable True)
  | direct _ _ => inferInstanceAs (Decidable (_ < _))
  | event _ _ _ => inferInstanceAs (Decidable (_ ∧ _))

def take (respond : Responder) (s : Scene) : Action → Transition
  | call c =>
    let outcome := c.program.perform respond s
    ⟨s, .call c outcome.1, outcome.2⟩
  | direct i c =>
    let outcome := (c.program i).perform respond s
    ⟨s, .direct i c outcome.1, outcome.2⟩
  | event i session happened =>
    ⟨s, .event i session happened, ((Connection.react i session happened).perform respond s).2⟩

theorem step_take {respond : Responder} (fair : respond.Fair) {s : Scene} {a : Action}
    (enabled : a.Enabled s) : Step s (a.take respond s).label (a.take respond s).after := by
  cases a with
  | call c => exact .call (Operation.runs_perform fair _ _)
  | direct i c => exact .direct enabled (Operation.runs_perform fair _ _)
  | event i session happened =>
      exact .event enabled.1 enabled.2 (Operation.runs_perform fair _ _)

theorem take_eta (respond : Responder) (s : Scene) (a : Action) :
    (⟨s, (a.take respond s).label, (a.take respond s).after⟩ : Transition) = a.take respond s := by
  cases a <;> rfl

end Action

namespace Scene

def play (respond : Responder) (s : Scene) : List Action → List Transition × Scene
  | [] => ([], s)
  | a :: rest =>
    let t := a.take respond s
    let later := t.after.play respond rest
    (t :: later.1, later.2)

def Playable (respond : Responder) (s : Scene) : List Action → Prop
  | [] => True
  | a :: rest => a.Enabled s ∧ (a.take respond s).after.Playable respond rest

instance decidablePlayable (respond : Responder) : (s : Scene) → (actions : List Action) →
    Decidable (s.Playable respond actions)
  | _, [] => inferInstanceAs (Decidable True)
  | s, a :: rest =>
    have := decidablePlayable respond (a.take respond s).after rest
    inferInstanceAs (Decidable (_ ∧ _))

end Scene

/-- Actions that are possible one after the other make a run longer. -/
theorem Run.play {respond : Responder} (fair : respond.Fair) {start s : Scene}
    {transitions : List Transition} (run : Run start transitions s) {actions : List Action}
    (playable : s.Playable respond actions) :
    Run start (transitions ++ (s.play respond actions).1) (s.play respond actions).2 := by
  induction actions generalizing s transitions with
  | nil => simpa [Scene.play] using run
  | cons a rest ih =>
      rcases playable with ⟨enabled, later⟩
      have longer := Run.step run (Action.step_take fair enabled)
      rw [Action.take_eta] at longer
      have whole := ih longer later
      rwa [List.append_assoc] at whole

def Scene.blank : Scene := .start default default default (fun _ => default) 0

/-! ## A transport that does as it is told -/

def Scene.unused (s : Scene) : SessionId := s.opened.foldr (fun n bound => max (n + 1) bound) 0

theorem Scene.unused_not_mem (s : Scene) : s.unused ∉ s.opened := by
  -- The fold is a bound that lies above each of the sessions.
  have above : ∀ (sessions : List SessionId), ∀ n ∈ sessions,
      n < sessions.foldr (fun n bound => max (n + 1) bound) 0 := by
    intro sessions
    induction sessions with
    | nil => nofun
    | cons m rest ih =>
        intro n member
        rw [List.foldr_cons]
        rcases List.mem_cons.1 member with rfl | member
        · exact Nat.le_max_left _ _
        · exact Nat.lt_of_lt_of_le (ih n member) (Nat.le_max_right _ _)
  intro member
  exact Nat.lt_irrefl _ (above s.opened s.unused member)

/-- Opens sessions, grants filters, and confirms everything else. -/
def Responder.obliging : Responder := fun s r =>
  match r with
  | .open _ => .ok s.unused
  | .publish _ _ _ _ => .ok ()
  | .subscribe _ filters => .ok (filters.map fun _ => 0)
  | .unsubscribe _ _ => .ok ()
  | .close _ => .ok ()

theorem Responder.fair_obliging : Responder.obliging.Fair := by
  intro s r
  cases r with
  | «open» options => exact s.unused_not_mem
  | publish | subscribe | unsubscribe | close => trivial

end DeviceConsole
