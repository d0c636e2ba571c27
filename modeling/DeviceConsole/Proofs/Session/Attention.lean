import DeviceConsole.Proofs.Session.Activity

/-!
# The connection that the operator looks at

The focus is an id; the connection in use for it has nothing unread.  Connections count on their
own, and the focus moves without them, so this is a fact about both.  This file defines:

* `Console.Named`: connections have the ids that they are in use for;
* `Console.Attends`: nothing is unread in the connection in use for the focus;

and shows that both hold after every run, `nothing_unread_in_focus`.
-/

namespace DeviceConsole

/-! ## What holds of a console -/

namespace Console

/-- Whether each connection in use has the id that it is in use for. -/
def Named (c : Console) : Prop :=
  ∀ id i, c.current? id = some i → i < c.connections.length ∧ (c.connection i).id = id

/-- Whether nothing is unread in the connection in use for the focus. -/
def Attends (c : Console) : Prop :=
  ∀ id i, c.focus = some id → c.current? id = some i → (c.connection i).snapshot.unread = 0

variable {kept : Aspect → Prop} {c c' : Console} {id : ConnectionId} {i : ConnectionRef}

theorem Named.retains (named : c.Named) (h : c.Retains kept c') : c'.Named := by
  intro id i used
  rcases h.current used with before | ⟨-, inside, same⟩
  · rcases named id i before with ⟨hi, same⟩
    exact ⟨Nat.lt_of_lt_of_le hi h.length, (h.id hi).trans same⟩
  · exact ⟨inside, same⟩

/-- The connection in use for an id was in use for it before, or is a new one. -/
theorem Attends.unread_of_current (attends : c.Attends) (h : c.Retains kept c')
    (focus : c.focus = some id) (used : c'.current? id = some i) :
    (c.connection i).snapshot.unread = 0 := by
  rcases h.current used with before | ⟨beyond, -, -⟩
  · exact attends id i focus before
  · rw [connection_of_le beyond]
    rfl

theorem Attends.retains (attends : c.Attends) (h : c.Retains kept c') (watched : kept .focus)
    (logged : kept .log) : c'.Attends := by
  intro id i focus used
  rw [h.focus watched] at focus
  have same : (c'.connection i).snapshot.unread = (c.connection i).snapshot.unread :=
    congrArg Prod.snd (h.tally logged i)
  rw [same]
  exact attends.unread_of_current h focus used

/-- What the operator is made to look at is read. -/
theorem Shows.attends (h : c.Shows id c') : c'.Attends := by
  rcases h with ⟨middle, -, found, hi, rfl⟩
  intro other i focus used
  obtain rfl : id = other := Option.some.inj focus
  obtain rfl : c.addressed id = i := Option.some.inj (found.symm.trans used)
  have own : (Connection.read (c.addressed id) (middle.setFocus (some id))).connection
      (c.addressed id) = _ := connection_update_self (c := middle.setFocus _) hi
  rw [own]
  rfl

end Console

/-! ## Steps -/

/-- What happens to a connection that the operator looks at settles its count. -/
theorem Label.settles_of_activity? {label : Label} {before : Console} {said : List Exchange}
    {i : ConnectionRef} {a : Activity} (h : label.activity? before said = some (i, a))
    (looks : (before.connection i).session ≠ none → before.looksAt i = true) :
    a.settles = true := by
  unfold Label.activity? at h
  -- One case for each kind of step that may bring about an activity.
  split at h
  · rcases Option.map_eq_some_iff.1 h with ⟨_, -, published⟩
    cases published
    rfl
  · cases h
    rfl
  · cases h
    rfl
  · rcases Option.map_eq_some_iff.1 h with ⟨_, -, published⟩
    cases published
    rfl
  · cases h
    rfl
  · cases h
    rfl
  · rcases Option.bind_eq_some_iff.1 h with ⟨_, -, moved⟩
    rcases Option.map_eq_some_iff.1 moved with ⟨_, -, read⟩
    cases read
    rfl
  · -- Only a message of the session that is held comes in.
    split at h
    · next owned =>
        have held : (before.connection _).session = some _ := Connection.owns_iff.1 owned
        cases h
        exact looks (held ▸ Option.some_ne_none _)
    · cases h
  · cases h

namespace Console.Attends

variable {s s' : Scene} {label : Label} {id : ConnectionId}

/-- A step that does not move the focus keeps the count of the connection that has it. -/
theorem step_of_unmoved (attends : s.console.Attends) (named : s.console.Named)
    (sound : s.board.Sound) (step : Step s label s') (unmoved : ¬ label.Touches .focus) :
    s'.console.Attends := by
  intro id i focus used
  rw [step.retains.focus unmoved] at focus
  have before := attends.unread_of_current step.retains focus used
  have recorded := congrArg Prod.snd (step.records sound i)
  cases happened : (label.activity? s.console (s'.exchanges.drop s.exchanges.length)).bind
      (Activity.of? i) with
  | none =>
      rw [happened] at recorded
      exact recorded.trans before
  | some a =>
      rw [happened] at recorded
      rcases Option.bind_eq_some_iff.1 happened with ⟨x, brought, own⟩
      obtain rfl := Activity.of?_eq_some.1 own
      refine recorded.trans (Activity.record_of_settles (Label.settles_of_activity? brought ?_))
      intro held
      -- A connection that holds a session was there before, and in use for its id.
      have old : s.console.current? id = some i := by
        rcases step.retains.current used with old | ⟨beyond, -, -⟩
        · exact old
        · exact absurd (by rw [Console.connection_of_le beyond]; rfl) held
      simp [Console.looksAt, focus, (named id i old).2]

theorem step (attends : s.console.Attends) (named : s.console.Named) (sound : s.board.Sound)
    (step : Step s label s') : s'.console.Attends := by
  by_cases moved : label.Touches .focus
  · cases step with
    | @call call _ _ _ run =>
        cases call with
        | select id =>
            rcases select_shows sound run with ⟨-, -, rfl⟩ | ⟨-, shows⟩
            · exact attends
            · exact shows.attends
        | remove id =>
            rcases removeProfile_shows sound run with ⟨-, rfl⟩ | ⟨-, chosen, retains, shown⟩
            · exact attends
            · refine .retains ?_ (retains fun _ => True) trivial trivial
              split at shown
              · rcases shown with ⟨dropped, -, rfl⟩
                intro id i focus
                cases focus
              · exact shown.attends
        | _ => cases moved
    | @direct i call => cases call <;> cases moved
    | @event i session event => cases event <;> cases moved
    | outside => cases moved
  · exact attends.step_of_unmoved named sound step moved

end Console.Attends

/-! ## Runs -/

/-- In every state that complete calls and events lead to, the connection in use for the focus has
its id, and nothing unread. -/
theorem nothing_unread_in_focus {settings : Settings} {catalog : Catalog}
    {storage : ProfileStorage} {fresh : Nat → ConnectionId} {clock : Int}
    {transitions : List Transition} {s : Scene} {id : ConnectionId} {i : ConnectionRef}
    (run : Run (.start settings catalog storage fresh clock) transitions s)
    (focus : s.console.focus = some id) (used : s.console.current? id = some i) :
    (s.console.connection i).id = id ∧ (s.console.connection i).snapshot.unread = 0 := by
  have holds : s.console.Named ∧ s.console.Attends := by
    clear focus used
    induction run with
    | start =>
        rcases Scene.retains_start settings catalog storage fresh clock with
          ⟨empty, -, -, unused, retains⟩
        have nothing (id : ConnectionId) (i : ConnectionRef) : empty.current? id ≠ some i := by
          simp [Console.current?, unused]
        have named : empty.Named := fun id i used => absurd used (nothing id i)
        have attends : empty.Attends := fun id i _ used => absurd used (nothing id i)
        have retained := retains fun _ => True
        exact ⟨named.retains retained, attends.retains retained trivial trivial⟩
    | step previous step ih =>
        exact ⟨ih.1.retains step.retains, ih.2.step ih.1 previous.sound step⟩
  exact ⟨(holds.1 id i used).2, holds.2 id i focus used⟩

/-- The focus comes to a connection with unread messages, as the profile before it is removed. -/
theorem nothing_unread_after_removal :
    ∃ (earlier later : List Transition) (s s' : Scene),
      Run .blank earlier s ∧ (s.console.connection 1).snapshot.unread = 2 ∧ Run s later s' ∧
      Run .blank (earlier ++ later) s' ∧ s'.console.focus = some ⟨8⟩ ∧
      s'.console.current? ⟨8⟩ = some 1 ∧
      ((s'.console.connection 1).id = ⟨8⟩ ∧ (s'.console.connection 1).snapshot.unread = 0) := by
  let p : Profile := { Profile.default ⟨0⟩ with role := .server }
  let message : Action := .event 1 0 (.message ⟨"t", [], .atMostOnce, false, none⟩)
  let opening : List Action :=
    [.call (.add ⟨7⟩ (fun _ => "") p), .call (.add ⟨8⟩ (fun _ => "") p), .call (.select ⟨7⟩),
      .call (.connect ⟨8⟩ none), .event 1 0 .connected, message, message]
  let removal : List Action := [.call (.remove ⟨7⟩)]
  let s := (Scene.blank.play .obliging opening).2
  have first : Run .blank _ s :=
    Run.play Responder.fair_obliging .start (by decide : Scene.blank.Playable .obliging opening)
  have playable : s.Playable .obliging removal := by decide
  have second : Run s _ _ := Run.play Responder.fair_obliging .start playable
  have whole := Run.play Responder.fair_obliging first playable
  exact ⟨_, _, s, _, first, by decide, second, whole, by decide, by decide,
    nothing_unread_in_focus whole (by decide) (by decide)⟩

end DeviceConsole
