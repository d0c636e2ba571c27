import DeviceConsole.Proofs.Coherence.Calls
import DeviceConsole.Proofs.Session.Activity

/-!
# What observers see

Observers of a connection look at a copy of its state, which has to be brought up to date after each
change.  This file defines:

* `Connection.view`, the state of a connection with the copy, and `Connection.Shown`, that they
  agree;
* `Console.Reveals only`, the changes that show observers what they do, and do it to one connection
  or to none; `reveals_*`, that the small changes are of this kind;
* `Label.Concerns`, what may become of the connections in a step, and `Step.reveals`, that nothing
  else does.
-/

namespace DeviceConsole

open Operation

namespace Connection

/-- The state of a connection, with what observers were shown of it last. -/
def view (x : Connection) : Snapshot × Snapshot := (x.snapshot, x.shown)

def Shown (x : Connection) : Prop := x.shown = x.snapshot

theorem Shown.of_view {x y : Connection} (shown : x.Shown) (same : y.view = x.view) : y.Shown :=
  (congrArg Prod.snd same).trans (shown.trans (congrArg Prod.fst same).symm)

end Connection

theorem Console.connection_update_cases (c : Console) (i : ConnectionRef)
    (change : Connection → Connection) (j : ConnectionRef) :
    (c.update i change).connection j = c.connection j ∨
      j = i ∧ (c.update i change).connection j = change (c.connection j) := by
  by_cases same : j = i
  · subst same
    by_cases hj : j < c.connections.length
    · exact Or.inr ⟨rfl, connection_update_self hj⟩
    · -- A reference to no connection changes nothing.
      left
      simp [connection, update, hj]
  · exact Or.inl (connection_update_of_ne same)

/-- Whether a change shows observers what it does, and does it to one connection or to none. -/
def Console.Reveals (only : Option ConnectionRef) (c c' : Console) : Prop :=
  ∀ j, (c'.connection j).view = (c.connection j).view ∨
    only = some j ∧ (c'.connection j).Shown

namespace Console.Reveals

variable {only : Option ConnectionRef} {c c' c'' : Console} {i : ConnectionRef}

theorem refl (c : Console) : c.Reveals only c := fun _ => Or.inl rfl

theorem trans (first : c.Reveals only c') (second : c'.Reveals only c'') :
    c.Reveals only c'' := by
  intro j
  rcases second j with same | shown
  · rcases first j with before | ⟨this, shown⟩
    · exact Or.inl (same.trans before)
    · exact Or.inr ⟨this, shown.of_view same⟩
  · exact Or.inr shown

/-- What observers see nothing of may happen at any time. -/
theorem of_none (h : c.Reveals none c') : c.Reveals only c' := by
  intro j
  rcases h j with same | ⟨⟨⟩, -⟩
  exact Or.inl same

theorem view (h : c.Reveals none c') (j : ConnectionRef) :
    (c'.connection j).view = (c.connection j).view := by
  rcases h j with same | ⟨⟨⟩, -⟩
  exact same

theorem update {change : Connection → Connection}
    (h : (change (c.connection i)).view = (c.connection i).view ∨
      only = some i ∧ (change (c.connection i)).Shown) : c.Reveals only (c.update i change) := by
  intro j
  rcases connection_update_cases c i change j with same | ⟨rfl, changed⟩
  · rw [same]
    exact Or.inl rfl
  · rw [changed]
    exact h

theorem shown {change : Connection → Connection} (shown : (change (c.connection i)).Shown) :
    c.Reveals (some i) (c.update i change) := .update (Or.inr ⟨rfl, shown⟩)

theorem aside {change : Connection → Connection} (unseen : ∀ x, (change x).view = x.view) :
    c.Reveals only (c.update i change) := .update (Or.inl (unseen _))

theorem present {change : Snapshot → Snapshot} : c.Reveals (some i) (c.present i change) :=
  .shown rfl

theorem of_tells (told : c.Tells c') : c.Reveals only c' := by
  rcases told with ⟨notices, rfl⟩
  exact .refl c

end Console.Reveals

/-! ## The operations of a connection -/

namespace Connection

open Console (Reveals)

variable {c : Console} {i : ConnectionRef} {session : SessionId}

theorem reveals_beginConnect : c.Reveals (some i) (beginConnect i c).2 := by
  unfold beginConnect
  dsimp only
  split
  · exact .refl c
  · split
    · exact .refl c
    · exact Reveals.aside (c := c.holdGate) fun _ => rfl

theorem reveals_restoreSession : c.Reveals (some i) (restoreSession i session c) :=
  Reveals.aside (c := c) fun _ => rfl

theorem reveals_prepare {p : Profile} {token : Option String} :
    c.Reveals (some i) (prepare i p token c).2 := Reveals.shown (c := c) rfl

theorem reveals_failOpen {error : TransportError} : c.Reveals (some i) (failOpen i error c) :=
  Reveals.present (c := c)

theorem reveals_adopt : c.Reveals (some i) (adopt i session c).2 := by
  unfold adopt
  split
  · exact .refl c
  · exact Reveals.aside (c := c) fun _ => rfl

theorem reveals_beginDisconnect : c.Reveals (some i) (beginDisconnect i c).2 := by
  unfold beginDisconnect
  dsimp only
  split
  · exact .refl c
  · dsimp only
    split
    · exact .present
    · exact .refl c

theorem reveals_failDisconnect {previous : ConnectionStatus} {error : TransportError} :
    c.Reveals (some i) (failDisconnect i previous error c) := Reveals.present (c := c)

theorem reveals_beginDestroy : c.Reveals (some i) (beginDestroy i c).2 := by
  unfold beginDestroy
  dsimp only
  split
  · exact .refl c
  · exact .aside fun _ => rfl

theorem reveals_finishDestroy {previous : ConnectionStatus} :
    c.Reveals (some i) (finishDestroy i previous c) := by
  unfold finishDestroy
  split
  · exact Reveals.present (c := c.releaseGate)
  · exact .present

theorem reveals_finishPublish {d : Draft} : c.Reveals (some i) (finishPublish i d c) := by
  have edited : ∀ defaults, c.Reveals (some i)
      (c.update i fun connection => { connection with profile.publishDefaults := defaults }) :=
    fun _ => .aside fun _ => rfl
  exact (edited _).trans .present

theorem reveals_beginRequest {count : Nat} : c.Reveals (some i) (beginRequest i count c).2 := by
  simp only [beginRequest]
  split
  · exact .refl c
  · split
    · exact .refl c
    · split <;> exact .refl c

theorem reveals_mark {mark : Bool} {filters : List String} {audience : Audience} {text : String} :
    c.Reveals (some i) ((c.present i (Snapshot.mark mark filters)).confirm audience text) := by
  cases audience <;> exact Reveals.present (c := c)

theorem reveals_acceptConnected : c.Reveals (some i) (acceptConnected i session c).2 := by
  have up : c.Reveals (some i) (c.update i fun connection =>
      { connection with token := none }.present fun s =>
        { s with status := .connected, retryCount := 0 }) := .shown rfl
  simp only [acceptConnected]
  split
  · split <;> exact up
  · exact .refl c

theorem reveals_countAttempt : c.Reveals (some i) (countAttempt i session c).2 := by
  simp only [countAttempt]
  split
  · split
    · exact Reveals.present (c := c)
    · exact .refl c
  · exact .refl c

theorem reveals_onError {reason : String} : c.Reveals (some i) (onError i session reason c) := by
  unfold onError
  split
  · exact Reveals.present (c := c)
  · exact .refl c

theorem reveals_onClose {reason : Option String} :
    c.Reveals (some i) (onClose i session reason c) := by
  unfold onClose
  split
  · cases reason <;> exact Reveals.present (c := c)
  · exact .refl c

theorem reveals_onEnded : c.Reveals (some i) (onEnded i session c) := by
  have ended : c.Reveals (some i) (c.update i fun connection =>
      { connection with session := none }.present fun s =>
        { s with status := .disconnected, live := .empty }) := .shown rfl
  simp only [onEnded]
  split
  · split <;> exact ended
  · exact .refl c

theorem reveals_onMessage {packet : Packet} :
    c.Reveals (some i) (onMessage i session packet c) := by
  simp only [onMessage]
  split
  · exact Reveals.present (c := c.notifyAll _)
  · exact .refl c

theorem reveals_forget {filter : String} : c.Reveals (some i) (forget i filter c) := by
  unfold forget
  split
  · exact .present
  · exact .refl c

theorem reveals_disconnect : (disconnect i).Every (Reveals (some i)) :=
  every_disconnect (fun _ => reveals_beginDisconnect) (fun _ => .present) fun _ _ _ =>
    reveals_failDisconnect

/-- Every call of a connection shows observers what it does, and does it to this connection. -/
theorem Call.reveals (call : Connection.Call) : (call.program i).Every (Reveals (some i)) := by
  have told : ∀ (c : Console) audience text, c.Reveals (some i) (c.report audience text) :=
    fun _ _ _ => .of_tells (Console.tells_report _ _)
  cases call with
  | connect p token =>
      exact every_connect .refl (fun _ => reveals_beginConnect)
        (fun _ _ => reveals_restoreSession) (fun c _ => .refl c) (fun _ => reveals_prepare)
        (fun _ _ => reveals_failOpen) fun _ _ => reveals_adopt
  | disconnect => exact reveals_disconnect
  | destroy => exact every_destroy (fun _ => reveals_beginDestroy) fun _ _ => reveals_finishDestroy
  | publish d audience =>
      exact every_publish (fun c => .of_tells (beginPublish_checks i d audience c).1)
        (fun c text => told c _ text) fun _ => reveals_finishPublish
  | subscribe filters audience =>
      exact every_subscribe (fun _ => reveals_beginRequest) (fun c text => told c _ text)
        fun _ _ => reveals_mark
  | unsubscribe filters audience =>
      exact every_unsubscribe (fun _ => reveals_beginRequest) (fun c text => told c _ text)
        fun _ _ => reveals_mark
  | clear | read | setRenderMode mode => exact every_change fun _ => .present
  | forget filter => exact every_change fun _ => reveals_forget

theorem Call.reveals_runs (call : Connection.Call) {s s' : Scene} {a : call.Result}
    (run : (call.program i).Runs s a s') : s.console.Reveals (some i) s'.console :=
  call.reveals.runs run .refl .trans

theorem reveals_react {event : TransportEvent} :
    (react i session event).Every (Reveals (some i)) :=
  every_react (fun _ => reveals_acceptConnected) (fun _ => reveals_countAttempt)
    reveals_disconnect (fun _ => .present) (fun _ _ => reveals_onError)
    (fun _ _ => reveals_onClose) (fun _ _ => reveals_onMessage) fun _ _ => reveals_onEnded

end Connection

/-! ## The operations of a console -/

namespace Console

variable {α : Type} {id : ConnectionId} {c : Console} {s s' : Scene}

theorem addressed_of_used {i : ConnectionRef} (used : c.current? id = some i) :
    c.addressed id = i := by
  rw [addressed, used]
  rfl

theorem addressed_of_unused (unused : c.current? id = none) :
    c.addressed id = c.connections.length := by
  rw [addressed, unused]
  rfl

/-- A new connection looks like a reference to none. -/
theorem reveals_ensure (p : Profile) (c : Console) : c.Reveals none (c.ensure p).2 := by
  unfold ensure
  split
  · exact .refl c
  · intro j
    left
    rcases Nat.lt_trichotomy j c.connections.length with before | rfl | beyond
    · simp [connection, List.getElem?_append_left before]
    · simp [connection, Connection.view, Connection.ofProfile, default]
    · rw [connection_of_le (Nat.le_of_lt beyond),
        connection_of_le (by simpa using Nat.succ_le_of_lt beyond)]

theorem reveals_configure (p : Profile) (c : Console) : c.Reveals none (c.configure p) := by
  unfold configure
  split
  · exact .aside fun _ => rfl
  · exact .refl c

theorem reveals_changeProfile {change : Profile → Profile} :
    c.Reveals none (changeProfile id change c).2 := by
  unfold changeProfile
  split <;> exact .refl c

theorem reveals_getOrCreate {p : Option Profile} : (getOrCreate id p).Every (Reveals none) :=
  every_getOrCreate .refl reveals_ensure

theorem reveals_modifyProfile {change : Profile → Profile} :
    (modifyProfile id change).Every (Reveals none) :=
  every_modifyProfile (fun _ => reveals_changeProfile) reveals_configure

theorem reveals_reportAll {success failure : String} {result : Result Unit} :
    (reportAll success failure result).Every (Reveals none) :=
  every_reportAll .refl fun c _ _ => .refl c

/-- A call shows observers what it does to the connection that it is about. -/
theorem withConnection_reveals {act : ConnectionRef → Operation (Result α)} {a : Result α}
    (h : (withConnection id act).Runs s a s')
    (acts : ∀ {i middle}, Finds s id i middle → (act i).Runs middle a s' →
      middle.console.Reveals (some i) s'.console) :
    s.console.Reveals (some (s.console.addressed id)) s'.console := by
  rcases withConnection_cases h with ⟨-, -, -, rfl⟩ | ⟨i, middle, found, finds, h⟩
  · exact .refl _
  · have before : s.console.Reveals none middle.console :=
      reveals_getOrCreate.runs found .refl .trans
    have after := acts finds h
    rw [finds.eq_addressed] at after
    exact before.of_none.trans after

/-- The part of a call that comes after its connection did something is seen by nobody. -/
theorem reveals_of_bind {i : ConnectionRef} (call : Connection.Call)
    {f : call.Result → Operation α} {a : α}
    (h : Operation.Runs (α := α) ((call.program i).bind f) s a s')
    (rest : ∀ r, (f r).Every (Reveals none)) : s.console.Reveals (some i) s'.console := by
  rcases runs_bind_iff.1 h with ⟨r, middle, run, h⟩
  exact (call.reveals_runs run).trans ((rest r).runs h .refl .trans).of_none

theorem connect_reveals {token : Option String} {a : Result Bool}
    (h : (connect id token).Runs s a s') :
    s.console.Reveals (some (s.console.addressed id)) s'.console := by
  simp only [connect, Program.bind_eq, runs_look_bind_iff] at h
  split at h
  · rcases runs_done_iff.1 h with ⟨-, rfl⟩
    exact .refl _
  · simp only [runs_look_bind_iff] at h
    split at h
    · rcases runs_done_iff.1 h with ⟨-, rfl⟩
      exact .refl _
    · next p _ =>
        exact withConnection_reveals h fun _ run =>
          Connection.Call.reveals_runs (.connect p token) run

theorem disconnect_reveals {a : Result Bool} (h : (disconnect id).Runs s a s') :
    s.console.Reveals (some (s.console.addressed id)) s'.console := by
  simp only [disconnect, Program.bind_eq, runs_look_bind_iff] at h
  split at h
  · rcases runs_done_iff.1 h with ⟨-, rfl⟩
    exact .refl _
  · refine withConnection_reveals h fun _ run => reveals_of_bind .disconnect run ?_
    rintro (error | _) <;> trivial

theorem publish_reveals {d : Connection.Draft} {audience : Audience} {a : Result Unit}
    (h : (publish id d audience).Runs s a s') :
    s.console.Reveals (some (s.console.addressed id)) s'.console := by
  refine withConnection_reveals h fun _ run => reveals_of_bind (.publish d audience) run ?_
  rintro (error | _)
  · trivial
  · exact reveals_modifyProfile

theorem subscribe_reveals {fresh : Nat → String} {filters : List FilterRequest}
    {audience : Audience} {a : Result Unit}
    (h : (subscribe id fresh filters audience).Runs s a s') :
    s.console.Reveals (some (s.console.addressed id)) s'.console := by
  refine withConnection_reveals h fun _ run =>
    reveals_of_bind (.subscribe filters audience) run ?_
  rintro (error | _)
  · trivial
  · exact every_look_bind .refl fun _ => reveals_modifyProfile

theorem subscribeAll_reveals {fresh : Nat → String} {a : Result Unit}
    (h : (subscribeAll id fresh).Runs s a s') :
    s.console.Reveals (some (s.console.addressed id)) s'.console := by
  refine withConnection_reveals h fun {i middle} finds run => ?_
  -- The subscribe that follows finds the same connection again.
  have again : middle.console.addressed id = i := addressed_of_used finds.used
  simp only [Program.bind_eq, runs_look_bind_iff] at run
  split at run
  · rcases runs_done_iff.1 run with ⟨-, rfl⟩
    exact .refl _
  · simp only [runs_look_bind_iff] at run
    split at run
    · rcases runs_change_done_iff.1 run with ⟨-, rfl⟩
      exact .refl _
    · simp only [runs_bind_iff] at run
      rcases run with ⟨result, last, subscribed, run⟩
      have shown := subscribe_reveals subscribed
      rw [again] at shown
      exact shown.trans (reveals_reportAll.runs run .refl .trans).of_none

theorem unsubscribeAll_reveals {a : Result Unit} (h : (unsubscribeAll id).Runs s a s') :
    s.console.Reveals (some (s.console.addressed id)) s'.console := by
  refine withConnection_reveals h fun {i middle} _ run => ?_
  simp only [Program.bind_eq, runs_look_bind_iff] at run
  split at run
  · rcases runs_change_done_iff.1 run with ⟨-, rfl⟩
    exact .refl _
  · exact reveals_of_bind (.unsubscribe _ .caller) run fun _ => reveals_reportAll

theorem locally_reveals {change : ConnectionRef → Console → Console} {a : Result Unit}
    (h : (locally id change).Runs s a s')
    (changed : ∀ i c, Reveals (some i) c (change i c)) :
    s.console.Reveals (some (s.console.addressed id)) s'.console := by
  refine withConnection_reveals h fun {i middle} _ run => ?_
  rcases runs_change_done_iff.1 run with ⟨-, rfl⟩
  exact changed i _

/-! ### Destroying -/

theorem current_destroy {i : ConnectionRef} :
    (Connection.destroy i).Every fun c c' => c'.current = c.current := by
  refine Connection.every_destroy (fun c => ?_) fun previous c => ?_
  · unfold Connection.beginDestroy
    dsimp only
    split <;> rfl
  · unfold Connection.finishDestroy
    split <;> rfl

/-- Only the connection that was in use for an id is destroyed, and only this id goes out of use. -/
theorem destroy_reveals {found : Bool} (h : (destroy id).Runs s found s') :
    s.console.Reveals (s.console.current? id) s'.console ∧
      ∀ other, other ≠ id → s'.console.current? other = s.console.current? other := by
  simp only [destroy, Program.bind_eq, runs_bind_iff, runs_atomically_iff] at h
  rcases h with ⟨_, middle, ⟨rfl, rfl⟩, h⟩
  have others : ∀ other, other ≠ id →
      (s.console.retire id).current? other = s.console.current? other := by
    intro other differs
    rw [current?_retire, if_neg differs]
  split at h
  · rcases runs_done_iff.1 h with ⟨-, rfl⟩
    exact ⟨Reveals.refl s.console, others⟩
  · next i used =>
      simp only [runs_bind_iff, Program.pure_eq, runs_done_iff] at h
      rcases h with ⟨_, _, destroyed, -, rfl⟩
      have kept := current_destroy.runs destroyed (fun _ => rfl) fun first second =>
        second.trans first
      have used' : s.console.current? id = some i := used
      rw [used']
      have shown := Connection.Call.reveals_runs .destroy destroyed
      refine ⟨shown, fun other differs => ?_⟩
      exact (congrArg (List.lookup other) kept).trans (others other differs)

/-! ### Moving the focus -/

def focused? (c : Console) : Option ConnectionRef := c.focus.bind c.current?

/-- A selection takes the messages of the connection that it finds as read, and observers see no
other change. -/
theorem select_reveals {a : Result Unit} (h : (select id).Runs s a s') (j : ConnectionRef) :
    (s'.console.connection j).view = (s.console.connection j).view ∨
      (s'.console.connection j).Shown ∧ s'.console.focus = some id ∧
        s'.console.current? id = some j ∧ (s'.console.connection j).snapshot =
          { (s.console.connection j).snapshot with unread := 0 } := by
  rcases withConnection_cases h with ⟨-, -, -, rfl⟩ | ⟨i, middle, found, finds, h⟩
  · exact Or.inl rfl
  · rcases runs_change_done_iff.1 h with ⟨-, rfl⟩
    have before : (middle.console.connection j).view = (s.console.connection j).view :=
      (reveals_getOrCreate.runs found .refl .trans).view j
    rcases connection_update_cases (middle.console.setFocus (some id)) i
      (·.present fun s => { s with unread := 0 }) j with same | ⟨rfl, changed⟩
    · exact Or.inl ((congrArg Connection.view same).trans before)
    · refine Or.inr ⟨?_, rfl, finds.used, ?_⟩
      · exact (congrArg Connection.Shown changed).mpr rfl
      · have same : (middle.console.connection j).snapshot = (s.console.connection j).snapshot :=
          congrArg Prod.fst before
        exact (congrArg Connection.snapshot changed).trans (same ▸ rfl)

end Console

/-- The connection that a step is about.  A selection is about no more than the focus. -/
def Label.subject? (before : Console) : Label → Option ConnectionRef
  | .call (.select _) _ => none
  | .call asked _ => some (before.addressed asked.subject)
  | .direct i _ _ => some i
  | .event i _ _ => some i
  | .outside => none

/-- Whether a step may change what can be seen of a connection: it is about the connection, or the
focus comes to it, so that its messages are taken as read. -/
def Label.Concerns (label : Label) (c c' : Console) (j : ConnectionRef) : Prop :=
  label.subject? c = some j ∨
    label.Touches .focus ∧ c'.focused? = some j ∧
      (c'.connection j).snapshot = { (c.connection j).snapshot with unread := 0 }

namespace Console

variable {id : ConnectionId} {s s' : Scene} {j : ConnectionRef}

/-- A removal is seen of the connection that is destroyed, and of the one that the focus comes
to. -/
theorem removeProfile_reveals {a : Result Unit} (h : (removeProfile id).Runs s a s')
    (j : ConnectionRef) :
    (s'.console.connection j).view = (s.console.connection j).view ∨
      (Label.call (.remove id) a).Concerns s.console s'.console j ∧
        (s'.console.connection j).Shown := by
  rcases removeProfile_cases h with
    ⟨-, -, rfl⟩ | ⟨-, dropped, focused, found, rfl, moved, destroyed, -⟩
  · exact Or.inl rfl
  · rcases destroy_reveals destroyed with ⟨shown, others⟩
    have addressed {i : ConnectionRef} (used : focused.console.current? id = some i) :
        (Label.call (.remove id) a).Concerns s.console s'.console i := by
      refine Or.inl (congrArg some ?_)
      -- It was in use before, or made while the focus moved to another profile with the same id.
      have before := moved.extends.2.symm.trans used
      rcases Option.or_eq_some_iff.1 before with inUse | ⟨unused, made⟩
      · exact addressed_of_used inUse
      · rcases Option.ite_some_none_eq_some.1 made with ⟨-, rfl⟩
        exact addressed_of_unused unused
    rcases shown j with same | ⟨used, shown⟩
    · have selected : (focused.console.connection j).view = (s.console.connection j).view ∨
          (focused.console.connection j).Shown ∧
          ∃ first, focused.console.focus = some first ∧
            focused.console.current? first = some j ∧ (focused.console.connection j).snapshot =
              { (s.console.connection j).snapshot with unread := 0 } := by
        unfold Refocuses at moved
        split at moved
        · rw [moved]
          exact Or.inl rfl
        · next first _ =>
            rcases select_reveals moved j with unseen | ⟨shown, focus, used, snapshot⟩
            · exact Or.inl unseen
            · exact Or.inr ⟨shown, first, focus, used, snapshot⟩
      rcases selected with unseen | ⟨shown, first, focus, used, snapshot⟩
      · exact Or.inl (same.trans unseen)
      · refine Or.inr ⟨?_, shown.of_view same⟩
        by_cases twice : first = id
        · subst twice
          exact addressed used
        · have kept : focused.console.Retains (fun _ => True) s'.console :=
            retains_destroy.runs destroyed .refl .trans
          have focus' : s'.console.focus = some first := (kept.focus trivial).trans focus
          refine Or.inr ⟨trivial, ?_, (congrArg Prod.fst same).trans snapshot⟩
          rw [focused?, focus', Option.bind_some, others first twice, used]
    · exact Or.inr ⟨addressed used, shown⟩

end Console

/-! ## Steps -/

/-- A step shows observers what it does, and does it to a connection that it concerns. -/
theorem Step.reveals {s s' : Scene} {label : Label} (step : Step s label s') (j : ConnectionRef) :
    (s'.console.connection j).view = (s.console.connection j).view ∨
      label.Concerns s.console s'.console j ∧ (s'.console.connection j).Shown := by
  have about {i : ConnectionRef} (h : s.console.Reveals (some i) s'.console)
      (this : label.subject? s.console = some i) :
      (s'.console.connection j).view = (s.console.connection j).view ∨
        label.Concerns s.console s'.console j ∧ (s'.console.connection j).Shown := by
    rcases h j with unseen | ⟨⟨⟩, shown⟩
    · exact Or.inl unseen
    · exact Or.inr ⟨Or.inl this, shown⟩
  cases step with
  | @direct i call _ _ _ _ run => exact about (call.reveals_runs run) rfl
  | @event i session event _ _ _ _ run =>
      exact about (Connection.reveals_react.runs run .refl .trans) rfl
  | outside change => cases change <;> exact Or.inl rfl
  | @call call _ _ _ run =>
      cases call with
      | remove id => exact Console.removeProfile_reveals run j
      | select id =>
          rcases Console.select_reveals run j with unseen | ⟨shown, focus, used, snapshot⟩
          · exact Or.inl unseen
          · refine Or.inr ⟨Or.inr ⟨trivial, ?_, snapshot⟩, shown⟩
            rw [Console.focused?, focus, Option.bind_some, used]
      | getOrCreate id p =>
          exact about (Console.reveals_getOrCreate.runs run .refl .trans).of_none rfl
      | add id fresh p =>
          have unseen : (Console.addProfile id fresh p).Every (Console.Reveals none) :=
            Console.every_addProfile .refl (fun _ c => .refl c) Console.reveals_ensure
          exact about (unseen.runs run .refl .trans).of_none rfl
      | update p => exact about (Console.reveals_modifyProfile.runs run .refl .trans).of_none rfl
      | destroy id =>
          have shown := (Console.destroy_reveals run).1
          refine about (fun j => ?_) rfl
          rcases shown j with unseen | ⟨used, shown⟩
          · exact Or.inl unseen
          · exact Or.inr ⟨congrArg some (Console.addressed_of_used used), shown⟩
      | connect id token => exact about (Console.connect_reveals run) rfl
      | disconnect id => exact about (Console.disconnect_reveals run) rfl
      | publish id d audience => exact about (Console.publish_reveals run) rfl
      | subscribe id fresh filters audience => exact about (Console.subscribe_reveals run) rfl
      | unsubscribe id filters audience =>
          refine about (Console.withConnection_reveals run fun _ run => ?_) rfl
          exact Connection.Call.reveals_runs (.unsubscribe filters audience) run
      | subscribeAll id fresh => exact about (Console.subscribeAll_reveals run) rfl
      | unsubscribeAll id => exact about (Console.unsubscribeAll_reveals run) rfl
      | clear id => exact about (Console.locally_reveals run fun _ _ => .present) rfl
      | setRenderMode id mode =>
          exact about (Console.locally_reveals run fun _ _ => .present) rfl
      | forget id filter =>
          exact about (Console.locally_reveals run fun _ _ => Connection.reveals_forget) rfl

/-! ## Runs -/

theorem Console.reveals_addAll (c : Console) (profiles : List Profile) :
    c.Reveals none (c.addAll profiles) := by
  induction profiles generalizing c with
  | nil => exact .refl c
  | cons p rest ih => exact ((reveals_ensure p c).trans (reveals_configure p _)).trans (ih _)

variable {settings : Settings} {catalog : Catalog} {storage : ProfileStorage}
  {fresh : Nat → ConnectionId} {clock : Int} {transitions : List Transition} {s : Scene}

theorem Scene.shown_start (i : ConnectionRef) :
    ((Scene.start settings catalog storage fresh clock).console.connection i).Shown := by
  let profiles := storage.load fresh
  let empty : Console := ⟨settings, catalog, profiles, [], [], [], false,
    profiles.head?.map (·.id), storage, [], .ofCapacity settings.eventCapacity, clock⟩
  have blank : (empty.connection i).Shown := by
    rw [Console.connection_of_le (Nat.zero_le i)]
    rfl
  exact blank.of_view ((Console.reveals_addAll empty profiles).view i)

theorem Run.shown (run : Run (.start settings catalog storage fresh clock) transitions s)
    (i : ConnectionRef) : (s.console.connection i).Shown := by
  refine run.invariant (fun s => (s.console.connection i).Shown) (Scene.shown_start i) ?_
  intro s label s' shown step
  rcases step.reveals i with unseen | ⟨-, shown⟩
  · exact shown.of_view unseen
  · exact shown

/-- After every run, observers of each connection were shown its present state; and a step changes
what they see of the connection that it is about alone, save that the messages of the connection
that the focus comes to are taken as read. -/
theorem changes_are_shown (run : Run (.start settings catalog storage fresh clock) transitions s) :
    (∀ i, (s.console.connection i).shown = (s.console.connection i).snapshot) ∧
    ∀ label s', Step s label s' → ∀ j,
      (s'.console.connection j).snapshot = (s.console.connection j).snapshot ∨
      label.subject? s.console = some j ∨
      label.Touches .focus ∧ s'.console.focused? = some j ∧
        (s'.console.connection j).snapshot =
          { (s.console.connection j).snapshot with unread := 0 } := by
  refine ⟨run.shown, fun label s' step j => ?_⟩
  rcases step.reveals j with unseen | ⟨concerned, -⟩
  · exact Or.inl (congrArg Prod.fst unseen)
  · exact Or.inr concerned

/-- A removal destroys a connection whose session cannot be closed, and the focus comes to another
one with unread messages. -/
theorem changes_are_shown_of_removal :
    ∃ (transitions : List Transition) (s s' : Scene) (label : Label),
      Run .blank transitions s ∧ Step s label s' ∧
      (∀ i, (s.console.connection i).shown = (s.console.connection i).snapshot) ∧
      (∀ j, (s'.console.connection j).snapshot = (s.console.connection j).snapshot ∨
        label.subject? s.console = some j ∨
        label.Touches .focus ∧ s'.console.focused? = some j ∧
          (s'.console.connection j).snapshot =
            { (s.console.connection j).snapshot with unread := 0 }) ∧
      label.subject? s.console = some 0 ∧
      (s'.console.connection 0).snapshot.status = .destroyed ∧
      s'.console.focused? = some 1 ∧ (s.console.connection 1).snapshot.unread = 2 ∧
      (s'.console.connection 1).snapshot.unread = 0 := by
  let p : Profile := { Profile.default ⟨0⟩ with role := .server }
  let message : Action := .event 1 1 (.message ⟨"t", [], .atMostOnce, false, none⟩)
  let opening : List Action :=
    [.call (.add ⟨7⟩ (fun _ => "") p), .call (.add ⟨8⟩ (fun _ => "") p), .call (.select ⟨7⟩),
      .call (.connect ⟨7⟩ none), .event 0 0 .connected, .call (.connect ⟨8⟩ none),
      .event 1 1 .connected, message, message]
  let s := (Scene.blank.play .obliging opening).2
  have run : Run .blank _ s :=
    Run.play Responder.fair_obliging .start (by decide : Scene.blank.Playable .obliging opening)
  let removal := Action.take .refusing s (.call (.remove ⟨7⟩))
  have step : Step s removal.label removal.after :=
    Action.step_take Responder.fair_refusing trivial
  exact ⟨_, s, removal.after, removal.label, run, step, (changes_are_shown run).1,
    (changes_are_shown run).2 _ _ step, by decide, by decide, by decide, by decide, by decide⟩

end DeviceConsole
