import DeviceConsole.Proofs.Overlap.Alters

/-!
# Changes that listeners do not hear

Most of what a console does raises no events, and leaves the connections that hold a session with
it.  This file defines:

* `Console.Airs events`, changes that raise just the given events;
* `Connection.Bound fixed`, whether a connection is still bound to its session as before, under the
  same scope if `fixed`;
* `Console.Binds fixed`, changes that bring no session to a connection, and `Console.Quiet fixed`,
  those that raise no event besides;
* one lemma for each small change and for each operation that is quiet.
-/

namespace DeviceConsole

open Operation

/-! ## Relations -/

namespace Connection

/-- Whether a connection has the same session, from the same connect, as it had before; and whether
it speaks for the same things, if that is asked. -/
structure Bound (fixed : Prop) (x y : Connection) : Prop where
  session : y.session = x.session
  token : y.token = x.token
  id : y.id = x.id
  scope : fixed → y.profile.scope = x.profile.scope

variable {fixed : Prop} {x y z : Connection}

theorem Bound.refl (x : Connection) : x.Bound fixed x := ⟨rfl, rfl, rfl, fun _ => rfl⟩

theorem Bound.trans (first : x.Bound fixed y) (second : y.Bound fixed z) : x.Bound fixed z where
  session := second.session.trans first.session
  token := second.token.trans first.token
  id := second.id.trans first.id
  scope h := (second.scope h).trans (first.scope h)

theorem Bound.mono {wider : Prop} (h : x.Bound fixed y) (implies : wider → fixed) :
    x.Bound wider y := ⟨h.session, h.token, h.id, fun w => h.scope (implies w)⟩

end Connection

namespace Console

/-- Whether a change raises the given events, one after the other, and nothing else. -/
def Airs (events : List ThingEvent) (c c' : Console) : Prop :=
  c'.bus = events.foldl EventBus.publish c.bus ∧ c'.clock = c.clock

/-- Whether the connections that hold a session after a change were bound to it before. -/
def Binds (fixed : Prop) (c c' : Console) : Prop :=
  ∀ (i : ConnectionRef) (session : SessionId),
    (c'.connections.getD i default).session = some session →
      (c.connections.getD i default).Bound fixed (c'.connections.getD i default)

/-- Whether a change raises no event, and brings no session to a connection. -/
def Quiet (fixed : Prop) (c c' : Console) : Prop := c.Airs [] c' ∧ c.Binds fixed c'

variable {fixed : Prop} {c c' c'' : Console} {i : ConnectionRef} {session : SessionId}

theorem Airs.trans {first second : List ThingEvent} (h : c.Airs first c')
    (h' : c'.Airs second c'') : c.Airs (first ++ second) c'' := by
  refine ⟨?_, h'.2.trans h.2⟩
  rw [h'.1, h.1, List.foldl_append]

namespace Binds

theorem bound (h : c.Binds fixed c') (held : (c'.connection i).session = some session) :
    (c.connection i).Bound fixed (c'.connection i) := h i session held

theorem refl (c : Console) : c.Binds fixed c := fun _ _ _ => .refl _

theorem trans (first : c.Binds fixed c') (second : c'.Binds fixed c'') : c.Binds fixed c'' := by
  intro i session held
  have later := second i session held
  exact (first i session (later.session.symm.trans held)).trans later

theorem mono {wider : Prop} (h : c.Binds fixed c') (implies : wider → fixed) :
    c.Binds wider c' := fun i session held => (h i session held).mono implies

/-- A change of one connection, by what it makes of this one if it leaves it a session. -/
theorem update {change : Connection → Connection}
    (h : (change (c.connection i)).session ≠ none →
      (c.connection i).Bound fixed (change (c.connection i))) :
    c.Binds fixed (c.update i change) := by
  have alters : c.Alters i (fun x y => y.session ≠ none → x.Bound fixed y) (c.update i change) :=
    .update (fun x _ => .refl x) h
  intro j session held
  change ((c.update i change).connection j).session = some session at held
  change (c.connection j).Bound fixed ((c.update i change).connection j)
  by_cases same : j = i
  · subst same
    refine alters.own ?_
    rw [held]
    exact Option.some_ne_none session
  · rw [alters.others same]
    exact .refl _

end Binds

namespace Quiet

theorem bound (h : c.Quiet fixed c') (held : (c'.connection i).session = some session) :
    (c.connection i).Bound fixed (c'.connection i) := h.2.bound held

theorem refl (c : Console) : c.Quiet fixed c := ⟨⟨rfl, rfl⟩, .refl c⟩

theorem trans (first : c.Quiet fixed c') (second : c'.Quiet fixed c'') : c.Quiet fixed c'' :=
  ⟨first.1.trans second.1, first.2.trans second.2⟩

theorem mono {wider : Prop} (h : c.Quiet fixed c') (implies : wider → fixed) :
    c.Quiet wider c' := ⟨h.1, h.2.mono implies⟩

theorem update {change : Connection → Connection}
    (h : (change (c.connection i)).session ≠ none →
      (c.connection i).Bound fixed (change (c.connection i))) :
    c.Quiet fixed (c.update i change) := ⟨⟨rfl, rfl⟩, .update h⟩

theorem present {change : Snapshot → Snapshot} : c.Quiet fixed (c.present i change) :=
  .update fun _ => ⟨rfl, rfl, rfl, fun _ => rfl⟩

/-- A connection without a session is not bound to any. -/
theorem release {change : Connection → Connection}
    (h : (change (c.connection i)).session = none) : c.Quiet fixed (c.update i change) :=
  .update fun some => absurd h some

theorem report (audience : Audience) (text : String) :
    c.Quiet fixed (c.report audience text) := by
  cases audience <;> exact .refl c

end Quiet

end Console

/-! ## Small changes -/

namespace Connection

open Console (Quiet)

variable {fixed : Prop} {c : Console} {i : ConnectionRef} {session : SessionId}

theorem quiet_beginDisconnect : c.Quiet fixed (beginDisconnect i c).2 := by
  unfold beginDisconnect
  dsimp only
  split
  · exact .refl c
  · dsimp only
    split
    · exact .present
    · exact .refl c

theorem quiet_failDisconnect {previous : ConnectionStatus} {error : TransportError} :
    c.Quiet fixed (failDisconnect i previous error c) := Quiet.present (c := c)

theorem quiet_beginDestroy : c.Quiet fixed (beginDestroy i c).2 := by
  unfold beginDestroy
  dsimp only
  split
  · exact .refl c
  · exact Quiet.release rfl

theorem quiet_finishDestroy {previous : ConnectionStatus} :
    c.Quiet fixed (finishDestroy i previous c) := by
  unfold finishDestroy
  split
  · exact Quiet.present (c := c.releaseGate)
  · exact .present

theorem quiet_beginPublish {d : Draft} {audience : Audience} :
    c.Quiet fixed (beginPublish i d audience c).2 := by
  simp only [beginPublish]
  split
  · exact .refl c
  · split
    · exact .refl c
    · split
      · exact .refl c
      · split
        · exact .refl c
        · split
          · exact Quiet.report (c := c.notifyAll _) _ _
          · exact .refl c

theorem quiet_beginRequest {count : Nat} : c.Quiet fixed (beginRequest i count c).2 := by
  simp only [beginRequest]
  split
  · exact .refl c
  · split
    · exact .refl c
    · split <;> exact .refl c

theorem quiet_countAttempt : c.Quiet fixed (countAttempt i session c).2 := by
  simp only [countAttempt]
  split
  · split
    · exact Quiet.present (c := c)
    · exact .refl c
  · exact .refl c

theorem quiet_onError {reason : String} : c.Quiet fixed (onError i session reason c) := by
  unfold onError
  split
  · exact Quiet.present (c := c)
  · exact .refl c

theorem quiet_onClose {reason : Option String} : c.Quiet fixed (onClose i session reason c) := by
  unfold onClose
  split
  · cases reason <;> exact Quiet.present (c := c)
  · exact .refl c

theorem quiet_forget {filter : String} : c.Quiet fixed (forget i filter c) := by
  unfold forget
  split
  · exact .present
  · exact .refl c

/-! ## Operations of a connection -/

theorem quiet_disconnect : (disconnect i).Every (Quiet fixed) :=
  every_disconnect (fun _ => quiet_beginDisconnect) (fun _ => .present) fun _ _ _ =>
    quiet_failDisconnect

theorem quiet_destroy : (destroy i).Every (Quiet fixed) :=
  every_destroy (fun _ => quiet_beginDestroy) fun _ _ => quiet_finishDestroy

theorem quiet_subscribe {filters : List FilterRequest} {audience : Audience} :
    (subscribe i filters audience).Every (Quiet fixed) := by
  refine every_subscribe (fun _ => quiet_beginRequest) (fun _ _ => .report _ _) fun c text => ?_
  cases audience <;> exact Quiet.present (c := c)

theorem quiet_unsubscribe {filters : List String} {audience : Audience} :
    (unsubscribe i filters audience).Every (Quiet fixed) := by
  refine every_unsubscribe (fun _ => quiet_beginRequest) (fun _ _ => .report _ _) fun c text => ?_
  cases audience <;> exact Quiet.present (c := c)

theorem quiet_onReconnecting : (onReconnecting i session).Every (Quiet fixed) := by
  refine every_atomically_bind (fun _ => quiet_countAttempt) ?_
  rintro (_ | _)
  · trivial
  · refine every_bind quiet_disconnect ?_
    rintro (error | _)
    · trivial
    · exact every_change fun _ => .present

end Connection

/-- Whether a call of a connection neither brings it a session nor sends a message. -/
def Connection.Call.Mute : Connection.Call → Prop
  | .connect _ _ => False
  | .publish _ _ => False
  | _ => True

theorem Connection.Call.quiet {fixed : Prop} {i : ConnectionRef} {call : Connection.Call}
    (mute : call.Mute) : (call.program i).Every (Console.Quiet fixed) := by
  cases call with
  | connect | publish => cases mute
  | disconnect => exact quiet_disconnect
  | destroy => exact quiet_destroy
  | subscribe filters audience => exact quiet_subscribe
  | unsubscribe filters audience => exact quiet_unsubscribe
  | clear | read | setRenderMode mode => exact every_change fun _ => .present
  | forget filter => exact every_change fun _ => quiet_forget

theorem Connection.Call.runs_quiet {i : ConnectionRef} {call : Connection.Call}
    {result : call.Result} {s s' : Scene} (run : (call.program i).Runs s result s')
    (mute : call.Mute) : s.console.Quiet True s'.console := (quiet mute).runs run .refl .trans

/-! ## Operations of a console -/

namespace Console

variable {fixed : Prop} {c : Console} {id : ConnectionId}

theorem quiet_ensure (p : Profile) (c : Console) : c.Quiet fixed (c.ensure p).2 := by
  unfold ensure
  split
  · exact .refl c
  · refine ⟨⟨rfl, rfl⟩, fun i session held => ?_⟩
    by_cases hi : i < c.connections.length
    · have same : (c.connections ++ [Connection.ofProfile p]).getD i default =
          c.connections.getD i default := by
        simp [List.getElem?_append_left hi]
      dsimp only at held ⊢
      rw [same]
      exact .refl _
    · -- The new connection has no session, and neither has one that there is not.
      have unopened :
          ((c.connections ++ [Connection.ofProfile p]).getD i default).session = none := by
        rw [List.getD_eq_getElem?_getD, List.getElem?_append_right (Nat.not_lt.1 hi)]
        cases i - c.connections.length <;> rfl
      cases unopened.symm.trans held

/-- A connection that gets another profile may speak for other things from then on. -/
theorem quiet_configure (p : Profile) (c : Console) : c.Quiet False (c.configure p) := by
  unfold configure
  split
  · exact .update fun _ => ⟨rfl, rfl, rfl, False.elim⟩
  · exact .refl c

theorem quiet_changeProfile {change : Profile → Profile} :
    c.Quiet fixed (changeProfile id change c).2 := by
  unfold changeProfile
  split <;> exact .refl c

theorem quiet_dropProfile : c.Quiet fixed (dropProfile id c).2 := by
  unfold dropProfile
  split <;> exact .refl c

theorem quiet_getOrCreate {p : Option Profile} : (getOrCreate id p).Every (Quiet fixed) :=
  every_getOrCreate .refl quiet_ensure

theorem quiet_modifyProfile {change : Profile → Profile} :
    (modifyProfile id change).Every (Quiet False) :=
  every_modifyProfile (fun _ => quiet_changeProfile) quiet_configure

theorem quiet_destroy : (destroy id).Every (Quiet fixed) :=
  every_destroy (fun c => .refl c) fun _ => Connection.quiet_destroy

theorem quiet_subscribe {fresh : Nat → String} {filters : List FilterRequest}
    {audience : Audience} : (subscribe id fresh filters audience).Every (Quiet False) :=
  every_subscribe .refl quiet_ensure (fun _ => Connection.quiet_subscribe) fun _ =>
    quiet_modifyProfile

theorem quiet_locally {change : ConnectionRef → Console → Console}
    (h : ∀ i c, Quiet fixed c (change i c)) : (locally id change).Every (Quiet fixed) :=
  every_locally .refl quiet_ensure h

namespace Call

/-- Whether a call of the console neither brings a session to a connection nor sends a message. -/
def Mute : Console.Call → Prop
  | .connect _ _ => False
  | .publish _ _ _ => False
  | _ => True

/-- Whether a call may give a connection the profile that is stored for it. -/
def Configures : Console.Call → Prop
  | .update _ => True
  | .publish _ _ _ => True
  | .subscribe _ _ _ _ => True
  | .subscribeAll _ _ => True
  | _ => False

/-- Calls that neither connect nor publish are quiet, and change no scope unless they configure. -/
theorem quiet {call : Console.Call} (mute : call.Mute) :
    call.program.Every (Quiet (¬ call.Configures)) := by
  have told : ∀ {fixed : Prop} (c : Console) level text, c.Quiet fixed (c.notify level text) :=
    fun c _ _ => .refl c
  have shown : ∀ {fixed : Prop} first i (c : Console),
      c.Quiet fixed (Connection.read i (c.setFocus first)) :=
    fun _ _ c => Quiet.present (c := c)
  -- What is not fixed is so under any condition that fails.
  have configured {α : Type} {p : Operation α} (h : p.Every (Quiet False)) :
      p.Every (Quiet (¬ True)) := h.mono fun _ _ quiet => quiet.mono fun no => no trivial
  cases call with
  | connect | publish => cases mute
  | getOrCreate id p => exact quiet_getOrCreate
  | destroy id => exact quiet_destroy
  | add id fresh p => exact every_addProfile .refl (fun _ c => .refl c) quiet_ensure
  | update p => exact configured quiet_modifyProfile
  | remove id =>
      exact every_removeProfile .refl quiet_ensure (fun _ => quiet_dropProfile) (fun c => .refl c)
        (fun _ => shown _) quiet_destroy
  | select id => exact every_select .refl quiet_ensure (shown _)
  | disconnect id => exact every_disconnect .refl quiet_ensure fun _ => Connection.quiet_disconnect
  | subscribe id fresh filters audience => exact configured quiet_subscribe
  | unsubscribe id filters audience =>
      exact every_withConnection .refl quiet_ensure fun _ => Connection.quiet_unsubscribe
  | subscribeAll id fresh =>
      exact configured (every_subscribeAll .refl quiet_ensure told fun _ => quiet_subscribe)
  | unsubscribeAll id =>
      exact every_unsubscribeAll .refl quiet_ensure told fun _ _ => Connection.quiet_unsubscribe
  | clear id => exact quiet_locally fun _ _ => .present
  | setRenderMode id mode => exact quiet_locally fun _ _ => .present
  | forget id filter => exact quiet_locally fun _ _ => Connection.quiet_forget

theorem runs_quiet {call : Console.Call} {result : call.Result} {s s' : Scene}
    (run : call.program.Runs s result s') (mute : call.Mute) :
    s.console.Quiet (¬ call.Configures) s'.console := (quiet mute).runs run .refl .trans

end Call

end Console

end DeviceConsole
