import DeviceConsole.Proofs.Session.Publishing

/-!
# What calls and events leave alone

A fact about one part of a console need not know what becomes of the other parts.  This file
defines:

* `Aspect`, a few parts of a console: the logs, the terms of its sessions, and the focus;
* `Console.Retains kept`, the changes that leave the kept ones alone, and may make connections and
  take them out of use besides;
* `Label.Touches`, the aspects that a step may change, and `Step.retains`, which says that it leaves
  the others alone.
-/

namespace DeviceConsole

open Operation

/-! ## Aspects -/

inductive Aspect where
  /-- The messages in the logs, and how many of them are unread. -/
  | log
  /-- Who holds a session, and whether its filters are restored. -/
  | terms
  | focus

namespace Connection

def tally (x : Connection) : List Message × Nat := (x.snapshot.messages, x.snapshot.unread)

/-- Whether the kept aspects of a connection stay.  A session may be lost, but none comes. -/
structure Resembles (kept : Aspect → Prop) (x y : Connection) : Prop where
  id : y.id = x.id
  tally : kept .log → y.tally = x.tally
  terms : kept .terms →
    y.session = none ∨ y.session = x.session ∧ y.resubscribe = x.resubscribe

variable {kept : Aspect → Prop} {x y z : Connection}

theorem Resembles.refl (x : Connection) : x.Resembles kept x :=
  ⟨rfl, fun _ => rfl, fun _ => Or.inr ⟨rfl, rfl⟩⟩

theorem Resembles.trans (first : x.Resembles kept y) (second : y.Resembles kept z) :
    x.Resembles kept z where
  id := second.id.trans first.id
  tally h := (second.tally h).trans (first.tally h)
  terms h := by
    rcases second.terms h with lost | ⟨same, resubscribe⟩
    · exact Or.inl lost
    · rw [same, resubscribe]
      exact first.terms h

end Connection

/-- The part of a console that aspects are about. -/
structure Desk where
  settings : Settings
  focus : Option ConnectionId
  connections : List Connection
  current : List (ConnectionId × ConnectionRef)

def Console.desk (c : Console) : Desk := ⟨c.settings, c.focus, c.connections, c.current⟩

/-- Whether the kept aspects of a desk stay.  There may be new connections, which come into use for
their own id, and connections may go out of use. -/
structure Desk.Retains (kept : Aspect → Prop) (d d' : Desk) : Prop where
  settings : d'.settings = d.settings
  focus : kept .focus → d'.focus = d.focus
  length : d.connections.length ≤ d'.connections.length
  old : ∀ j < d.connections.length,
    (d.connections.getD j default).Resembles kept (d'.connections.getD j default)
  new : ∀ j, d.connections.length ≤ j →
    (kept .log → (d'.connections.getD j default).tally = ([], 0)) ∧
    (kept .terms → (d'.connections.getD j default).session = none)
  current : ∀ id i, d'.current.lookup id = some i →
    d.current.lookup id = some i ∨
      d.connections.length ≤ i ∧ i < d'.connections.length ∧
        (d'.connections.getD i default).id = id

namespace Console

def Retains (kept : Aspect → Prop) (c c' : Console) : Prop := c.desk.Retains kept c'.desk

variable {kept : Aspect → Prop} {c c' c'' : Console} {i j : ConnectionRef}

theorem connection_of_le (beyond : c.connections.length ≤ j) : c.connection j = default := by
  simp [connection, beyond]

namespace Retains

theorem settings (h : c.Retains kept c') : c'.settings = c.settings := Desk.Retains.settings h

theorem focus (h : c.Retains kept c') (watched : kept .focus) : c'.focus = c.focus :=
  Desk.Retains.focus h watched

theorem length (h : c.Retains kept c') : c.connections.length ≤ c'.connections.length :=
  Desk.Retains.length h

theorem id (h : c.Retains kept c') (hj : j < c.connections.length) :
    (c'.connection j).id = (c.connection j).id := (Desk.Retains.old h j hj).id

/-- The log of a connection that there was not is that of a new one. -/
theorem tally (h : c.Retains kept c') (logged : kept .log) (j : ConnectionRef) :
    (c'.connection j).tally = (c.connection j).tally := by
  by_cases hj : j < c.connections.length
  · exact (Desk.Retains.old h j hj).tally logged
  · rw [connection_of_le (Nat.not_lt.1 hj)]
    exact (Desk.Retains.new h j (Nat.not_lt.1 hj)).1 logged

theorem terms (h : c.Retains kept c') (bound : kept .terms) (j : ConnectionRef) :
    (c'.connection j).session = none ∨ (c'.connection j).session = (c.connection j).session ∧
      (c'.connection j).resubscribe = (c.connection j).resubscribe := by
  by_cases hj : j < c.connections.length
  · exact (Desk.Retains.old h j hj).terms bound
  · exact Or.inl ((Desk.Retains.new h j (Nat.not_lt.1 hj)).2 bound)

theorem current (h : c.Retains kept c') {id : ConnectionId} (used : c'.current? id = some i) :
    c.current? id = some i ∨
      c.connections.length ≤ i ∧ i < c'.connections.length ∧ (c'.connection i).id = id :=
  Desk.Retains.current h id i used

theorem of_alters (h : c.Alters i (Connection.Resembles kept) c')
    (settings : c'.settings = c.settings) (focus : kept .focus → c'.focus = c.focus)
    (current : c'.current = c.current) :
    c.Retains kept c' where
  settings := settings
  focus := focus
  length := Nat.le_of_eq h.length.symm
  old j _ := by
    change (c.connection j).Resembles kept (c'.connection j)
    by_cases same : j = i
    · subst same
      exact h.own
    · rw [h.others same]
      exact .refl _
  new j beyond := by
    have absent : c'.connection j = default := connection_of_le (h.length ▸ beyond)
    change (kept .log → (c'.connection j).tally = _) ∧
      (kept .terms → (c'.connection j).session = _)
    rw [absent]
    exact ⟨fun _ => rfl, fun _ => rfl⟩
  current id i used := by
    change c'.current.lookup id = some i at used
    rw [current] at used
    exact Or.inl used

theorem refl (c : Console) : c.Retains kept c :=
  of_alters (i := 0) (.refl Connection.Resembles.refl c) rfl (fun _ => rfl) rfl

theorem trans (first : c.Retains kept c') (second : c'.Retains kept c'') : c.Retains kept c'' where
  settings := second.settings.trans first.settings
  focus h := (second.focus h).trans (first.focus h)
  length := Nat.le_trans first.length second.length
  old j hj := (Desk.Retains.old first j hj).trans
    (Desk.Retains.old second j (Nat.lt_of_lt_of_le hj first.length))
  new j beyond := by
    have fresh := Desk.Retains.new first j beyond
    refine ⟨fun logged => (second.tally logged j).trans (fresh.1 logged), fun bound => ?_⟩
    rcases second.terms bound j with lost | ⟨same, -⟩
    · exact lost
    · exact same.trans (fresh.2 bound)
  current id i used := by
    rcases second.current used with before | ⟨beyond, inside, named⟩
    · rcases first.current before with before | ⟨beyond, inside, named⟩
      · exact Or.inl before
      · exact Or.inr ⟨beyond, Nat.lt_of_lt_of_le inside second.length,
          (second.id inside).trans named⟩
    · exact Or.inr ⟨Nat.le_trans first.length beyond, inside, named⟩

theorem mono {fewer : Aspect → Prop} (h : c.Retains kept c') (implies : ∀ a, fewer a → kept a) :
    c.Retains fewer c' where
  settings := h.settings
  focus k := h.focus (implies _ k)
  length := h.length
  old j hj := by
    have own := Desk.Retains.old h j hj
    exact ⟨own.id, fun k => own.tally (implies _ k), fun k => own.terms (implies _ k)⟩
  new j beyond := by
    have fresh := Desk.Retains.new h j beyond
    exact ⟨fun k => fresh.1 (implies _ k), fun k => fresh.2 (implies _ k)⟩
  current _ _ used := h.current used

theorem update {change : Connection → Connection}
    (h : (c.connection i).Resembles kept (change (c.connection i))) :
    c.Retains kept (c.update i change) :=
  of_alters (.update Connection.Resembles.refl h) rfl (fun _ => rfl) rfl

/-- Most of what observers see is not in the log. -/
theorem present {change : Snapshot → Snapshot}
    (unlogged : ∀ s, (change s).messages = s.messages ∧ (change s).unread = s.unread) :
    c.Retains kept (c.present i change) :=
  .update ⟨rfl, fun _ => Prod.ext (unlogged _).1 (unlogged _).2, fun _ => Or.inr ⟨rfl, rfl⟩⟩

/-- Whatever becomes of what observers see, no session comes. -/
theorem present_log (unlogged : ¬ kept .log) {change : Snapshot → Snapshot} :
    c.Retains kept (c.present i change) :=
  .update ⟨rfl, fun logged => absurd logged unlogged, fun _ => Or.inr ⟨rfl, rfl⟩⟩

theorem of_tells (h : c.Tells c') : c.Retains kept c' := by
  rcases h with ⟨notices, rfl⟩
  exact .refl c

theorem report (audience : Audience) (text : String) :
    c.Retains kept (c.report audience text) := of_tells (tells_report _ _)

end Retains

end Console

/-! ## Small changes -/

namespace Connection

open Console (Retains)

variable {kept : Aspect → Prop} {c : Console} {i : ConnectionRef} {session : SessionId}

theorem retains_beginConnect : c.Retains kept (beginConnect i c).2 := by
  unfold beginConnect
  dsimp only
  split
  · exact .refl c
  · split
    · exact .refl c
    · exact Retains.update (c := c) ⟨rfl, fun _ => rfl, fun _ => Or.inl rfl⟩

theorem retains_restoreSession (unbound : ¬ kept .terms) :
    c.Retains kept (restoreSession i session c) :=
  Retains.update (c := c) ⟨rfl, fun _ => rfl, fun bound => absurd bound unbound⟩

theorem retains_prepare (unbound : ¬ kept .terms) {p : Profile} {token : Option String} :
    c.Retains kept (prepare i p token c).2 :=
  Retains.update (c := c) ⟨rfl, fun _ => rfl, fun bound => absurd bound unbound⟩

theorem retains_failOpen {error : TransportError} : c.Retains kept (failOpen i error c) :=
  Retains.present (c := c) fun _ => ⟨rfl, rfl⟩

theorem retains_adopt (unbound : ¬ kept .terms) : c.Retains kept (adopt i session c).2 := by
  unfold adopt
  split
  · exact .refl c
  · exact Retains.update (c := c) ⟨rfl, fun _ => rfl, fun bound => absurd bound unbound⟩

theorem retains_beginDisconnect : c.Retains kept (beginDisconnect i c).2 := by
  unfold beginDisconnect
  dsimp only
  split
  · exact .refl c
  · dsimp only
    split
    · exact .present fun _ => ⟨rfl, rfl⟩
    · exact .refl c

theorem retains_failDisconnect {previous : ConnectionStatus} {error : TransportError} :
    c.Retains kept (failDisconnect i previous error c) :=
  Retains.present (c := c) fun _ => ⟨rfl, rfl⟩

theorem retains_beginDestroy : c.Retains kept (beginDestroy i c).2 := by
  unfold beginDestroy
  dsimp only
  split
  · exact .refl c
  · exact .update ⟨rfl, fun _ => rfl, fun _ => Or.inl rfl⟩

theorem retains_finishDestroy {previous : ConnectionStatus} :
    c.Retains kept (finishDestroy i previous c) := by
  unfold finishDestroy
  split
  · exact Retains.present (c := c.releaseGate) fun _ => ⟨rfl, rfl⟩
  · exact .present fun _ => ⟨rfl, rfl⟩

theorem retains_logMessage (unlogged : ¬ kept .log) {m : Message} :
    c.Retains kept (logMessage i m c) := .present_log unlogged

theorem retains_beginPublish {d : Draft} {audience : Audience} :
    c.Retains kept (beginPublish i d audience c).2 :=
  .of_tells (beginPublish_checks i d audience c).1

theorem retains_finishPublish (unlogged : ¬ kept .log) {d : Draft} :
    c.Retains kept (finishPublish i d c) := by
  have edited : ∀ defaults, c.Retains kept
      (c.update i fun connection => { connection with profile.publishDefaults := defaults }) :=
    fun _ => .update ⟨rfl, fun _ => rfl, fun _ => Or.inr ⟨rfl, rfl⟩⟩
  exact (edited _).trans (retains_logMessage unlogged)

theorem retains_beginRequest {count : Nat} : c.Retains kept (beginRequest i count c).2 := by
  simp only [beginRequest]
  split
  · exact .refl c
  · split
    · exact .refl c
    · split <;> exact .refl c

theorem retains_mark {mark : Bool} {filters : List String} {audience : Audience} {text : String} :
    c.Retains kept ((c.present i (Snapshot.mark mark filters)).confirm audience text) := by
  cases audience <;> exact Retains.present (c := c) fun _ => ⟨rfl, rfl⟩

theorem retains_acceptConnected : c.Retains kept (acceptConnected i session c).2 := by
  have up : c.Retains kept (c.update i fun connection =>
      { connection with token := none }.present fun s =>
        { s with status := .connected, retryCount := 0 }) :=
    .update ⟨rfl, fun _ => rfl, fun _ => Or.inr ⟨rfl, rfl⟩⟩
  simp only [acceptConnected]
  split
  · split
    · exact up
    · exact up
  · exact .refl c

theorem retains_countAttempt : c.Retains kept (countAttempt i session c).2 := by
  simp only [countAttempt]
  split
  · split
    · exact Retains.present (c := c) fun _ => ⟨rfl, rfl⟩
    · exact .refl c
  · exact .refl c

theorem retains_onError {reason : String} : c.Retains kept (onError i session reason c) := by
  unfold onError
  split
  · exact Retains.present (c := c) fun _ => ⟨rfl, rfl⟩
  · exact .refl c

theorem retains_onClose {reason : Option String} : c.Retains kept (onClose i session reason c) := by
  unfold onClose
  split
  · cases reason <;> exact Retains.present (c := c) fun _ => ⟨rfl, rfl⟩
  · exact .refl c

theorem retains_onEnded : c.Retains kept (onEnded i session c) := by
  have ended : c.Retains kept (c.update i fun connection =>
      { connection with session := none }.present fun s =>
        { s with status := .disconnected, live := .empty }) :=
    .update ⟨rfl, fun _ => rfl, fun _ => Or.inl rfl⟩
  simp only [onEnded]
  split
  · split
    · exact ended
    · exact ended
  · exact .refl c

theorem retains_onMessage (unlogged : ¬ kept .log) {packet : Packet} :
    c.Retains kept (onMessage i session packet c) := by
  simp only [onMessage]
  split
  · exact retains_logMessage (c := c.notifyAll _) unlogged
  · exact .refl c

theorem retains_forget {filter : String} : c.Retains kept (forget i filter c) := by
  unfold forget
  split
  · exact .present fun _ => ⟨rfl, rfl⟩
  · exact .refl c

/-! ## Calls and events -/

theorem retains_connect (unbound : ¬ kept .terms) {p : Profile} {token : Option String} :
    (connect i p token).Every (Retains kept) :=
  every_connect .refl (fun _ => retains_beginConnect) (fun _ _ => retains_restoreSession unbound)
    (fun c _ => .refl c) (fun _ => retains_prepare unbound) (fun _ _ => retains_failOpen)
    fun _ _ => retains_adopt unbound

theorem retains_disconnect : (disconnect i).Every (Retains kept) :=
  every_disconnect (fun _ => retains_beginDisconnect) (fun _ => .present fun _ => ⟨rfl, rfl⟩)
    fun _ _ _ => retains_failDisconnect

theorem retains_destroy : (destroy i).Every (Retains kept) :=
  every_destroy (fun _ => retains_beginDestroy) fun _ _ => retains_finishDestroy

theorem retains_publish (unlogged : ¬ kept .log) {d : Draft} {audience : Audience} :
    (publish i d audience).Every (Retains kept) :=
  every_publish (fun _ => retains_beginPublish) (fun _ _ => .report _ _) fun _ =>
    retains_finishPublish unlogged

theorem retains_subscribe {filters : List FilterRequest} {audience : Audience} :
    (subscribe i filters audience).Every (Retains kept) :=
  every_subscribe (fun _ => retains_beginRequest) (fun _ _ => .report _ _) fun _ _ => retains_mark

theorem retains_unsubscribe {filters : List String} {audience : Audience} :
    (unsubscribe i filters audience).Every (Retains kept) :=
  every_unsubscribe (fun _ => retains_beginRequest) (fun _ _ => .report _ _) fun _ _ =>
    retains_mark

def Call.Touches : Connection.Call → Aspect → Prop
  | connect _ _, .terms => True
  | publish _ _, .log => True
  | clear, .log => True
  | read, .log => True
  | _, _ => False

theorem Call.retains (call : Connection.Call) (untouched : ∀ a, kept a → ¬ call.Touches a) :
    (call.program i).Every (Retains kept) := by
  have unlogged (touches : call.Touches .log) : ¬ kept .log := fun k => untouched _ k touches
  cases call with
  | connect => exact retains_connect fun bound => untouched _ bound trivial
  | disconnect => exact retains_disconnect
  | destroy => exact retains_destroy
  | publish => exact retains_publish (unlogged trivial)
  | subscribe => exact retains_subscribe
  | unsubscribe => exact retains_unsubscribe
  | clear | read => exact every_change fun _ => .present_log (unlogged trivial)
  | setRenderMode => exact every_change fun _ => .present fun _ => ⟨rfl, rfl⟩
  | forget => exact every_change fun _ => retains_forget

/-- A message comes to the log. -/
theorem retains_react {event : TransportEvent}
    (unlogged : ∀ packet, event = .message packet → ¬ kept .log) :
    (react i session event).Every (Retains kept) := by
  cases event with
  | connected =>
      refine every_atomically_bind (fun _ => retains_acceptConnected) ?_
      rintro (_ | ⟨filter, rest⟩)
      · trivial
      · exact every_ask_bind fun _ => trivial
  | reconnecting =>
      refine every_atomically_bind (fun _ => retains_countAttempt) ?_
      rintro (_ | _)
      · trivial
      · refine every_bind retains_disconnect ?_
        rintro (error | _)
        · trivial
        · exact every_change fun _ => .present fun _ => ⟨rfl, rfl⟩
  | error reason => exact every_change fun _ => retains_onError
  | close reason => exact every_change fun _ => retains_onClose
  | message packet => exact every_change fun _ => retains_onMessage (unlogged packet rfl)
  | ended => exact every_change fun _ => retains_onEnded

end Connection

namespace Console

variable {kept : Aspect → Prop} {c : Console} {id : ConnectionId}

theorem retains_ensure (p : Profile) (c : Console) : c.Retains kept (c.ensure p).2 := by
  cases used : c.current? p.id with
  | some i =>
      rw [ensure, used]
      exact .refl c
  | none =>
      have others := current?_ensure c p
      have made : (c.ensure p).1 = c.connections.length := by rw [ensure, used]
      have listed : (c.ensure p).2.connections = c.connections ++ [.ofProfile p] := by
        rw [ensure, used]
      have last : (c.ensure p).2.connection c.connections.length = .ofProfile p := by
        simp [connection, listed]
      constructor
      case settings | focus => simp [desk, ensure, used]
      case length => simp [desk, listed]
      case old =>
        intro j hj
        change (c.connection j).Resembles kept ((c.ensure p).2.connection j)
        have same : (c.ensure p).2.connection j = c.connection j := by
          have inside : j < c.connections.length := hj
          simp [connection, listed, List.getElem?_append_left inside]
        rw [same]
        exact .refl _
      case new =>
        intro j beyond
        change (kept .log → ((c.ensure p).2.connection j).tally = _) ∧
          (kept .terms → ((c.ensure p).2.connection j).session = _)
        replace beyond : c.connections.length ≤ j := beyond
        rcases Nat.eq_or_lt_of_le beyond with rfl | beyond
        · rw [last]
          exact ⟨fun _ => rfl, fun _ => rfl⟩
        · have outside : (c.ensure p).2.connections.length ≤ j := by
            rw [listed, List.length_append]
            exact beyond
          rw [connection_of_le outside]
          exact ⟨fun _ => rfl, fun _ => rfl⟩
      case current =>
        intro id i found
        replace found := (others id).symm.trans found
        rcases Option.or_eq_some_iff.1 found with before | ⟨-, new⟩
        · exact Or.inl before
        · -- The new connection has the id of its profile.
          obtain ⟨rfl, rfl⟩ := Option.ite_some_none_eq_some.1 new
          rw [made]
          exact Or.inr ⟨Nat.le_refl _, by simp [desk, listed], congrArg Connection.id last⟩

theorem current?_retire (c : Console) (id other : ConnectionId) :
    (c.retire id).current? other = if other = id then none else c.current? other := by
  unfold current? retire
  induction c.current with
  | nil => simp
  | cons entry rest ih =>
      by_cases dropped : entry.1 = id
      · -- What is looked up after that is another id.
        rw [List.filter_cons_of_neg (by simpa using dropped), ih]
        split
        · rfl
        · next differs =>
            have another : (other == entry.1) = false := by simpa [dropped] using differs
            rw [List.lookup_cons, another]
      · rw [List.filter_cons_of_pos (by simpa using dropped), List.lookup_cons, List.lookup_cons, ih]
        split
        · next found =>
            obtain rfl : other = entry.1 := by simpa using found
            rw [if_neg dropped]
        · rfl

theorem retains_retire : c.Retains kept (c.retire id) where
  settings := rfl
  focus _ := rfl
  length := Nat.le_refl _
  old _ _ := .refl _
  new j beyond := Desk.Retains.new (Retains.refl c) j beyond
  current other i found := by
    have kept := (current?_retire c id other).symm.trans found
    rcases Option.ite_none_left_eq_some.1 kept with ⟨-, used⟩
    exact Or.inl used

theorem retains_configure (p : Profile) (c : Console) : c.Retains kept (c.configure p) := by
  unfold configure
  split
  · exact .update ⟨rfl, fun _ => rfl, fun _ => Or.inr ⟨rfl, rfl⟩⟩
  · exact .refl c

theorem retains_changeProfile {change : Profile → Profile} :
    c.Retains kept (changeProfile id change c).2 := by
  unfold changeProfile
  split <;> exact .refl c

theorem retains_dropProfile : c.Retains kept (dropProfile id c).2 := by
  unfold dropProfile
  split <;> exact .refl c

theorem retains_setFocus (unfocused : ¬ kept .focus) (focus : Option ConnectionId) :
    c.Retains kept (c.setFocus focus) where
  settings := rfl
  focus k := absurd k unfocused
  length := Nat.le_refl _
  old _ _ := .refl _
  new j beyond := Desk.Retains.new (Retains.refl c) j beyond
  current _ _ used := Or.inl used

theorem retains_getOrCreate {p : Option Profile} : (getOrCreate id p).Every (Retains kept) :=
  every_getOrCreate .refl retains_ensure

theorem retains_modifyProfile {change : Profile → Profile} :
    (modifyProfile id change).Every (Retains kept) :=
  every_modifyProfile (fun _ => retains_changeProfile) retains_configure

theorem retains_destroy : (destroy id).Every (Retains kept) :=
  every_destroy (fun _ => retains_retire) fun _ => Connection.retains_destroy

theorem retains_subscribe {fresh : Nat → String} {filters : List FilterRequest}
    {audience : Audience} : (subscribe id fresh filters audience).Every (Retains kept) :=
  every_subscribe .refl retains_ensure (fun _ => Connection.retains_subscribe) fun _ =>
    retains_modifyProfile

theorem retains_connect (unbound : ¬ kept .terms) {token : Option String} :
    (connect id token).Every (Retains kept) := by
  refine every_look_bind .refl ?_
  rintro (_ | _)
  · refine every_look_bind .refl ?_
    rintro (_ | p)
    · trivial
    · exact every_withConnection .refl retains_ensure fun _ => Connection.retains_connect unbound
  · trivial

theorem retains_publish (unlogged : ¬ kept .log) {d : Connection.Draft} {audience : Audience} :
    (publish id d audience).Every (Retains kept) := by
  refine every_withConnection .refl retains_ensure fun i => ?_
  refine every_bind (Connection.retains_publish unlogged) ?_
  rintro (error | _)
  · trivial
  · exact retains_modifyProfile

def Call.Touches : Console.Call → Aspect → Prop
  | .connect _ _, .terms => True
  | .publish _ _ _, .log => True
  | .clear _, .log => True
  | .select _, .log => True
  | .select _, .focus => True
  | .remove _, .log => True
  | .remove _, .focus => True
  | _, _ => False

theorem Call.retains (call : Console.Call) (untouched : ∀ a, kept a → ¬ call.Touches a) :
    call.program.Every (Retains kept) := by
  have out {a : Aspect} (touches : call.Touches a) : ¬ kept a := fun k => untouched a k touches
  have told : ∀ (c : Console) level text, c.Retains kept (c.notify level text) :=
    fun c _ _ => .refl c
  have shown (unlogged : ¬ kept .log) (unfocused : ¬ kept .focus) : ∀ first i (c : Console),
      c.Retains kept (Connection.read i (c.setFocus first)) :=
    fun first _ _ => (retains_setFocus unfocused first).trans (.present_log unlogged)
  cases call with
  | getOrCreate id p => exact retains_getOrCreate
  | destroy id => exact retains_destroy
  | add id fresh p => exact every_addProfile .refl (fun _ c => .refl c) retains_ensure
  | update p => exact retains_modifyProfile
  | remove id =>
      exact every_removeProfile .refl retains_ensure (fun _ => retains_dropProfile)
        (fun _ => retains_setFocus (out trivial) none)
        (fun _ => shown (out trivial) (out trivial) _) retains_destroy
  | select id => exact every_select .refl retains_ensure (shown (out trivial) (out trivial) _)
  | connect id token => exact retains_connect (out trivial)
  | disconnect id =>
      exact every_disconnect .refl retains_ensure fun _ => Connection.retains_disconnect
  | publish id d audience => exact retains_publish (out trivial)
  | subscribe id fresh filters audience => exact retains_subscribe
  | unsubscribe id filters audience =>
      exact every_withConnection .refl retains_ensure fun _ => Connection.retains_unsubscribe
  | subscribeAll id fresh =>
      exact every_subscribeAll .refl retains_ensure told fun _ => retains_subscribe
  | unsubscribeAll id =>
      exact every_unsubscribeAll .refl retains_ensure told fun _ _ =>
        Connection.retains_unsubscribe
  | clear id => exact every_locally .refl retains_ensure fun _ _ => .present_log (out trivial)
  | setRenderMode id mode =>
      exact every_locally .refl retains_ensure fun _ _ => .present fun _ => ⟨rfl, rfl⟩
  | forget id filter =>
      exact every_locally .refl retains_ensure fun _ _ => Connection.retains_forget

/-! ## Finding a connection -/

/-- A call that needs a connection finds one and changes nothing else until then, unless there is no
profile for it. -/
theorem withConnection_retains {α : Type} {act : ConnectionRef → Operation (Result α)}
    {a : Result α} {s s' : Scene} (h : (withConnection id act).Runs s a s') :
    (a = .error (.connectionNotFound id) ∧ s.console.profile? id = none ∧
      s.console.current? id = none ∧ s' = s) ∨
    ∃ i middle, Finds s id i middle ∧ (∀ kept, s.console.Retains kept middle.console) ∧
      middle.exchanges = s.exchanges ∧ (act i).Runs middle a s' := by
  rcases withConnection_cases h with absent | ⟨i, middle, found, finds, h⟩
  · exact Or.inl absent
  · exact Or.inr ⟨i, middle, finds, fun _ => retains_getOrCreate.runs found .refl .trans,
      silent_getOrCreate.exchanges found, h⟩

end Console

/-! ## The beginning -/

theorem Console.retains_addAll {kept : Aspect → Prop} (c : Console) (profiles : List Profile) :
    c.Retains kept (c.addAll profiles) := by
  induction profiles generalizing c with
  | nil => exact .refl c
  | cons p rest ih => exact ((retains_ensure p c).trans (retains_configure p _)).trans (ih _)

/-- A new console comes from one without connections. -/
theorem Scene.retains_start (settings : Settings) (catalog : Catalog) (storage : ProfileStorage)
    (fresh : Nat → ConnectionId) (clock : Int) :
    ∃ empty : Console, empty.settings = settings ∧ empty.connections = [] ∧ empty.current = [] ∧
      ∀ kept, empty.Retains kept (Scene.start settings catalog storage fresh clock).console := by
  let profiles := storage.load fresh
  exact ⟨⟨settings, catalog, profiles, [], [], [], false, profiles.head?.map (·.id), storage, [],
    .ofCapacity settings.eventCapacity, clock⟩, rfl, rfl, rfl, fun _ =>
      Console.retains_addAll _ profiles⟩

/-! ## Steps -/

def Label.Touches : Label → Aspect → Prop
  | .call asked _, a => asked.Touches a
  | .direct _ asked _, a => asked.Touches a
  | .event _ _ (.message _), .log => True
  | _, _ => False

/-- A step leaves the aspects alone that it does not touch. -/
theorem Step.retains {s s' : Scene} {label : Label} (step : Step s label s') :
    s.console.Retains (fun a => ¬ label.Touches a) s'.console := by
  cases step with
  | @call call _ _ _ run => exact (call.retains fun _ out => out).runs run .refl .trans
  | @direct i call _ _ _ _ run => exact (call.retains fun _ out => out).runs run .refl .trans
  | @event i session event _ _ _ _ run =>
      refine (Connection.retains_react ?_).runs run .refl .trans
      rintro packet rfl out
      exact out trivial
  | outside change => cases change <;> exact .refl s.console

end DeviceConsole
