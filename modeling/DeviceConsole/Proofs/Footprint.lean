import DeviceConsole.Proofs.Overlap.Traffic

/-!
# What an operation may do to a console

Some facts need no more of an operation than that each of its steps is harmless.  This file defines:

* `Operation.Every allowed p`: whatever the consoles between its steps and the replies, each step of
  `p` is an allowed one;
* `Connection.takeOver` and `Connection.abandon`, the last parts of a connect;
* `Connection.every_*` and `Console.every_*`, which take the operations of a connection, and those
  of a console, apart once and for all: they only take allowed steps if the small changes that they
  are made of are allowed.
-/

namespace DeviceConsole

namespace Operation

variable {α β : Type} {allowed : Console → Console → Prop}

/-- Whether each step of an operation is allowed, from whatever console it is taken. -/
def Every (allowed : Console → Console → Prop) : Operation α → Prop
  | .done _ => True
  | .step change next => ∀ c, allowed c (change c) ∧ Every allowed (next c)
  | .request _ next => ∀ reply, Every allowed (next reply)

theorem every_bind {p : Operation α} {f : α → Operation β} (first : p.Every allowed)
    (rest : ∀ a, (f a).Every allowed) : Every allowed (p.bind f) := by
  induction p with
  | done a => exact rest a
  | step change next ih =>
      intro c
      exact ⟨(first c).1, ih c (first c).2⟩
  | request r next ih =>
      intro reply
      exact ih reply (first reply)

theorem every_look_bind {view : Console → α} {f : α → Operation β} (still : ∀ c, allowed c c)
    (rest : ∀ a, (f a).Every allowed) : Every allowed ((Program.look view).bind f) := by
  intro c
  exact ⟨still c, rest (view c)⟩

theorem every_change {update : Console → Console} (h : ∀ c, allowed c (update c)) :
    Every allowed (Program.change update) := by
  intro c
  exact ⟨h c, trivial⟩

theorem every_change_bind {update : Console → Console} {f : Unit → Operation β}
    (h : ∀ c, allowed c (update c)) (rest : (f ()).Every allowed) :
    Every allowed ((Program.change update).bind f) := by
  intro c
  exact ⟨h c, rest⟩

theorem every_atomically_bind {act : Console → α × Console} {f : α → Operation β}
    (h : ∀ c, allowed c (act c).2) (rest : ∀ a, (f a).Every allowed) :
    Every allowed ((Program.atomically act).bind f) := by
  intro c
  exact ⟨h c, rest _⟩

theorem every_ask_bind {r : Request} {f : r.Reply → Operation β}
    (rest : ∀ reply, (f reply).Every allowed) : Every allowed ((Operation.ask r).bind f) := rest

theorem Every.mono {p : Operation α} {wider : Console → Console → Prop} (h : p.Every allowed)
    (implies : ∀ c c', allowed c c' → wider c c') : p.Every wider := by
  induction p with
  | done a => trivial
  | step change next ih =>
      intro c
      exact ⟨implies _ _ (h c).1, ih c (h c).2⟩
  | request r next ih =>
      intro reply
      exact ih reply (h reply)

/-- What each step does, all steps up to the next request do together. -/
theorem Every.settle {p : Operation α} (h : p.Every allowed) (still : ∀ c, allowed c c)
    (trans : ∀ {a b c}, allowed a b → allowed b c → allowed a c) (c : Console) :
    allowed c (p.settle c).2 ∧ Every allowed (p.settle c).1 := by
  induction p generalizing c with
  | done a => exact ⟨still c, trivial⟩
  | step change next ih =>
      have step := h c
      have later := ih c step.2 (change c)
      exact ⟨trans step.1 later.1, later.2⟩
  | request r next ih => exact ⟨still c, h⟩

/-- After a first step, what is left up to the next request can be told from what comes then. -/
theorem every_settle_atomically_bind {act : Console → α × Console} {f : α → Operation β}
    (rest : ∀ a, (f a).Every allowed) (still : ∀ c, allowed c c)
    (trans : ∀ {a b c}, allowed a b → allowed b c → allowed a c) (c : Console) :
    Every allowed (settle ((Program.atomically act).bind f) c).1 :=
  ((rest _).settle still trans _).2

/-- What each step does, a complete run does. -/
theorem Every.runs {p : Operation α} {s s' : Scene} {a : α} (h : p.Every allowed)
    (run : p.Runs s a s') (still : ∀ c, allowed c c)
    (trans : ∀ {a b c}, allowed a b → allowed b c → allowed a c) :
    allowed s.console s'.console := by
  induction run with
  | done a s => exact still s.console
  | @step change next s s' a rest ih =>
      have step := h s.console
      exact trans step.1 (ih step.2)
  | @request r next s s' reply a permitted rest ih => exact ih (h reply)

end Operation

/-! ## The operations of a connection -/

namespace Connection

open Operation

variable {i : ConnectionRef} {allowed : Console → Console → Prop}

theorem every_closePrevious {previous : Option SessionId} {replaced : Option ThingScope}
    (still : ∀ c, allowed c c) (restored : ∀ session c, allowed c (restoreSession i session c))
    (told : ∀ c scope, allowed c (c.raise scope (c.connection i).id .disconnected)) :
    (closePrevious i previous replaced).Every allowed := by
  cases previous with
  | none => trivial
  | some session =>
      refine every_ask_bind fun reply => ?_
      cases reply with
      | error error => exact every_change_bind (restored session) trivial
      | ok _ =>
          refine every_change_bind (fun c => ?_) trivial
          cases replaced with
          | none => exact still c
          | some scope => exact told c scope

/-- The end of a connect whose connection was destroyed while the session was opened. -/
def abandon (session : SessionId) : Operation (Except ConsoleError Bool) :=
  (Operation.ask (.close session)).bind fun _ => .done (.error .destroyed)

/-- The part of a connect that asks for a session and takes it over. -/
def takeOver (i : ConnectionRef) (options : ClientOptions) :
    Operation (Except ConsoleError Bool) := do
  match ← Operation.ask (.open options) with
  | .error error =>
    Program.change (failOpen i error)
    return .error (.transport error)
  | .ok session =>
    if ← Program.atomically (adopt i session) then return .ok true
    else abandon session

theorem openSession_eq (p : Profile) (token : Option String) :
    openSession i p token = (Program.atomically (prepare i p token)).bind (takeOver i) := rfl

theorem every_takeOver {options : ClientOptions}
    (failed : ∀ error c, allowed c (failOpen i error c))
    (adopted : ∀ session c, allowed c (adopt i session c).2) :
    (takeOver i options).Every allowed := by
  refine every_ask_bind fun reply => ?_
  cases reply with
  | error error => exact every_change_bind (failed error) trivial
  | ok session =>
      refine every_atomically_bind (adopted session) ?_
      rintro (_ | _)
      · exact every_ask_bind fun _ => trivial
      · trivial

theorem every_connect {p : Profile} {token : Option String} (still : ∀ c, allowed c c)
    (begun : ∀ c, allowed c (beginConnect i c).2)
    (restored : ∀ session c, allowed c (restoreSession i session c))
    (told : ∀ c scope, allowed c (c.raise scope (c.connection i).id .disconnected))
    (prepared : ∀ c, allowed c (prepare i p token c).2)
    (failed : ∀ error c, allowed c (failOpen i error c))
    (adopted : ∀ session c, allowed c (adopt i session c).2) :
    (connect i p token).Every allowed := by
  have opening : (openSession i p token).Every allowed := by
    rw [openSession_eq]
    exact every_atomically_bind prepared fun options => every_takeOver failed adopted
  refine every_atomically_bind begun ?_
  rintro (_ | _ | ⟨previous, replaced⟩)
  · trivial
  · trivial
  · refine every_bind (every_closePrevious still restored told) ?_
    rintro (error | _)
    · trivial
    · exact opening

theorem every_destroy (begun : ∀ c, allowed c (beginDestroy i c).2)
    (finished : ∀ previous c, allowed c (finishDestroy i previous c)) :
    (destroy i).Every allowed := by
  refine every_atomically_bind begun ?_
  rintro (_ | ⟨_ | session, previous⟩)
  · trivial
  · exact every_change (finished previous)
  · exact every_ask_bind fun _ => every_change (finished previous)

theorem every_publish {d : Draft} {audience : Audience}
    (begun : ∀ c, allowed c (beginPublish i d audience c).2)
    (reported : ∀ (c : Console) text, allowed c (c.report audience text))
    (finished : ∀ c, allowed c (finishPublish i d c)) :
    (publish i d audience).Every allowed := by
  refine every_atomically_bind begun ?_
  rintro (error | ⟨session, payload⟩)
  · trivial
  · refine every_ask_bind fun reply => ?_
    cases reply with
    | error error => exact every_change_bind (reported · _) trivial
    | ok _ => exact every_change_bind finished trivial

theorem every_disconnect (begun : ∀ c, allowed c (beginDisconnect i c).2)
    (closed : ∀ c : Console, allowed c
      (c.present i fun s => { s with retryCount := 0, live := .empty }))
    (failed : ∀ previous error c, allowed c (failDisconnect i previous error c)) :
    (disconnect i).Every allowed := by
  refine every_atomically_bind begun ?_
  rintro (_ | ⟨session, previous⟩)
  · trivial
  · refine every_ask_bind fun reply => ?_
    cases reply with
    | ok _ => exact every_change_bind closed trivial
    | error error => exact every_change_bind (failed previous error) trivial

theorem every_subscribe {filters : List FilterRequest} {audience : Audience}
    (begun : ∀ c, allowed c (beginRequest i filters.length c).2)
    (reported : ∀ (c : Console) text, allowed c (c.report audience text))
    (granted : ∀ (c : Console) text, allowed c
      ((c.present i (Snapshot.mark true (filters.map (·.1)))).confirm audience text)) :
    (subscribe i filters audience).Every allowed := by
  refine every_atomically_bind begun ?_
  rintro (error | session)
  · trivial
  · refine every_ask_bind fun reply => ?_
    cases reply with
    | error error => exact every_change_bind (reported · _) trivial
    | ok codes =>
        dsimp only
        split
        · exact every_change_bind (granted · _) trivial
        · exact every_change_bind (reported · _) trivial

theorem every_unsubscribe {filters : List String} {audience : Audience}
    (begun : ∀ c, allowed c (beginRequest i filters.length c).2)
    (reported : ∀ (c : Console) text, allowed c (c.report audience text))
    (revoked : ∀ (c : Console) text, allowed c
      ((c.present i (Snapshot.mark false filters)).confirm audience text)) :
    (unsubscribe i filters audience).Every allowed := by
  refine every_atomically_bind begun ?_
  rintro (error | session)
  · trivial
  · refine every_ask_bind fun reply => ?_
    cases reply with
    | error error => exact every_change_bind (reported · _) trivial
    | ok _ => exact every_change_bind (revoked · _) trivial

theorem every_react {session : SessionId} {event : TransportEvent}
    (accepted : ∀ c, allowed c (acceptConnected i session c).2)
    (counted : ∀ c, allowed c (countAttempt i session c).2)
    (closing : (disconnect i).Every allowed)
    (reset : ∀ c : Console, allowed c (c.present i fun s => { s with retryCount := 0 }))
    (erred : ∀ reason c, allowed c (onError i session reason c))
    (closed : ∀ reason c, allowed c (onClose i session reason c))
    (received : ∀ packet c, allowed c (onMessage i session packet c))
    (ended : event = .ended → ∀ c, allowed c (onEnded i session c)) :
    (react i session event).Every allowed := by
  cases event with
  | connected =>
      refine every_atomically_bind accepted ?_
      rintro (_ | ⟨filter, rest⟩)
      · trivial
      · exact every_ask_bind fun _ => trivial
  | reconnecting =>
      refine every_atomically_bind counted ?_
      rintro (_ | _)
      · trivial
      · refine every_bind closing ?_
        rintro (error | _)
        · trivial
        · exact every_change reset
  | error reason => exact every_change (erred reason)
  | close reason => exact every_change (closed reason)
  | message packet => exact every_change (received packet)
  | ended => exact every_change (ended rfl)

end Connection

/-! ## The operations of a console -/

namespace Console

open Operation

variable {α : Type} {id : ConnectionId} {allowed : Console → Console → Prop}

theorem every_getOrCreate {p : Option Profile} (still : ∀ c, allowed c c)
    (ensured : ∀ p c, allowed c (c.ensure p).2) : (getOrCreate id p).Every allowed := by
  refine every_look_bind still ?_
  rintro (_ | i)
  · cases p with
    | none => trivial
    | some p => exact every_atomically_bind (ensured _) fun _ => trivial
  · trivial

theorem every_withConnection {act : ConnectionRef → Operation (Result α)}
    (still : ∀ c, allowed c c) (ensured : ∀ p c, allowed c (c.ensure p).2)
    (acts : ∀ i, (act i).Every allowed) : (withConnection id act).Every allowed := by
  refine every_bind (every_look_bind still fun _ => every_getOrCreate still ensured) ?_
  rintro (_ | i)
  · trivial
  · exact acts i

theorem every_locally {change : ConnectionRef → Console → Console} (still : ∀ c, allowed c c)
    (ensured : ∀ p c, allowed c (c.ensure p).2) (changed : ∀ i c, allowed c (change i c)) :
    (locally id change).Every allowed :=
  every_withConnection still ensured fun i => every_change_bind (changed i) trivial

theorem every_destroy (retired : ∀ c, allowed c (c.retire id))
    (destroyed : ∀ i, (Connection.destroy i).Every allowed) : (destroy id).Every allowed := by
  refine every_atomically_bind retired ?_
  rintro (_ | i)
  · trivial
  · exact every_bind (destroyed i) fun _ => trivial

theorem every_modifyProfile {change : Profile → Profile}
    (changed : ∀ c, allowed c (changeProfile id change c).2)
    (configured : ∀ p c, allowed c (c.configure p)) :
    (modifyProfile id change).Every allowed := by
  refine every_atomically_bind changed ?_
  rintro (_ | ⟨p, saved⟩)
  · trivial
  · exact every_change_bind (configured p) trivial

theorem every_addProfile {fresh : Nat → String} {p : Profile} (still : ∀ c, allowed c c)
    (saved : ∀ profiles c, allowed c (c.saveProfiles profiles).2)
    (ensured : ∀ p c, allowed c (c.ensure p).2) : (addProfile id fresh p).Every allowed :=
  every_atomically_bind (fun c => saved _ c) fun _ =>
    every_bind (every_getOrCreate still ensured) fun _ => trivial

theorem every_select (still : ∀ c, allowed c c) (ensured : ∀ p c, allowed c (c.ensure p).2)
    (shown : ∀ i c, allowed c (Connection.read i (c.setFocus (some id)))) :
    (select id).Every allowed :=
  every_withConnection still ensured fun i => every_change_bind (shown i) trivial

theorem every_removeProfile (still : ∀ c, allowed c c)
    (ensured : ∀ p c, allowed c (c.ensure p).2) (dropped : ∀ c, allowed c (dropProfile id c).2)
    (moved : ∀ c : Console, allowed c (c.setFocus none))
    (shown : ∀ first i c, allowed c (Connection.read i (c.setFocus (some first))))
    (destroyed : (destroy id).Every allowed) : (removeProfile id).Every allowed := by
  refine every_atomically_bind dropped ?_
  rintro (_ | ⟨_ | first, saved⟩)
  · trivial
  · refine every_bind (every_change_bind moved trivial) ?_
    rintro (error | _)
    · trivial
    · exact every_bind destroyed fun _ => trivial
  · refine every_bind (every_select still ensured (shown first)) ?_
    rintro (error | _)
    · trivial
    · exact every_bind destroyed fun _ => trivial

theorem every_disconnect (still : ∀ c, allowed c c) (ensured : ∀ p c, allowed c (c.ensure p).2)
    (closed : ∀ i, (Connection.disconnect i).Every allowed) : (disconnect id).Every allowed := by
  refine every_look_bind still fun held => ?_
  split
  · trivial
  · refine every_withConnection still ensured fun i => every_bind (closed i) ?_
    rintro (error | _) <;> trivial

theorem every_subscribe {fresh : Nat → String} {filters : List FilterRequest} {audience : Audience}
    (still : ∀ c, allowed c c) (ensured : ∀ p c, allowed c (c.ensure p).2)
    (subscribed : ∀ i, (Connection.subscribe i filters audience).Every allowed)
    (modified : ∀ change, (modifyProfile id change).Every allowed) :
    (subscribe id fresh filters audience).Every allowed := by
  refine every_withConnection still ensured fun i => every_bind (subscribed i) ?_
  rintro (error | _)
  · trivial
  · exact every_look_bind still fun _ => modified _

theorem every_reportAll {success failure : String} {result : Result Unit}
    (still : ∀ c, allowed c c)
    (told : ∀ (c : Console) level text, allowed c (c.notify level text)) :
    (reportAll success failure result).Every allowed := by
  cases result with
  | ok _ => exact every_change_bind (fun c => told c _ _) trivial
  | error error =>
      refine every_change_bind (fun c => ?_) trivial
      split
      · exact still c
      · exact told c _ _

theorem every_subscribeAll {fresh : Nat → String} (still : ∀ c, allowed c c)
    (ensured : ∀ p c, allowed c (c.ensure p).2)
    (told : ∀ (c : Console) level text, allowed c (c.notify level text))
    (subscribed : ∀ filters, (subscribe id fresh filters .caller).Every allowed) :
    (subscribeAll id fresh).Every allowed := by
  refine every_withConnection still ensured fun i => every_look_bind still ?_
  rintro (_ | p)
  · trivial
  · refine every_look_bind still fun shown => ?_
    dsimp only
    split
    · exact every_change_bind (fun c => told c _ _) trivial
    · exact every_bind (subscribed _) fun _ => every_reportAll still told

theorem every_unsubscribeAll (still : ∀ c, allowed c c)
    (ensured : ∀ p c, allowed c (c.ensure p).2)
    (told : ∀ (c : Console) level text, allowed c (c.notify level text))
    (unsubscribed : ∀ i filters, (Connection.unsubscribe i filters .caller).Every allowed) :
    (unsubscribeAll id).Every allowed := by
  refine every_withConnection still ensured fun i => every_look_bind still fun filters => ?_
  split
  · exact every_change_bind (fun c => told c _ _) trivial
  · exact every_bind (unsubscribed i _) fun _ => every_reportAll still told

end Console

end DeviceConsole
