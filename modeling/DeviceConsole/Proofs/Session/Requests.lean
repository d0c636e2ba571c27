import DeviceConsole.Proofs.Overlap.Traffic
import DeviceConsole.Proofs.Session.Delegation

/-!
# What reaches a transport

Which requests an operation can make is told by the operation alone.  This file proves:

* `Connection.asks_*` and `Console.asks_*`, which take the operations of a connection, and those of
  a console, apart once and for all: they only ask for allowed things if the few kinds of requests
  that they are made of are allowed;
* `Run.asks` and `Traffic.Run.asks`, that nothing but allowed things is asked for in any run,
  however its calls overlap.
-/

namespace DeviceConsole

open Operation

namespace Operation

variable {α : Type} {p : Operation α} {allowed wider : Request → Prop}

theorem Asks.mono (h : p.Asks allowed) (implies : ∀ r, allowed r → wider r) : p.Asks wider := by
  induction p with
  | done a => trivial
  | step change next ih => exact fun c => ih c (h c)
  | request r next ih => exact ⟨implies r h.1, fun reply => ih reply (h.2 reply)⟩

theorem Silent.asks (h : p.Silent) : p.Asks allowed := h.mono fun _ => False.elim

theorem asks_change {update : Console → Console} : Asks allowed (Program.change update) :=
  fun _ => trivial

/-- What comes after a first step may be told from what this step looks at. -/
theorem asks_atomically_bind_of {β : Type} {act : Console → α × Console} {f : α → Operation β}
    (rest : ∀ c, (f (act c).1).Asks allowed) : Asks allowed ((Program.atomically act).bind f) :=
  rest

end Operation

/-! ## The operations of a connection -/

namespace Connection

variable {i : ConnectionRef} {allowed : Request → Prop}

theorem asks_closePrevious {previous : Option SessionId} {replaced : Option ThingScope}
    (closes : ∀ session, allowed (.close session)) :
    (closePrevious i previous replaced).Asks allowed := by
  cases previous with
  | none => trivial
  | some session =>
      refine asks_ask_bind (closes session) fun reply => ?_
      cases reply with
      | error error => exact asks_change_bind trivial
      | ok _ => exact asks_change_bind trivial

theorem asks_connect {p : Profile} {token : Option String}
    (opens : ∀ options, allowed (.open options)) (closes : ∀ session, allowed (.close session)) :
    (connect i p token).Asks allowed := by
  refine asks_atomically_bind ?_
  rintro (_ | _ | ⟨previous, replaced⟩)
  · trivial
  · trivial
  · refine asks_bind (asks_closePrevious closes) ?_
    rintro (error | _)
    · trivial
    · refine asks_atomically_bind fun options => asks_ask_bind (opens options) fun reply => ?_
      cases reply with
      | error error => exact asks_change_bind trivial
      | ok session =>
          refine asks_atomically_bind ?_
          rintro (_ | _)
          · exact asks_ask_bind (closes session) fun _ => trivial
          · trivial

theorem asks_disconnect (closes : ∀ session, allowed (.close session)) :
    (disconnect i).Asks allowed := by
  refine asks_atomically_bind ?_
  rintro (_ | ⟨session, previous⟩)
  · trivial
  · refine asks_ask_bind (closes session) fun reply => ?_
    cases reply with
    | ok _ => exact asks_change_bind trivial
    | error error => exact asks_change_bind trivial

theorem asks_destroy (closes : ∀ session, allowed (.close session)) :
    (destroy i).Asks allowed := by
  refine asks_atomically_bind ?_
  rintro (_ | ⟨_ | session, previous⟩)
  · trivial
  · exact asks_change
  · exact asks_ask_bind (closes session) fun _ => asks_change

/-- A publish sends no more than what passed its checks. -/
theorem asks_publish {d : Draft} {audience : Audience}
    (publishes : ∀ c session payload, (beginPublish i d audience c).1 = .ok (session, payload) →
      allowed (.publish session d.topic payload d.options.stripped)) :
    (publish i d audience).Asks allowed := by
  refine asks_atomically_bind_of fun c => ?_
  cases begun : (beginPublish i d audience c).1 with
  | error error => trivial
  | ok found =>
      refine asks_ask_bind (publishes c _ _ begun) fun reply => ?_
      cases reply with
      | error error => exact asks_change_bind trivial
      | ok _ => exact asks_change_bind trivial

theorem asks_subscribe {filters : List FilterRequest} {audience : Audience}
    (subscribes : ∀ session filters, allowed (.subscribe session filters)) :
    (subscribe i filters audience).Asks allowed := by
  refine asks_atomically_bind ?_
  rintro (error | session)
  · trivial
  · refine asks_ask_bind (subscribes session filters) fun reply => ?_
    cases reply with
    | error error => exact asks_change_bind trivial
    | ok codes =>
        dsimp only
        split
        · exact asks_change_bind trivial
        · exact asks_change_bind trivial

theorem asks_unsubscribe {filters : List String} {audience : Audience}
    (unsubscribes : ∀ session filters, allowed (.unsubscribe session filters)) :
    (unsubscribe i filters audience).Asks allowed := by
  refine asks_atomically_bind ?_
  rintro (error | session)
  · trivial
  · refine asks_ask_bind (unsubscribes session filters) fun reply => ?_
    cases reply with
    | error error => exact asks_change_bind trivial
    | ok _ => exact asks_change_bind trivial

theorem asks_react {session : SessionId} {event : TransportEvent}
    (closes : ∀ session, allowed (.close session))
    (subscribes : ∀ session filters, allowed (.subscribe session filters)) :
    (react i session event).Asks allowed := by
  cases event with
  | connected =>
      refine asks_atomically_bind ?_
      rintro (_ | ⟨filter, rest⟩)
      · trivial
      · exact asks_ask_bind (subscribes session _) fun _ => trivial
  | reconnecting =>
      refine asks_atomically_bind ?_
      rintro (_ | _)
      · trivial
      · refine asks_bind (asks_disconnect closes) ?_
        rintro (error | _)
        · trivial
        · exact asks_change
  | error | close | message | ended => exact asks_change

end Connection

/-! ## The operations of a console -/

namespace Console

variable {α : Type} {id : ConnectionId} {allowed : Request → Prop}

theorem asks_withConnection {act : ConnectionRef → Operation (Result α)}
    (acts : ∀ i, (act i).Asks allowed) : (withConnection id act).Asks allowed := by
  refine asks_bind (asks_look_bind fun _ => silent_getOrCreate.asks) ?_
  rintro (_ | i)
  · trivial
  · exact acts i

theorem asks_locally {change : ConnectionRef → Console → Console} :
    (locally id change).Asks allowed :=
  asks_withConnection fun _ => asks_change_bind trivial

theorem asks_addProfile {fresh : Nat → String} {p : Profile} :
    (addProfile id fresh p).Asks allowed :=
  asks_atomically_bind fun _ => asks_bind silent_getOrCreate.asks fun _ => trivial

theorem asks_connect {token : Option String} (opens : ∀ options, allowed (.open options))
    (closes : ∀ session, allowed (.close session)) : (connect id token).Asks allowed := by
  refine asks_look_bind ?_
  rintro (_ | _)
  · refine asks_look_bind ?_
    rintro (_ | p)
    · trivial
    · exact asks_withConnection fun i => Connection.asks_connect opens closes
  · trivial

theorem asks_disconnect (closes : ∀ session, allowed (.close session)) :
    (disconnect id).Asks allowed := by
  refine asks_look_bind ?_
  rintro (_ | _)
  · refine asks_withConnection fun i => asks_bind (Connection.asks_disconnect closes) ?_
    rintro (error | _)
    · trivial
    · trivial
  · trivial

theorem asks_destroy (closes : ∀ session, allowed (.close session)) :
    (destroy id).Asks allowed := by
  refine asks_atomically_bind ?_
  rintro (_ | i)
  · trivial
  · exact asks_bind (Connection.asks_destroy closes) fun _ => trivial

theorem asks_removeProfile (closes : ∀ session, allowed (.close session)) :
    (removeProfile id).Asks allowed := by
  refine asks_atomically_bind ?_
  rintro (_ | ⟨_ | first, saved⟩)
  · trivial
  · refine asks_bind (asks_change_bind trivial) ?_
    rintro (error | _)
    · trivial
    · exact asks_bind (asks_destroy closes) fun _ => trivial
  · refine asks_bind silent_select.asks ?_
    rintro (error | _)
    · trivial
    · exact asks_bind (asks_destroy closes) fun _ => trivial

theorem asks_publish {d : Connection.Draft} {audience : Audience}
    (publishes : ∀ i c session payload,
      (Connection.beginPublish i d audience c).1 = .ok (session, payload) →
      allowed (.publish session d.topic payload d.options.stripped)) :
    (publish id d audience).Asks allowed := by
  refine asks_withConnection fun i => asks_bind (Connection.asks_publish (publishes i)) ?_
  rintro (error | _)
  · trivial
  · exact silent_modifyProfile.asks

theorem asks_subscribe {fresh : Nat → String} {filters : List FilterRequest} {audience : Audience}
    (subscribes : ∀ session filters, allowed (.subscribe session filters)) :
    (subscribe id fresh filters audience).Asks allowed := by
  refine asks_withConnection fun i => asks_bind (Connection.asks_subscribe subscribes) ?_
  rintro (error | _)
  · trivial
  · exact asks_look_bind fun _ => silent_modifyProfile.asks

theorem asks_subscribeAll {fresh : Nat → String}
    (subscribes : ∀ session filters, allowed (.subscribe session filters)) :
    (subscribeAll id fresh).Asks allowed := by
  refine asks_withConnection fun i => asks_look_bind ?_
  rintro (_ | p)
  · trivial
  · refine asks_look_bind fun s => ?_
    dsimp only
    split
    · exact asks_change_bind trivial
    · exact asks_bind (asks_subscribe subscribes) fun _ => silent_reportAll.asks

theorem asks_unsubscribeAll
    (unsubscribes : ∀ session filters, allowed (.unsubscribe session filters)) :
    (unsubscribeAll id).Asks allowed := by
  refine asks_withConnection fun i => asks_look_bind fun filters => ?_
  split
  · exact asks_change_bind trivial
  · exact asks_bind (Connection.asks_unsubscribe unsubscribes) fun _ => silent_reportAll.asks

end Console

/-! ## Whatever is called or happens -/

/-- Which requests are allowed, for operations that can do anything else than send messages. -/
structure Request.Admits (allowed : Request → Prop) : Prop where
  opens : ∀ options, allowed (.open options)
  subscribes : ∀ session filters, allowed (.subscribe session filters)
  unsubscribes : ∀ session filters, allowed (.unsubscribe session filters)
  closes : ∀ session, allowed (.close session)
  publishes : ∀ i d audience c session payload,
    (Connection.beginPublish i d audience c).1 = .ok (session, payload) →
      allowed (.publish session d.topic payload d.options.stripped)

namespace Request.Admits

variable {allowed : Request → Prop}

theorem asks_direct (h : Admits allowed) (i : ConnectionRef) (call : Connection.Call) :
    (call.program i).Asks allowed := by
  cases call with
  | connect => exact Connection.asks_connect h.opens h.closes
  | disconnect => exact Connection.asks_disconnect h.closes
  | destroy => exact Connection.asks_destroy h.closes
  | publish d audience => exact Connection.asks_publish (h.publishes i d audience)
  | subscribe => exact Connection.asks_subscribe h.subscribes
  | unsubscribe => exact Connection.asks_unsubscribe h.unsubscribes
  | clear | read | setRenderMode | forget => exact asks_change

theorem asks_call (h : Admits allowed) (call : Console.Call) : call.program.Asks allowed := by
  cases call with
  | getOrCreate => exact Console.silent_getOrCreate.asks
  | destroy => exact Console.asks_destroy h.closes
  | add => exact Console.asks_addProfile
  | update => exact Console.silent_modifyProfile.asks
  | remove => exact Console.asks_removeProfile h.closes
  | select => exact Console.silent_select.asks
  | connect => exact Console.asks_connect h.opens h.closes
  | disconnect => exact Console.asks_disconnect h.closes
  | publish id d audience => exact Console.asks_publish fun i => h.publishes i d audience
  | subscribe => exact Console.asks_subscribe h.subscribes
  | unsubscribe =>
      exact Console.asks_withConnection fun _ => Connection.asks_unsubscribe h.unsubscribes
  | subscribeAll => exact Console.asks_subscribeAll h.subscribes
  | unsubscribeAll => exact Console.asks_unsubscribeAll h.unsubscribes
  | clear | setRenderMode | forget => exact Console.asks_locally

theorem asks (h : Admits allowed) (a : Action) : a.program.Asks allowed := by
  cases a with
  | call c => exact h.asks_call c
  | direct i c => exact h.asks_direct i c
  | event i session event => exact Connection.asks_react h.closes h.subscribes

end Request.Admits

/-! ## Runs -/

/-- What a complete run says to the transport is allowed. -/
theorem Run.asks {allowed : Request → Prop} (admits : Request.Admits allowed) {start s : Scene}
    {transitions : List Transition} (run : Run start transitions s) :
    ∃ said, s.exchanges = start.exchanges ++ said ∧ ∀ e ∈ said, allowed e.request := by
  induction run with
  | start => exact ⟨[], by simp⟩
  | @step transitions s s' label previous step ih =>
      rcases ih with ⟨said, e, each⟩
      have now : ∃ more, s'.exchanges = s.exchanges ++ more ∧ ∀ e ∈ more, allowed e.request := by
        cases step with
        | @call call _ _ _ run => exact (admits.asks_call call).runs run
        | @direct i call _ _ _ hi run => exact (admits.asks_direct i call).runs run
        | @event i session event _ _ member alive run =>
            exact (admits.asks (.event i session event)).runs run
        | outside => exact ⟨[], by simp⟩
      rcases now with ⟨more, e', each'⟩
      refine ⟨said ++ more, by rw [e', e, List.append_assoc], ?_⟩
      intro x member
      rcases List.mem_append.1 member with member | member
      · exact each x member
      · exact each' x member

namespace Operation

variable {α : Type} {p : Operation α} {allowed : Request → Prop}

theorem Asks.settle (h : p.Asks allowed) (c : Console) : (p.settle c).1.Asks allowed := by
  induction p generalizing c with
  | done a => trivial
  | step change next ih => exact ih c (h c) (change c)
  | request r next ih => exact h

theorem Asks.go (h : p.Asks allowed) (pace : Pace) (c : Console) :
    (p.go pace c).1.Asks allowed := by
  cases pace with
  | long => exact h.settle c
  | short =>
      cases p with
      | done a => trivial
      | step change next => exact h c
      | request r next => exact h

theorem Asks.pending (h : p.Asks allowed) {r : Request} (waits : p.pending? = some r) :
    allowed r := by
  cases p with
  | done | step => cases waits
  | request r next =>
      cases waits
      exact h.1

end Operation

/-- Whether a task asked, and can still ask, for allowed things only. -/
structure Task.Asks (allowed : Request → Prop) (t : Task) : Prop where
  requests : ∀ r ∈ t.requests, allowed r
  rest : t.rest.Asks allowed

namespace Traffic

variable {pace : Pace} {T T' : Traffic} {tick : Tick} {allowed : Request → Prop}

theorem Step.asks (admits : Request.Admits allowed) (step : Step pace T tick T')
    (h : ∀ task ∈ T.tasks, task.Asks allowed) : ∀ task ∈ T'.tasks, task.Asks allowed := by
  intro task member
  cases step with
  | @start a enabled =>
      rcases List.mem_append.1 member with member | member
      · exact h task member
      · rw [List.mem_singleton.1 member]
        have rest := (admits.asks a).go pace T.scene.console
        refine ⟨fun r asked => rest.pending ?_, rest⟩
        simpa [Task.requests] using asked
  | @resume k mover change next there left =>
      rcases List.mem_or_eq_of_mem_set member with member | moved
      · exact h task member
      · rw [moved]
        have before := h mover (List.mem_of_getElem? there)
        have rest := before.rest.go pace T.scene.console
        refine ⟨fun r asked => ?_, rest⟩
        rcases List.mem_append.1 asked with said | waits
        · exact before.requests r (List.mem_append_left _ said)
        · exact rest.pending (Option.mem_toList.1 waits)
  | @reply k mover r reply next there left permitted =>
      rcases List.mem_or_eq_of_mem_set member with member | moved
      · exact h task member
      · rw [moved]
        have before := h mover (List.mem_of_getElem? there)
        have asks := before.rest
        rw [left] at asks
        have rest := (asks.2 reply).go pace T.scene.console
        refine ⟨fun r asked => ?_, rest⟩
        rw [Task.requests_replied left] at asked
        rcases List.mem_append.1 asked with said | waits
        · exact before.requests r said
        · exact rest.pending (Option.mem_toList.1 waits)
  | outside => exact h task member

/-- However calls overlap, they ask for allowed things only. -/
theorem Run.asks (admits : Request.Admits allowed) {s : Scene} {turns : List Turn}
    (run : Run pace (quiet s) turns T) : ∀ task ∈ T.tasks, task.Asks allowed := by
  induction run with
  | start => exact fun _ member => absurd member List.not_mem_nil
  | step previous step ih => exact step.asks admits ih

end Traffic

end DeviceConsole
