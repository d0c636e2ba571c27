import DeviceConsole.Proofs.Execution

/-!
# Runs of a console

A run is a sequence of complete calls and handled events.  Transports reply as they like, events of
the sessions opened so far come in any order, and calls also reach connections that are no longer in
use.  This file defines:

* `Connection.Call` and `Console.Call`, the calls that change something, with their programs;
* `Step s label s'`, one complete call, one event, or a change from outside;
* `Run start transitions s`, the runs from a scene, with their steps in order.
-/

namespace DeviceConsole

/-! ## Calls -/

inductive Connection.Call where
  | connect (p : Profile) (token : Option String)
  | disconnect
  | destroy
  | publish (d : Connection.Draft) (audience : Audience)
  | subscribe (filters : List FilterRequest) (audience : Audience)
  | unsubscribe (filters : List String) (audience : Audience)
  | clear
  | read
  | setRenderMode (mode : RenderMode)
  | forget (filter : String)

namespace Connection.Call

def Result : Connection.Call → Type
  | connect _ _ => Except ConsoleError Bool
  | disconnect => Except ConsoleError Unit
  | publish _ _ => Except ConsoleError Unit
  | subscribe _ _ => Except ConsoleError Unit
  | unsubscribe _ _ => Except ConsoleError Unit
  | _ => Unit

def program (i : ConnectionRef) : (call : Connection.Call) → Operation call.Result
  | connect p token => Connection.connect i p token
  | disconnect => Connection.disconnect i
  | destroy => Connection.destroy i
  | publish d audience => Connection.publish i d audience
  | subscribe filters audience => Connection.subscribe i filters audience
  | unsubscribe filters audience => Connection.unsubscribe i filters audience
  | clear => Program.change (Connection.clear i)
  | read => Program.change (Connection.read i)
  | setRenderMode mode => Program.change (Connection.setRenderMode i mode)
  | forget filter => Program.change (Connection.forget i filter)

end Connection.Call

/-- A call of the console.  Ids that the call makes are arguments. -/
inductive Console.Call where
  | getOrCreate (id : ConnectionId) (p : Option Profile)
  | destroy (id : ConnectionId)
  | add (id : ConnectionId) (fresh : Nat → String) (p : Profile)
  | update (p : Profile)
  | remove (id : ConnectionId)
  | select (id : ConnectionId)
  | connect (id : ConnectionId) (token : Option String)
  | disconnect (id : ConnectionId)
  | publish (id : ConnectionId) (d : Connection.Draft) (audience : Audience)
  | subscribe (id : ConnectionId) (fresh : Nat → String) (filters : List FilterRequest)
      (audience : Audience)
  | unsubscribe (id : ConnectionId) (filters : List String) (audience : Audience)
  | subscribeAll (id : ConnectionId) (fresh : Nat → String)
  | unsubscribeAll (id : ConnectionId)
  | clear (id : ConnectionId)
  | setRenderMode (id : ConnectionId) (mode : RenderMode)
  | forget (id : ConnectionId) (filter : String)

namespace Console.Call

def Result : Console.Call → Type
  | getOrCreate _ _ => Option ConnectionRef
  | destroy _ => Bool
  | add _ _ _ => Except ConsoleError ConnectionId
  | connect _ _ => Except ConsoleError Bool
  | disconnect _ => Except ConsoleError Bool
  | _ => Except ConsoleError Unit

def program : (call : Console.Call) → Operation call.Result
  | getOrCreate id p => Console.getOrCreate id p
  | destroy id => Console.destroy id
  | add id fresh p => Console.addProfile id fresh p
  | update p => Console.updateProfile p
  | remove id => Console.removeProfile id
  | select id => Console.select id
  | connect id token => Console.connect id token
  | disconnect id => Console.disconnect id
  | publish id d audience => Console.publish id d audience
  | subscribe id fresh filters audience => Console.subscribe id fresh filters audience
  | unsubscribe id filters audience => Console.unsubscribe id filters audience
  | subscribeAll id fresh => Console.subscribeAll id fresh
  | unsubscribeAll id => Console.unsubscribeAll id
  | clear id => Console.clear id
  | setRenderMode id mode => Console.setRenderMode id mode
  | forget id filter => Console.forget id filter

end Console.Call

/-! ## Steps -/

/-- What happens to a console apart from calls and events. -/
inductive Console.Outside : Console → Console → Prop where
  | clock (c : Console) (time : Int) : Outside c { c with clock := time }
  | device (c : Console) (readFails writeFails : Bool) :
      Outside c { c with storage := ⟨c.storage.text, readFails, writeFails⟩ }
  /-- Another handle on the console may have another catalog. -/
  | catalog (c : Console) (catalog : Catalog) : Outside c { c with catalog := catalog }
  | listen (c : Console) (name : String) : Outside c { c with bus := c.bus.subscribe name }
  | unlisten (c : Console) (name : String) : Outside c { c with bus := c.bus.unsubscribe name }
  | hear (c : Console) (name : String) : Outside c { c with bus := (c.bus.drain name).2 }
  /-- No more events of a session are handled. -/
  | silence (c : Console) (session : SessionId) :
      Outside c { c with handlers := c.handlers.filter (·.1 ≠ session) }

inductive Label where
  | call (call : Console.Call) (result : call.Result)
  | direct (i : ConnectionRef) (call : Connection.Call) (result : call.Result)
  | event (i : ConnectionRef) (session : SessionId) (event : TransportEvent)
  | outside

/-- A step of a run.  An event goes to the connection that opened the session, and nowhere once that
connection was destroyed. -/
inductive Step : Scene → Label → Scene → Prop where
  | call {call : Console.Call} {s s' : Scene} {result : call.Result} :
      call.program.Runs s result s' → Step s (.call call result) s'
  | direct {i : ConnectionRef} {call : Connection.Call} {s s' : Scene} {result : call.Result} :
      i < s.console.connections.length →
      (call.program i).Runs s result s' → Step s (.direct i call result) s'
  | event {i : ConnectionRef} {session : SessionId} {event : TransportEvent} {s s' : Scene} :
      (session, i) ∈ s.console.handlers → (s.console.connection i).destroyed = false →
      (Connection.react i session event).Runs s () s' → Step s (.event i session event) s'
  | outside {s : Scene} {c : Console} :
      s.console.Outside c → Step s .outside { s with console := c }

/-! ## Runs -/

structure Transition where
  before : Scene
  label : Label
  after : Scene

/-- A run from a scene to another one, with its steps in order. -/
inductive Run (start : Scene) : List Transition → Scene → Prop where
  | start : Run start [] start
  | step {transitions : List Transition} {s s' : Scene} {label : Label} :
      Run start transitions s → Step s label s' →
      Run start (transitions ++ [⟨s, label, s'⟩]) s'

/-- A new console over stored profiles, whose transport was asked nothing yet. -/
def Scene.start (settings : Settings) (catalog : Catalog) (storage : ProfileStorage)
    (fresh : Nat → ConnectionId) (clock : Int) : Scene :=
  ⟨.start settings catalog storage fresh clock, []⟩

namespace Run

variable {start s : Scene} {transitions : List Transition}

/-- What holds at the start and is kept by every step holds after every run. -/
theorem invariant (holds : Scene → Prop) (first : holds start)
    (keep : ∀ {s label s'}, holds s → Step s label s' → holds s')
    (run : Run start transitions s) : holds s := by
  induction run with
  | start => exact first
  | step _ step ih => exact keep ih step

/-- The part of a run before one of its steps is a run, and the step is one. -/
theorem split (run : Run start transitions s) {earlier later : List Transition} {t : Transition}
    (e : transitions = earlier ++ t :: later) :
    Run start earlier t.before ∧ Step t.before t.label t.after := by
  induction run generalizing later with
  | start => simp at e
  | @step ts s s' label previous step ih =>
      rcases List.eq_nil_or_concat later with rfl | ⟨front, last, rfl⟩
      · obtain ⟨rfl, same⟩ := List.append_inj' e rfl
        cases same
        exact ⟨previous, step⟩
      · have longer : ts ++ [⟨s, label, s'⟩] = (earlier ++ t :: front) ++ [last] := by
          simpa using e
        exact ih (List.append_inj' longer rfl).1

theorem before_mem (run : Run start transitions s) {t : Transition} (h : t ∈ transitions) :
    ∃ earlier later, transitions = earlier ++ t :: later ∧ Run start earlier t.before ∧
      Step t.before t.label t.after := by
  rcases List.append_of_mem h with ⟨earlier, later, e⟩
  exact ⟨earlier, later, e, run.split e⟩

end Run

end DeviceConsole
