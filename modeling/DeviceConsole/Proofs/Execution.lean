import DeviceConsole.Session.Operations

/-!
# Running operations

`Program.run` answers every request the same way.  Here a transport may give any reply, save that it
never opens a session twice.  This file defines:

* `Exchange` and `Scene`, a console with everything it said to the transport so far;
* `Scene.Permits`, the replies that a transport may give;
* `Operation.Runs p s a s'`: run from `s` to its end, `p` may result in `a` and leave `s'`;
* one equivalence per way to build an operation, through which the other files take runs apart.
-/

namespace DeviceConsole

/-! ## Scenes -/

structure Exchange where
  request : Request
  reply : request.Reply

def Exchange.opened? : Exchange → Option SessionId
  | ⟨.open _, .ok session⟩ => some session
  | _ => none

@[simp] theorem Exchange.opened?_ok (options : ClientOptions) (session : SessionId) :
    Exchange.opened? ⟨.open options, .ok session⟩ = some session := rfl

@[simp] theorem Exchange.opened?_error (options : ClientOptions) (error : TransportError) :
    Exchange.opened? ⟨.open options, .error error⟩ = none := rfl

@[simp] theorem Exchange.opened?_publish {session : SessionId} {topic : String} {payload : Bytes}
    {options : PublishOptions} (reply : Request.Reply (.publish session topic payload options)) :
    Exchange.opened? ⟨_, reply⟩ = none := rfl

@[simp] theorem Exchange.opened?_subscribe {session : SessionId} {filters : List FilterRequest}
    (reply : Request.Reply (.subscribe session filters)) : Exchange.opened? ⟨_, reply⟩ = none := rfl

@[simp] theorem Exchange.opened?_unsubscribe {session : SessionId} {filters : List String}
    (reply : Request.Reply (.unsubscribe session filters)) :
    Exchange.opened? ⟨_, reply⟩ = none := rfl

@[simp] theorem Exchange.opened?_close {session : SessionId}
    (reply : Request.Reply (.close session)) : Exchange.opened? ⟨_, reply⟩ = none := rfl

/-- A console, and what it and the transport said to each other so far, oldest first. -/
structure Scene where
  console : Console
  exchanges : List Exchange

namespace Scene

def opened (s : Scene) : List SessionId := s.exchanges.filterMap Exchange.opened?

def apply (s : Scene) (change : Console → Console) : Scene := { s with console := change s.console }

def note (s : Scene) (r : Request) (reply : r.Reply) : Scene :=
  { s with exchanges := s.exchanges ++ [⟨r, reply⟩] }

/-- Whether a transport may give a reply: anything, but no session is opened twice. -/
def Permits (s : Scene) : (r : Request) → r.Reply → Prop
  | .open _, .ok session => session ∉ s.opened
  | _, _ => True

@[simp] theorem console_apply (s : Scene) (change : Console → Console) :
    (s.apply change).console = change s.console := rfl

@[simp] theorem opened_apply (s : Scene) (change : Console → Console) :
    (s.apply change).opened = s.opened := rfl

@[simp] theorem console_note (s : Scene) (r : Request) (reply : r.Reply) :
    (s.note r reply).console = s.console := rfl

@[simp] theorem apply_id (s : Scene) : s.apply id = s := rfl

theorem apply_eq_self {s : Scene} {change : Console → Console}
    (h : change s.console = s.console) : s.apply change = s := by
  rw [apply, h]

@[simp] theorem opened_note (s : Scene) (r : Request) (reply : r.Reply) :
    (s.note r reply).opened = s.opened ++ (Exchange.opened? ⟨r, reply⟩).toList := by
  cases h : Exchange.opened? ⟨r, reply⟩ <;> simp [opened, note, h]

end Scene

/-! ## Runs -/

/-- A run of an operation to its end, with its result. -/
inductive Operation.Runs {α : Type} : Operation α → Scene → α → Scene → Prop where
  | done (a : α) (s : Scene) : Runs (.done a) s a s
  | step {change : Console → Console} {next : Console → Operation α} {s s' : Scene} {a : α} :
      Runs (next s.console) (s.apply change) a s' → Runs (.step change next) s a s'
  | request {r : Request} {next : r.Reply → Operation α} {s s' : Scene} {reply : r.Reply} {a : α} :
      s.Permits r reply → Runs (next reply) (s.note r reply) a s' → Runs (.request r next) s a s'

namespace Operation

variable {α β : Type} {s s' : Scene}

@[simp] theorem runs_done_iff {a b : α} :
    Runs (.done a) s b s' ↔ b = a ∧ s' = s := by
  constructor
  · intro h
    cases h
    exact ⟨rfl, rfl⟩
  · rintro ⟨rfl, rfl⟩
    exact .done b s'

@[simp] theorem runs_step_iff {change : Console → Console} {next : Console → Operation α} {a : α} :
    Runs (.step change next) s a s' ↔ Runs (next s.console) (s.apply change) a s' := by
  constructor
  · intro h
    cases h with
    | step h => exact h
  · exact .step

@[simp] theorem runs_request_iff {r : Request} {next : r.Reply → Operation α} {a : α} :
    Runs (.request r next) s a s' ↔
      ∃ reply, s.Permits r reply ∧ Runs (next reply) (s.note r reply) a s' := by
  constructor
  · intro h
    cases h with
    | request permitted h => exact ⟨_, permitted, h⟩
  · rintro ⟨reply, permitted, h⟩
    exact .request permitted h

/-- A run of one operation after another passes through the scene between them. -/
@[simp] theorem runs_bind_iff {p : Operation α} {f : α → Operation β} {b : β} :
    Runs (p.bind f) s b s' ↔ ∃ a middle, Runs p s a middle ∧ Runs (f a) middle b s' := by
  -- By induction on the first operation; its replies come before anything of the second one.
  induction p generalizing s with
  | done a =>
      constructor
      · intro h
        exact ⟨a, s, .done a s, h⟩
      · rintro ⟨_, _, first, second⟩
        rcases runs_done_iff.1 first with ⟨rfl, rfl⟩
        exact second
  | step change next ih =>
      have h := ih s.console (s := s.apply change)
      simpa only [Program.bind, runs_step_iff] using h
  | request r next ih =>
      simp only [Program.bind, runs_request_iff]
      constructor
      · rintro ⟨reply, permitted, h⟩
        rcases (ih reply).1 h with ⟨a, middle, first, second⟩
        exact ⟨a, middle, ⟨reply, permitted, first⟩, second⟩
      · rintro ⟨a, middle, ⟨reply, permitted, first⟩, second⟩
        exact ⟨reply, permitted, (ih reply).2 ⟨a, middle, first, second⟩⟩

@[simp] theorem runs_look_iff {view : Console → α} {a : α} :
    Runs (Program.look view) s a s' ↔ a = view s.console ∧ s' = s := by
  simp [Program.look]

/-- What comes after a look runs from the same scene. -/
theorem runs_look_bind_iff {view : Console → α} {next : α → Operation β} {b : β} :
    Runs ((Program.look view).bind next) s b s' ↔ Runs (next (view s.console)) s b s' := by
  simp only [runs_bind_iff, runs_look_iff]
  constructor
  · rintro ⟨_, _, ⟨rfl, rfl⟩, h⟩
    exact h
  · intro h
    exact ⟨_, s, ⟨rfl, rfl⟩, h⟩

@[simp] theorem runs_change_iff {update : Console → Console} {u : Unit} :
    Runs (Program.change update) s u s' ↔ s' = s.apply update := by
  simp [Program.change]

/-- Many operations end with a change and a result that is known already. -/
theorem runs_change_done_iff {update : Console → Console} {a b : α} :
    Runs ((Program.change update).bind fun _ => .done a) s b s' ↔ b = a ∧ s' = s.apply update := by
  simp only [runs_bind_iff, runs_change_iff, runs_done_iff]
  constructor
  · rintro ⟨-, _, rfl, rfl, rfl⟩
    exact ⟨rfl, rfl⟩
  · rintro ⟨rfl, rfl⟩
    exact ⟨(), _, rfl, rfl, rfl⟩

@[simp] theorem runs_atomically_iff {act : Console → α × Console} {a : α} :
    Runs (Program.atomically act) s a s' ↔
      a = (act s.console).1 ∧ s' = s.apply fun _ => (act s.console).2 := by
  simp only [Program.atomically, runs_step_iff, runs_done_iff]
  rfl

@[simp] theorem runs_ask_iff {r : Request} {reply : r.Reply} :
    Runs (Operation.ask r) s reply s' ↔ s.Permits r reply ∧ s' = s.note r reply := by
  simp only [Operation.ask, Program.ask, runs_request_iff, runs_done_iff]
  constructor
  · rintro ⟨_, permitted, rfl, rfl⟩
    exact ⟨permitted, rfl⟩
  · rintro ⟨permitted, rfl⟩
    exact ⟨reply, permitted, rfl, rfl⟩

end Operation

end DeviceConsole
