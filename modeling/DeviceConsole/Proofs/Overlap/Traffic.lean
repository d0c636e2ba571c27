import DeviceConsole.Proofs.Session.Play

/-!
# Calls that overlap

`Run` is made of complete calls.  Here calls and events are cut into turns, and the turns of any
number of them interleave in any order.  This file defines:

* `Pace`, where an operation is cut: before every step, or only where a request waits for its reply;
* `Task`, a call or an event under way, and `Traffic`, a scene with everything that began in it;
* `Traffic.Step` and `Traffic.Run`, one turn after the other;
* `Traffic.play`, which takes turns by a plan, for runs on fixed inputs.
-/

namespace DeviceConsole

/-! ## Operations by turns -/

/-- Where other calls may come in between. -/
inductive Pace where
  /-- Before every step. -/
  | short
  /-- Only while a request waits for its reply. -/
  | long

namespace Operation

variable {α : Type}

/-- Takes every step up to the next request. -/
def settle : Operation α → Console → Operation α × Console
  | .done a, c => (.done a, c)
  | .step change next, c => settle (next c) (change c)
  | .request r next, c => (.request r next, c)

def go : Pace → Operation α → Console → Operation α × Console
  | .short, .done a, c => (.done a, c)
  | .short, .step change next, c => (next c, change c)
  | .short, .request r next, c => (.request r next, c)
  | .long, p, c => p.settle c

def isOver : Operation α → Bool
  | .done _ => true
  | _ => false

def pending? : Operation α → Option Request
  | .request r _ => some r
  | _ => none

end Operation

namespace Action

def Result : Action → Type
  | call c => c.Result
  | direct _ c => c.Result
  | event _ _ _ => Unit

def program : (a : Action) → Operation a.Result
  | call c => c.program
  | direct i c => c.program i
  | event i session happened => Connection.react i session happened

end Action

/-! ## Traffic -/

/-- A call or an event that began: the console as it found it, what it and the transport said to
each other so far, and what is left to do. -/
structure Task where
  action : Action
  found : Console
  log : List Exchange
  rest : Operation action.Result

namespace Task

def isOver (t : Task) : Bool := t.rest.isOver

def opened (t : Task) : List SessionId := t.log.filterMap Exchange.opened?

/-- What the call asked of the transport, the request that still waits included. -/
def requests (t : Task) : List Request := t.log.map (·.request) ++ t.rest.pending?.toList

def replied (t : Task) (r : Request) (reply : r.Reply) (rest : Operation t.action.Result) : Task :=
  { t with log := t.log ++ [⟨r, reply⟩], rest := rest }

theorem opened_replied (t : Task) (r : Request) (reply : r.Reply)
    (rest : Operation t.action.Result) :
    (t.replied r reply rest).opened = t.opened ++ (Exchange.opened? ⟨r, reply⟩).toList := by
  cases given : Exchange.opened? ⟨r, reply⟩ <;> simp [opened, replied, given]

theorem requests_replied {t : Task} {r : Request} {next : r.Reply → Operation t.action.Result}
    (left : t.rest = .request r next) (reply : r.Reply) (rest : Operation t.action.Result) :
    (t.replied r reply rest).requests = t.requests ++ rest.pending?.toList := by
  simp [requests, replied, left, Operation.pending?]

end Task

/-- A scene with the calls and events that began in it, oldest first. -/
structure Traffic where
  scene : Scene
  tasks : List Task

inductive Tick where
  | start (a : Action)
  | resume (k : Nat)
  | reply (k : Nat) (r : Request) (reply : r.Reply)
  | outside

namespace Traffic

def quiet (s : Scene) : Traffic := ⟨s, []⟩

def connection (T : Traffic) (i : ConnectionRef) : Connection := T.scene.console.connection i

def enter (T : Traffic) (pace : Pace) (a : Action) : Traffic :=
  let turn := Operation.go pace a.program T.scene.console
  ⟨T.scene.apply fun _ => turn.2, T.tasks ++ [⟨a, T.scene.console, [], turn.1⟩]⟩

def proceed (T : Traffic) (pace : Pace) (k : Nat) (task : Task) : Traffic :=
  let turn := Operation.go pace task.rest T.scene.console
  ⟨T.scene.apply fun _ => turn.2, T.tasks.set k { task with rest := turn.1 }⟩

def answer (T : Traffic) (pace : Pace) (k : Nat) (task : Task) (r : Request) (reply : r.Reply)
    (p : Operation task.action.Result) : Traffic :=
  let turn := Operation.go pace p T.scene.console
  ⟨(T.scene.note r reply).apply fun _ => turn.2,
    T.tasks.set k (task.replied r reply turn.1)⟩

theorem get?_enter_self (T : Traffic) (pace : Pace) (a : Action) :
    (T.enter pace a).tasks[T.tasks.length]? =
      some ⟨a, T.scene.console, [], (Operation.go pace a.program T.scene.console).1⟩ :=
  List.getElem?_concat_length

theorem get?_enter_of_ne {T : Traffic} {j : Nat} (pace : Pace) (a : Action)
    (differs : j ≠ T.tasks.length) : (T.enter pace a).tasks[j]? = T.tasks[j]? := by
  by_cases inside : j < T.tasks.length
  · exact List.getElem?_append_left inside
  · -- There is no task at such a place, before or after.
    have length : (T.enter pace a).tasks.length = T.tasks.length + 1 := by simp [enter]
    have absent : T.tasks[j]? = none := List.getElem?_eq_none_iff.2 (Nat.not_lt.1 inside)
    rw [absent, List.getElem?_eq_none_iff, length]
    omega

theorem get?_answer_self {T : Traffic} {k : Nat} {task : Task} (pace : Pace)
    (there : T.tasks[k]? = some task) (r : Request) (reply : r.Reply)
    (p : Operation task.action.Result) :
    (T.answer pace k task r reply p).tasks[k]? =
      some (task.replied r reply (p.go pace T.scene.console).1) :=
  List.getElem?_set_self (List.getElem?_eq_some_iff.1 there).1

theorem get?_answer_of_ne {T : Traffic} {j k : Nat} {task : Task} (pace : Pace)
    (differs : j ≠ k) (r : Request) (reply : r.Reply) (p : Operation task.action.Result) :
    (T.answer pace k task r reply p).tasks[j]? = T.tasks[j]? :=
  List.getElem?_set_ne (Ne.symm differs)

/-- One turn of one task, or a change from outside. -/
inductive Step (pace : Pace) : Traffic → Tick → Traffic → Prop where
  | start {T : Traffic} {a : Action} : a.Enabled T.scene → Step pace T (.start a) (T.enter pace a)
  | resume {T : Traffic} {k : Nat} {task : Task} {change : Console → Console}
      {next : Console → Operation task.action.Result} :
      T.tasks[k]? = some task → task.rest = .step change next →
      Step pace T (.resume k) (T.proceed pace k task)
  | reply {T : Traffic} {k : Nat} {task : Task} {r : Request} {reply : r.Reply}
      {next : r.Reply → Operation task.action.Result} :
      T.tasks[k]? = some task → task.rest = .request r next → T.scene.Permits r reply →
      Step pace T (.reply k r reply) (T.answer pace k task r reply (next reply))
  | outside {T : Traffic} {c : Console} : T.scene.console.Outside c →
      Step pace T .outside { T with scene := { T.scene with console := c } }

end Traffic

structure Turn where
  before : Traffic
  tick : Tick
  after : Traffic

/-- The task whose turn it is, by its place among the tasks. -/
def Turn.mover (t : Turn) : Option Nat :=
  match t.tick with
  | .start _ => some t.before.tasks.length
  | .resume k => some k
  | .reply k _ _ => some k
  | .outside => none

inductive Traffic.Run (pace : Pace) (start : Traffic) : List Turn → Traffic → Prop where
  | start : Run pace start [] start
  | step {turns : List Turn} {T T' : Traffic} {tick : Tick} :
      Run pace start turns T → Traffic.Step pace T tick T' →
      Run pace start (turns ++ [⟨T, tick, T'⟩]) T'

/-- The turns before one of a run make a run up to it, and those after it one from there. -/
theorem Traffic.Run.split {pace : Pace} {start T : Traffic} {earlier later : List Turn} {t : Turn}
    (run : Run pace start (earlier ++ t :: later) T) :
    Run pace start earlier t.before ∧ Step pace t.before t.tick t.after ∧
      Run pace t.after later T := by
  generalize whole : earlier ++ t :: later = turns at run
  induction run generalizing later with
  | start => simp at whole
  | @step turns T T' tick previous step ih =>
      rcases List.eq_nil_or_concat later with rfl | ⟨later, last, rfl⟩
      · rcases List.append_inj' whole rfl with ⟨rfl, same⟩
        cases same
        exact ⟨previous, step, .start⟩
      · rw [List.concat_eq_append, ← List.cons_append, ← List.append_assoc] at whole
        rcases List.append_inj' whole rfl with ⟨same, lastly⟩
        rcases ih same with ⟨first, turn, second⟩
        cases lastly
        rw [List.concat_eq_append]
        exact ⟨first, turn, second.step step⟩

/-! ## Taking turns by a plan -/

/-- A blank scene, but for a connection for each of these profiles. -/
def Scene.furnished (profiles : List Profile) : Scene := ⟨Scene.blank.console.addAll profiles, []⟩

def Responder.refusing : Responder := fun _ r =>
  match r with
  | .open _ => .error .notOpen
  | .publish _ _ _ _ => .error .notOpen
  | .subscribe _ _ => .error .notOpen
  | .unsubscribe _ _ => .error .notOpen
  | .close _ => .error .notOpen

theorem Responder.fair_refusing : Responder.refusing.Fair := by
  intro s r
  cases r <;> trivial

inductive Pick where
  | start (a : Action)
  /-- The task goes on; a request that waits is granted. -/
  | go (k : Nat)
  /-- The request that waits is refused. -/
  | refuse (k : Nat)

namespace Traffic

/-- Lets a task go on, with a rule for the reply that it may wait for. -/
def goOn (pace : Pace) (respond : Responder) (T : Traffic) (k : Nat) : Turn :=
  match T.tasks[k]? with
  | none => ⟨T, .resume k, T⟩
  | some task =>
    match task.rest with
    | .done _ => ⟨T, .resume k, T⟩
    | .step _ _ => ⟨T, .resume k, T.proceed pace k task⟩
    | .request r next =>
      let reply := respond T.scene r
      ⟨T, .reply k r reply, T.answer pace k task r reply (next reply)⟩

def take (pace : Pace) (T : Traffic) : Pick → Turn
  | .start a => ⟨T, .start a, T.enter pace a⟩
  | .go k => T.goOn pace .obliging k
  | .refuse k => T.goOn pace .refusing k

def CanGo (T : Traffic) (k : Nat) : Prop := (T.tasks[k]?.map Task.isOver) = some false

instance (T : Traffic) (k : Nat) : Decidable (T.CanGo k) :=
  inferInstanceAs (Decidable (_ = _))

def Allows (T : Traffic) : Pick → Prop
  | .start a => a.Enabled T.scene
  | .go k => T.CanGo k
  | .refuse k => T.CanGo k

instance (T : Traffic) : (pick : Pick) → Decidable (T.Allows pick)
  | .start a => inferInstanceAs (Decidable (a.Enabled _))
  | .go k => inferInstanceAs (Decidable (T.CanGo k))
  | .refuse k => inferInstanceAs (Decidable (T.CanGo k))

variable {pace : Pace}

theorem step_goOn {respond : Responder} (fair : respond.Fair) {T : Traffic} {k : Nat}
    (possible : T.CanGo k) :
    (T.goOn pace respond k).before = T ∧
      Step pace T (T.goOn pace respond k).tick (T.goOn pace respond k).after := by
  unfold CanGo at possible
  unfold goOn
  cases found : T.tasks[k]? with
  | none =>
      rw [found] at possible
      cases possible
  | some task =>
      rw [found] at possible
      have going : task.isOver = false := Option.some.inj possible
      cases left : task.rest with
      | done a =>
          rw [Task.isOver, left] at going
          cases going
      | step change next => exact ⟨by simp [left], by simpa [left] using .resume found left⟩
      | request r next =>
          have permitted := fair T.scene r
          exact ⟨by simp [left], by simpa [left] using .reply found left permitted⟩

theorem step_take {T : Traffic} {pick : Pick} (possible : T.Allows pick) :
    (T.take pace pick).before = T ∧
      Step pace T (T.take pace pick).tick (T.take pace pick).after := by
  cases pick with
  | start a => exact ⟨rfl, .start possible⟩
  | go k => exact step_goOn Responder.fair_obliging possible
  | refuse k => exact step_goOn Responder.fair_refusing possible

def play (pace : Pace) (T : Traffic) : List Pick → List Turn × Traffic
  | [] => ([], T)
  | pick :: rest =>
    let turn := T.take pace pick
    let later := turn.after.play pace rest
    (turn :: later.1, later.2)

def Playable (pace : Pace) (T : Traffic) : List Pick → Prop
  | [] => True
  | pick :: rest => T.Allows pick ∧ (T.take pace pick).after.Playable pace rest

instance decidablePlayable (pace : Pace) : (T : Traffic) → (plan : List Pick) →
    Decidable (T.Playable pace plan)
  | _, [] => inferInstanceAs (Decidable True)
  | T, pick :: rest =>
    have := decidablePlayable pace (T.take pace pick).after rest
    inferInstanceAs (Decidable (_ ∧ _))

/-- A plan that can be followed makes a run longer. -/
theorem Run.play {start T : Traffic} {turns : List Turn} (run : Run pace start turns T)
    {plan : List Pick} (playable : T.Playable pace plan) :
    Run pace start (turns ++ (T.play pace plan).1) (T.play pace plan).2 := by
  induction plan generalizing T turns with
  | nil => simpa [Traffic.play] using run
  | cons pick rest ih =>
      rcases playable with ⟨possible, later⟩
      rcases @step_take pace _ _ possible with ⟨same, step⟩
      have longer := Run.step run step
      have whole := ih longer later
      have turn : (⟨T, (T.take pace pick).tick, (T.take pace pick).after⟩ : Turn) =
          T.take pace pick := by
        cases taken : T.take pace pick with
        | mk before tick after =>
            rw [taken] at same
            cases same
            rfl
      rwa [turn, List.append_assoc] at whole

/-- A plan around one of its turns makes a run around that turn. -/
theorem Run.play_around {start : Traffic} {earlier later : List Pick} {pick : Pick}
    (first : start.Playable pace earlier) (possible : (start.play pace earlier).2.Allows pick)
    (rest : ((start.play pace earlier).2.take pace pick).after.Playable pace later) :
    Run pace start
      ((start.play pace earlier).1 ++ (start.play pace earlier).2.take pace pick ::
        (((start.play pace earlier).2.take pace pick).after.play pace later).1)
      (((start.play pace earlier).2.take pace pick).after.play pace later).2 := by
  have playable : start.Playable pace (earlier ++ pick :: later) := by
    induction earlier generalizing start with
    | nil => exact ⟨possible, rest⟩
    | cons before earlier ih => exact ⟨first.1, ih first.2 possible rest⟩
  have played : start.play pace (earlier ++ pick :: later) =
      ((start.play pace earlier).1 ++ (start.play pace earlier).2.take pace pick ::
        (((start.play pace earlier).2.take pace pick).after.play pace later).1,
      (((start.play pace earlier).2.take pace pick).after.play pace later).2) := by
    clear first possible rest playable
    induction earlier generalizing start with
    | nil => rfl
    | cons before earlier ih => simp only [List.cons_append, Traffic.play, ih]
  have run := Run.play .start playable
  rwa [played] at run

end Traffic

end DeviceConsole
