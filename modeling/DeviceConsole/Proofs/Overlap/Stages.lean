import DeviceConsole.Proofs.Overlap.Alters

/-!
# How far a call got

Under the long pace a call stands still only where a request waits for its reply, and each operation
has few such places.  This file defines:

* `ConnectStage`, `SubscribeStage` and `DestroyStage`, the places where an operation that does more
  than calm changes can stand;
* `ConnectBegun` and `ConnectTurn`, a turn of a connect case by case;
* `Action.Staged` and `Traffic.Staged`: what is left of each task stands at one of these places.
-/

namespace DeviceConsole

open Operation

namespace Operation

variable {α : Type}

/-- Whether nothing can be done before a reply comes. -/
def Waits : Operation α → Prop
  | .step _ _ => False
  | _ => True

theorem waits_settle (p : Operation α) (c : Console) : (p.settle c).1.Waits := by
  induction p generalizing c with
  | done | request => trivial
  | step change next ih => exact ih c (change c)

end Operation

namespace Connection

variable {i : ConnectionRef} {p : Profile} {token : Option String} {c : Console}

/-! ## Connecting -/

/-- The part of a connect after the session that it replaces was closed. -/
def afterClose (i : ConnectionRef) (p : Profile) (token : Option String) :
    Except ConsoleError Unit → Operation (Except ConsoleError Bool)
  | .error error => .done (.error error)
  | .ok () => openSession i p token

/-- The part of a connect after its first step. -/
def afterBegin (i : ConnectionRef) (p : Profile) (token : Option String) :
    ConnectStart → Operation (Except ConsoleError Bool)
  | .destroyed => .done (.error .destroyed)
  | .busy => .done (.ok false)
  | .ready previous replaced => (closePrevious i previous replaced).bind (afterClose i p token)

/-- What can be left of a connect that was given these sessions. -/
inductive ConnectStage (i : ConnectionRef) (p : Profile) (token : Option String) :
    List SessionId → Operation (Except ConsoleError Bool) → Prop where
  | returned (opened : List SessionId) (result : Except ConsoleError Bool) :
      ConnectStage i p token opened (.done result)
  /-- The session that the connection held is being closed. -/
  | replacing (session : SessionId) (replaced : Option ThingScope) :
      ConnectStage i p token []
        ((closePrevious i (some session) replaced).bind (afterClose i p token))
  | opening (options : ClientOptions) : ConnectStage i p token [] (takeOver i options)
  /-- The new session is being closed, since the connection was destroyed meanwhile. -/
  | abandoning (session : SessionId) : ConnectStage i p token [session] (abandon session)

/-- How a connect begins: what is left of it, and the console. -/
inductive ConnectBegun (i : ConnectionRef) (p : Profile) (token : Option String) (c : Console) :
    Operation (Except ConsoleError Bool) → Console → Prop where
  | refused (result : Except ConsoleError Bool) : ConnectBegun i p token c (.done result) c
  | replacing (session : SessionId) (replaced : Option ThingScope) :
      (c.connection i).destroyed = false → (c.connection i).session = some session →
      ConnectBegun i p token c
        ((closePrevious i (some session) replaced).bind (afterClose i p token))
        (c.holdGate.update i fun connection => { connection with session := none })
  | opening (c' : Console) :
      (c.connection i).destroyed = false → (c.connection i).session = none →
      c' = (c.holdGate.update i fun connection => { connection with session := none }) →
      ConnectBegun i p token c (takeOver i (prepare i p token c').1) (prepare i p token c').2

theorem connect_begun (i : ConnectionRef) (p : Profile) (token : Option String) (c : Console) :
    ConnectBegun i p token c ((connect i p token).settle c).1
      ((connect i p token).settle c).2 := by
  -- What follows the first step depends on its answer alone.
  have first : (connect i p token).settle c =
      (afterBegin i p token (beginConnect i c).1).settle (beginConnect i c).2 := rfl
  rw [first]
  cases gone : (c.connection i).destroyed with
  | true =>
      have begun : beginConnect i c = (.destroyed, c) := by simp [beginConnect, gone]
      rw [begun]
      exact .refused _
  | false =>
      cases held : c.gateHeld with
      | true =>
          have begun : beginConnect i c = (.busy, c) := by simp [beginConnect, gone, held]
          rw [begun]
          exact .refused _
      | false =>
          have begun : ∃ replaced, beginConnect i c = (.ready (c.connection i).session replaced,
              c.holdGate.update i fun connection => { connection with session := none }) := by
            simp [beginConnect, gone, held]
          rcases begun with ⟨replaced, begun⟩
          rw [begun]
          cases session : (c.connection i).session with
          | none => exact .opening _ gone session rfl
          | some session' => exact .replacing session' replaced gone session

/-- How a connect that was given these sessions goes on with a reply: what is left of it, and the
console. -/
inductive ConnectTurn (i : ConnectionRef) (p : Profile) (token : Option String) (c : Console) :
    List SessionId → (r : Request) → r.Reply → Operation (Except ConsoleError Bool) → Console →
      Prop where
  | restored (session : SessionId) (error : TransportError) :
      ConnectTurn i p token c [] (.close session) (.error error)
        (.done (.error (.transport error))) (restoreSession i session c)
  | replaced (session : SessionId) (c' : Console) : c'.connections = c.connections →
      ConnectTurn i p token c [] (.close session) (.ok ()) (takeOver i (prepare i p token c').1)
        (prepare i p token c').2
  | failed (options : ClientOptions) (error : TransportError) :
      ConnectTurn i p token c [] (.open options) (.error error)
        (.done (.error (.transport error))) (failOpen i error c)
  | adopted (options : ClientOptions) (session : SessionId) :
      (c.connection i).destroyed = false →
      ConnectTurn i p token c [] (.open options) (.ok session) (.done (.ok true))
        (adopt i session c).2
  | abandoned (options : ClientOptions) (session : SessionId) :
      (c.connection i).destroyed = true →
      ConnectTurn i p token c [] (.open options) (.ok session) (abandon session) c.releaseGate
  | ended (session : SessionId) (reply : Request.Reply (.close session)) :
      ConnectTurn i p token c [session] (.close session) reply (.done (.error .destroyed)) c

variable {opened : List SessionId} {rest rest' : Operation (Except ConsoleError Bool)}
  {r : Request} {reply : r.Reply}

theorem ConnectBegun.stage {c' : Console} (h : ConnectBegun i p token c rest c') :
    ConnectStage i p token [] rest := by
  cases h with
  | refused result => exact .returned [] result
  | replacing session replaced => exact .replacing session replaced
  | opening => exact .opening _

theorem ConnectStage.turn {next : r.Reply → Operation (Except ConsoleError Bool)}
    (h : ConnectStage i p token opened rest) (left : rest = .request r next) (reply : r.Reply)
    (c : Console) :
    ConnectTurn i p token c opened r reply ((next reply).settle c).1
      ((next reply).settle c).2 := by
  cases h with
  | returned result => cases left
  | replacing session replaced =>
      -- The program is a request, though it is not written as one.
      have asked : (closePrevious i (some session) replaced).bind (afterClose i p token) =
          Program.request (.close session) fun reply => _ := rfl
      rw [asked] at left
      cases left
      rcases reply with error | ⟨⟩
      · exact .restored session error
      · refine .replaced session _ ?_
        cases replaced <;> rfl
  | opening options =>
      have asked : takeOver i options = Program.request (.open options) fun reply => _ := rfl
      rw [asked] at left
      cases left
      cases reply with
      | error error => exact .failed options error
      | ok session =>
          -- Whether the session is taken over depends on the flag at this very moment.
          let left := fun adopted : Bool => if adopted then .done (.ok true) else abandon session
          change ConnectTurn i p token c [] _ _ ((left (adopt i session c).1).settle _).1
            ((left (adopt i session c).1).settle (adopt i session c).2).2
          cases gone : (c.connection i).destroyed with
          | false =>
              have kept : (adopt i session c).1 = true := by simp [adopt, gone]
              rw [kept]
              exact .adopted options session gone
          | true =>
              have given : adopt i session c = (false, c.releaseGate) := by simp [adopt, gone]
              rw [given]
              exact .abandoned options session gone
  | abandoning session =>
      have asked : abandon session = Program.request (.close session) fun reply => _ := rfl
      rw [asked] at left
      cases left
      exact .ended session reply

theorem ConnectTurn.stage {c' : Console}
    (h : ConnectTurn i p token c opened r reply rest' c') :
    ConnectStage i p token (opened ++ (Exchange.opened? ⟨r, reply⟩).toList) rest' := by
  cases h with
  | restored | failed | adopted | ended => exact .returned _ _
  | replaced => exact .opening _
  | abandoned options session => exact .abandoning session

/-! ## Destroying -/

inductive DestroyStage (i : ConnectionRef) : Operation Unit → Prop where
  | returned : DestroyStage i (.done ())
  | closing (session : SessionId) (previous : ConnectionStatus) :
      DestroyStage i ((Operation.ask (.close session)).bind fun _ =>
        Program.change (finishDestroy i previous))

inductive DestroyBegun (i : ConnectionRef) (c : Console) : Operation Unit → Console → Prop where
  | again : (c.connection i).destroyed = true → DestroyBegun i c (.done ()) c
  | bare : (c.connection i).destroyed = false → (c.connection i).session = none →
      DestroyBegun i c (.done ()) (finishDestroy i (c.connection i).snapshot.status
        (c.update i fun connection => { connection with destroyed := true, session := none }))
  | closing (session : SessionId) (previous : ConnectionStatus) :
      (c.connection i).destroyed = false → (c.connection i).session = some session →
      DestroyBegun i c ((Operation.ask (.close session)).bind fun _ =>
          Program.change (finishDestroy i previous))
        (c.update i fun connection => { connection with destroyed := true, session := none })

theorem destroy_begun (i : ConnectionRef) (c : Console) :
    DestroyBegun i c ((destroy i).settle c).1 ((destroy i).settle c).2 := by
  cases gone : (c.connection i).destroyed with
  | true =>
      have begun : (destroy i).settle c = (.done (), c) := by
        simp [destroy, Program.atomically, Program.bind, settle, beginDestroy, gone]
      rw [begun]
      exact .again gone
  | false =>
      cases session : (c.connection i).session with
      | none =>
          have begun : (destroy i).settle c = (.done (), finishDestroy i
              (c.connection i).snapshot.status (c.update i fun connection =>
                { connection with destroyed := true, session := none })) := by
            simp [destroy, Program.atomically, Program.change, Program.bind, settle, beginDestroy,
              gone, session]
          rw [begun]
          exact .bare gone session
      | some session' =>
          have begun : (destroy i).settle c = ((Operation.ask (.close session')).bind fun _ =>
                Program.change (finishDestroy i (c.connection i).snapshot.status),
              c.update i fun connection =>
                { connection with destroyed := true, session := none }) := by
            simp [destroy, Operation.ask, Program.ask, Program.atomically, Program.bind, settle,
              beginDestroy, gone, session]
          rw [begun]
          exact .closing session' _ gone session

theorem DestroyBegun.stage {rest : Operation Unit} {c' : Console} (h : DestroyBegun i c rest c') :
    DestroyStage i rest := by
  cases h with
  | again | bare => exact .returned
  | closing session previous => exact .closing session previous

inductive DestroyTurn (i : ConnectionRef) (c : Console) : Operation Unit → Console → Prop where
  | finished (previous : ConnectionStatus) :
      DestroyTurn i c (.done ()) (finishDestroy i previous c)

theorem DestroyTurn.stage {rest : Operation Unit} {c' : Console} (h : DestroyTurn i c rest c') :
    DestroyStage i rest := by
  cases h with
  | finished => exact .returned

theorem DestroyStage.turn {r : Request} {next : r.Reply → Operation Unit} {rest : Operation Unit}
    (h : DestroyStage i rest) (left : rest = .request r next) (reply : r.Reply) (c : Console) :
    DestroyTurn i c ((next reply).settle c).1 ((next reply).settle c).2 := by
  cases h with
  | returned => cases left
  | closing session previous =>
      cases left
      exact .finished previous

/-! ## Subscribing -/

variable {filters : List FilterRequest} {audience : Audience}

inductive SubscribeTurn (i : ConnectionRef) (filters : List FilterRequest) (audience : Audience)
    (c : Console) : Except TransportError (List UInt8) → Operation (Except ConsoleError Unit) →
      Console → Prop where
  | granted (codes : List UInt8) : refusedFilters filters codes = [] →
      SubscribeTurn i filters audience c (.ok codes) (.done (.ok ()))
        ((c.present i (Snapshot.mark true (filters.map (·.1)))).confirm audience
          "Topic(s) Subscribed")
  | refused (reply : Except TransportError (List UInt8)) (result : Except ConsoleError Unit)
      (text : String) : (∀ codes, reply = .ok codes → refusedFilters filters codes ≠ []) →
      SubscribeTurn i filters audience c reply (.done result) (c.report audience text)

inductive SubscribeStage (i : ConnectionRef) (filters : List FilterRequest) (audience : Audience) :
    Operation (Except ConsoleError Unit) → Prop where
  | returned (result : Except ConsoleError Unit) : SubscribeStage i filters audience (.done result)
  | asking (session : SessionId)
      (next : Except TransportError (List UInt8) → Operation (Except ConsoleError Unit)) :
      filters ≠ [] →
      (∀ reply c, SubscribeTurn i filters audience c reply ((next reply).settle c).1
        ((next reply).settle c).2) →
      SubscribeStage i filters audience (.request (.subscribe session filters) next)

theorem SubscribeTurn.stage {reply : Except TransportError (List UInt8)}
    {rest : Operation (Except ConsoleError Unit)} {c' : Console}
    (h : SubscribeTurn i filters audience c reply rest c') :
    SubscribeStage i filters audience rest := by
  cases h with
  | granted | refused => exact .returned _

theorem beginRequest_ok {count : Nat} {session : SessionId}
    (passed : (beginRequest i count c).1 = .ok session) : count ≠ 0 := by
  rintro rfl
  simp only [beginRequest] at passed
  split at passed
  · cases passed
  · split at passed
    · cases passed
    · simp [Console.refuse] at passed

theorem subscribe_begun (c : Console) :
    SubscribeStage i filters audience ((subscribe i filters audience).settle c).1 := by
  unfold subscribe
  simp only [Program.bind_eq, Program.atomically, Program.bind, settle]
  cases begun : (beginRequest i filters.length c).1 with
  | error error => exact .returned _
  | ok session =>
      have nonempty : filters ≠ [] := by
        rintro rfl
        exact beginRequest_ok begun rfl
      refine .asking session _ nonempty ?_
      intro reply c
      cases reply with
      | error error =>
          refine .refused _ _ _ ?_
          rintro codes ⟨⟩
      | ok codes =>
          cases refusals : refusedFilters filters codes with
          | nil =>
              have granted : SubscribeTurn i filters audience c (.ok codes) _ _ :=
                .granted codes refusals
              simpa [Program.bind, Program.change, settle, refusals] using granted
          | cons filter more =>
              have refusing : ∀ codes', (Except.ok codes : Except TransportError _) = .ok codes' →
                  refusedFilters filters codes' ≠ [] := by
                rintro codes' ⟨⟩ empty
                rw [refusals] at empty
                cases empty
              have refused : SubscribeTurn i filters audience c (.ok codes) _ _ :=
                .refused _ (.error (.transport (.rejected ("Subscription failure: " ++
                  String.intercalate ", " (filter :: more))))) "Subscription failure" refusing
              simpa [Program.bind, Program.change, settle, refusals] using refused

end Connection

/-! ## Tasks -/

open Connection

variable {i : ConnectionRef}

namespace Action

/-- The connection that an action is about; calls of the console are about none. -/
def connection? : Action → Option ConnectionRef
  | call _ => none
  | direct i _ => some i
  | event i _ _ => some i

/-- Whether an action does no more than calm changes after its first turn. -/
def Plain : Action → Prop
  | call _ => False
  | direct _ c => c.Plain
  | event _ _ _ => True

/-- What can be left of an action that was given these sessions. -/
inductive Staged : (a : Action) → List SessionId → Operation a.Result → Prop where
  | connect {i : ConnectionRef} {p : Profile} {token : Option String} {opened : List SessionId}
      {rest : Operation (Except ConsoleError Bool)} :
      ConnectStage i p token opened rest → Staged (.direct i (.connect p token)) opened rest
  | destroy {i : ConnectionRef} {opened : List SessionId} {rest : Operation Unit} :
      DestroyStage i rest → Staged (.direct i .destroy) opened rest
  | subscribe {i : ConnectionRef} {filters : List FilterRequest} {audience : Audience}
      {opened : List SessionId} {rest : Operation (Except ConsoleError Unit)} :
      SubscribeStage i filters audience rest →
      Staged (.direct i (.subscribe filters audience)) opened rest
  | plain {a : Action} {opened : List SessionId} {rest : Operation a.Result} : a.Plain →
      (∀ i, a.connection? = some i → rest.Every (Console.Alters i Calm)) → Staged a opened rest

variable {a : Action}

theorem lasting_program (about : a.connection? = some i) :
    a.program.Every (Console.Alters i Lasting) := by
  cases a with
  | call => cases about
  | direct j call =>
      cases about
      exact call.lasting_program
  | event j session event =>
      cases about
      exact lasting_react

theorem staged_settle (about : a.connection? ≠ none) (c : Console) :
    a.Staged [] (a.program.settle c).1 := by
  cases a with
  | call => exact absurd rfl about
  | event j session event =>
      refine .plain trivial ?_
      rintro i ⟨⟩
      exact calm_settle_react
  | direct j call =>
      have calm : call.Plain → (Action.direct j call).Staged [] ((call.program j).settle c).1 := by
        intro plain
        refine .plain plain ?_
        rintro i ⟨⟩
        exact (settle_calm (Call.calm_program plain) c).2
      cases call with
      | connect p token => exact .connect (connect_begun j p token c).stage
      | destroy => exact .destroy (destroy_begun j c).stage
      | subscribe filters audience => exact .subscribe (subscribe_begun c)
      | _ => exact calm trivial

/-- What is left of an action goes from place to place. -/
theorem Staged.settle {opened : List SessionId} {r : Request}
    {next : r.Reply → Operation a.Result} (h : a.Staged opened (.request r next))
    (reply : r.Reply) (c : Console) :
    a.Staged (opened ++ (Exchange.opened? ⟨r, reply⟩).toList) ((next reply).settle c).1 := by
  cases h with
  | connect stage => exact .connect (stage.turn rfl reply c).stage
  | destroy stage => exact .destroy (stage.turn rfl reply c).stage
  | subscribe stage =>
      cases stage with
      | asking session next nonempty turn => exact .subscribe (turn reply c).stage
  | plain tame every => exact .plain tame fun i own => (settle_calm (every i own reply) c).2

end Action

/-- Whether a call or an event that is about a connection stands where it can. -/
structure Task.Staged (t : Task) : Prop where
  about : t.action.connection? ≠ none
  waits : t.rest.Waits
  lasting : ∀ i, t.action.connection? = some i → t.rest.Every (Console.Alters i Lasting)
  stage : t.action.Staged t.opened t.rest

/-- Whether no call of the console begins. -/
def Turn.Direct (t : Turn) : Prop :=
  match t.tick with
  | .start a => a.connection? ≠ none
  | _ => True

instance : (t : Turn) → Decidable t.Direct
  | ⟨_, .start a, _⟩ => inferInstanceAs (Decidable (a.connection? ≠ none))
  | ⟨_, .resume _, _⟩ | ⟨_, .reply _ _ _, _⟩ | ⟨_, .outside, _⟩ => inferInstanceAs (Decidable True)

namespace Task.Staged

variable {task : Task} {r : Request} {next : r.Reply → Operation task.action.Result}

theorem begun {a : Action} (about : a.connection? ≠ none) (c : Console) :
    Task.Staged ⟨a, c, [], (a.program.settle c).1⟩ where
  about := about
  waits := waits_settle _ c
  lasting _ own := (settle_lasting (Action.lasting_program own) c).2
  stage := Action.staged_settle about c

theorem every_next (h : task.Staged) (left : task.rest = .request r next)
    (own : task.action.connection? = some i) (reply : r.Reply) :
    (next reply).Every (Console.Alters i Lasting) := by
  have every := h.lasting i own
  rw [left] at every
  exact every reply

/-- Where a task that waits for a reply stands. -/
theorem waiting (h : task.Staged) (left : task.rest = .request r next) :
    task.action.Staged task.opened (.request r next) := by
  have stage := h.stage
  rwa [left] at stage

theorem replied (h : task.Staged) (left : task.rest = .request r next) (reply : r.Reply)
    (c : Console) : (task.replied r reply ((next reply).settle c).1).Staged where
  about := h.about
  waits := waits_settle _ c
  lasting _ own := (settle_lasting (h.every_next left own reply) c).2
  stage := by
    rw [Task.opened_replied]
    exact (h.waiting left).settle reply c

end Task.Staged

namespace Traffic

variable {T T' : Traffic} {tick : Tick}

def Staged (T : Traffic) : Prop := ∀ task ∈ T.tasks, task.Staged

/-- A turn that a connection has a part in. -/
inductive Own (i : ConnectionRef) (T : Traffic) : Tick → Traffic → Prop where
  | start {a : Action} : a.connection? = some i → a.Enabled T.scene →
      Own i T (.start a) (T.enter .long a)
  | reply {k : Nat} {task : Task} {r : Request} {reply : r.Reply}
      {next : r.Reply → Operation task.action.Result} :
      task.action.connection? = some i → T.tasks[k]? = some task → task.Staged →
      task.rest = .request r next → T.scene.Permits r reply →
      Own i T (.reply k r reply) (T.answer .long k task r reply (next reply))

theorem alters_enter {a : Action} (own : a.connection? = some i) :
    T.scene.console.Alters i Lasting (T.enter .long a).scene.console :=
  (settle_lasting (Action.lasting_program own) _).1

theorem alters_answer {k : Nat} {task : Task} {r : Request}
    {next : r.Reply → Operation task.action.Result} (own : task.action.connection? = some i)
    (staged : task.Staged) (left : task.rest = .request r next) (reply : r.Reply) :
    T.scene.console.Alters i Lasting
      (T.answer .long k task r reply (next reply)).scene.console :=
  (settle_lasting (staged.every_next left own reply) _).1

theorem Own.alters (h : Own i T tick T') :
    T.scene.console.Alters i Lasting T'.scene.console := by
  cases h with
  | start own => exact alters_enter own
  | @reply k task r reply next own there staged left => exact alters_answer own staged left reply

theorem staged_quiet (s : Scene) : (quiet s).Staged :=
  fun _ member => absurd member List.not_mem_nil

theorem Staged.step (h : T.Staged) (step : Step .long T tick T')
    (direct : (⟨T, tick, T'⟩ : Turn).Direct) : T'.Staged := by
  intro task member
  cases step with
  | @start a enabled =>
      rcases List.mem_append.1 member with member | member
      · exact h task member
      · rw [List.mem_singleton.1 member]
        exact .begun direct T.scene.console
  | @resume k mover change next there left =>
      -- No task stands before a step.
      have waits := (h mover (List.mem_of_getElem? there)).waits
      rw [left] at waits
      exact waits.elim
  | @reply k mover r reply next there left permitted =>
      rcases List.mem_or_eq_of_mem_set member with member | moved
      · exact h task member
      · rw [moved]
        exact (h mover (List.mem_of_getElem? there)).replied left reply T.scene.console
  | outside => exact h task member

/-- A turn that a connection has no part in. -/
structure Aside (i : ConnectionRef) (T : Traffic) (tick : Tick) (T' : Traffic) : Prop where
  length : T'.scene.console.connections.length = T.scene.console.connections.length
  connection : T'.connection i = T.connection i
  tasks : ∀ task ∈ T'.tasks, task.action.connection? = some i → task ∈ T.tasks
  elsewhere : ∀ {k task}, (⟨T, tick, T'⟩ : Turn).mover = some k →
    T.tasks[k]? = some task ∨ T'.tasks[k]? = some task → task.action.connection? ≠ some i

theorem Staged.own_or_aside (h : T.Staged) (step : Step .long T tick T')
    (direct : (⟨T, tick, T'⟩ : Turn).Direct) (i : ConnectionRef) :
    Own i T tick T' ∨ Aside i T tick T' := by
  cases step with
  | @start a enabled =>
      rcases Option.ne_none_iff_exists'.1 direct with ⟨j, about⟩
      by_cases same : j = i
      · subst same
        exact Or.inl (.start about enabled)
      · have elsewhere : a.connection? ≠ some i :=
          fun own => same (Option.some.inj (about.symm.trans own))
        have alters := alters_enter (T := T) about
        refine Or.inr ⟨alters.length, alters.others (Ne.symm same), ?_, ?_⟩
        · intro task member own
          rcases List.mem_append.1 member with member | member
          · exact member
          · rw [List.mem_singleton.1 member] at own
            exact absurd own elsewhere
        · rintro k task ⟨⟩ (there | there)
          · simp at there
          · rw [get?_enter_self] at there
            cases there
            exact elsewhere
  | @resume k mover change next there left =>
      have waits := (h mover (List.mem_of_getElem? there)).waits
      rw [left] at waits
      exact waits.elim
  | @reply k mover r reply next there left permitted =>
      have staged := h mover (List.mem_of_getElem? there)
      rcases Option.ne_none_iff_exists'.1 staged.about with ⟨j, about⟩
      by_cases same : j = i
      · subst same
        exact Or.inl (.reply about there staged left permitted)
      · have elsewhere : mover.action.connection? ≠ some i :=
          fun own => same (Option.some.inj (about.symm.trans own))
        have alters := alters_answer (T := T) (k := k) about staged left reply
        refine Or.inr ⟨alters.length, alters.others (Ne.symm same), ?_, ?_⟩
        · intro task member own
          rcases List.mem_or_eq_of_mem_set member with member | moved
          · exact member
          · rw [moved] at own
            exact absurd own elsewhere
        · rintro k' task ⟨⟩ (there' | there')
          · rw [there] at there'
            cases there'
            exact elsewhere
          · rw [get?_answer_self .long there] at there'
            cases there'
            exact elsewhere
  | outside outside =>
      exact Or.inr ⟨outside.length, outside.connection, fun task member _ => member, nofun⟩

theorem Run.staged {s : Scene} {turns : List Turn} (run : Run .long (quiet s) turns T)
    (direct : ∀ t ∈ turns, t.Direct) : T.Staged := by
  induction run with
  | start => exact staged_quiet s
  | step previous step ih =>
      have before := ih fun t member => direct t (List.mem_append_left _ member)
      exact before.step step (direct _ (by simp))

end Traffic

end DeviceConsole
