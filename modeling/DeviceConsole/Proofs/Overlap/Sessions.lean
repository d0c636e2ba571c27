import DeviceConsole.Proofs.Overlap.Stages

/-!
# What becomes of sessions

A connect call is given a session, and the connection holds it until a call closes it or it ends by
itself.  Two connects of one connection must not be under way at once, since the later session would
take the place of the earlier one.  This file defines:

* `Traffic.Returned`, `Traffic.Asked` and `Traffic.Ended`: a session was given to a connection, was
  to be closed, or ended by itself;
* `Turn.Closes` and `Turn.Ends`: a call takes a session in this turn, to close it, or it ends;
* `Traffic.Alone`: at most one connect of a connection is under way;
* `Traffic.Orderly`, which every turn keeps;
* `Traffic.Run.session_held_or_closed`, that no session is lost, and runs in which one is.
-/

namespace DeviceConsole

open Operation Connection

/-! ## Sessions given, closed and ended -/

variable {i : ConnectionRef} {session : SessionId}

namespace Action

def connects (i : ConnectionRef) : Action → Bool
  | direct j (.connect _ _) => j = i
  | _ => false

def ends (i : ConnectionRef) (session : SessionId) : Action → Bool
  | event j s .ended => j = i && s = session
  | _ => false

/-- Whether an action takes the session from a connection, to close it. -/
def takes (i : ConnectionRef) : Action → Bool
  | direct j (.connect _ _) | direct j .destroy => j = i
  | _ => false

end Action

def Task.connecting (i : ConnectionRef) (t : Task) : Bool := t.action.connects i && !t.isOver

theorem Task.connecting_iff {t : Task} :
    t.connecting i = true ↔ t.action.connects i = true ∧ t.isOver = false := by
  simp [Task.connecting]

namespace Traffic

def Returned (i : ConnectionRef) (session : SessionId) (T : Traffic) : Prop :=
  ∃ task ∈ T.tasks, task.action.connects i = true ∧ session ∈ task.opened

def Asked (session : SessionId) (T : Traffic) : Prop :=
  ∃ task ∈ T.tasks, .close session ∈ task.requests

def Ended (i : ConnectionRef) (session : SessionId) (T : Traffic) : Prop :=
  ∃ task ∈ T.tasks, task.action.ends i session = true

def Finished (i : ConnectionRef) (session : SessionId) (T : Traffic) : Prop :=
  T.Asked session ∨ T.Ended i session

/-- A call took the session from the connection, and waits until it is closed. -/
def Closing (i : ConnectionRef) (session : SessionId) (T : Traffic) : Prop :=
  ∃ task ∈ T.tasks, task.action.takes i = true ∧ task.opened = [] ∧
    task.rest.pending? = some (.close session)

/-- At most one connect of the connection is under way. -/
def Alone (i : ConnectionRef) (T : Traffic) : Prop :=
  T.tasks.Pairwise fun a b => ¬ (a.connecting i = true ∧ b.connecting i = true)

instance (T : Traffic) : Decidable (T.Returned i session) :=
  inferInstanceAs (Decidable (∃ task ∈ T.tasks, _ ∧ _))

instance (T : Traffic) : Decidable (T.Asked session) :=
  inferInstanceAs (Decidable (∃ task ∈ T.tasks, _ ∈ task.requests))

instance (T : Traffic) : Decidable (T.Ended i session) :=
  inferInstanceAs (Decidable (∃ task ∈ T.tasks, _ = true))

instance (T : Traffic) : Decidable (T.Closing i session) :=
  inferInstanceAs (Decidable (∃ task ∈ T.tasks, _ ∧ _ ∧ _ = _))

instance (T : Traffic) : Decidable (T.Alone i) :=
  inferInstanceAs (Decidable (T.tasks.Pairwise _))

theorem Alone.eq {T : Traffic} (h : T.Alone i) {j k : Nat} {a b : Task}
    (first : T.tasks[j]? = some a) (second : T.tasks[k]? = some b) (ha : a.connecting i = true)
    (hb : b.connecting i = true) : j = k := by
  rcases List.getElem?_eq_some_iff.1 first with ⟨hj, rfl⟩
  rcases List.getElem?_eq_some_iff.1 second with ⟨hk, rfl⟩
  have apart := List.pairwise_iff_getElem.1 h
  rcases Nat.lt_trichotomy j k with less | same | more
  · exact absurd ⟨ha, hb⟩ (apart j k hj hk less)
  · exact same
  · exact absurd ⟨hb, ha⟩ (apart k j hk hj more)

end Traffic

/-- A call that begins in this turn takes the session from the connection, and waits until it is
closed. -/
def Turn.Closes (i : ConnectionRef) (session : SessionId) (t : Turn) : Prop :=
  ∃ (a : Action) (rest : Operation a.Result), t.tick = .start a ∧ a.takes i = true ∧
    t.after.tasks = t.before.tasks ++ [⟨a, t.before.scene.console, [], rest⟩] ∧
    rest.pending? = some (.close session)

/-- The connection is told in this turn that the session ended. -/
def Turn.Ends (i : ConnectionRef) (session : SessionId) (t : Turn) : Prop :=
  ∃ a, t.tick = .start a ∧ a.ends i session = true

theorem Turn.Closes.closing {t : Turn} (h : t.Closes i session) : t.after.Closing i session := by
  rcases h with ⟨a, rest, -, mine, begun, waits⟩
  refine ⟨⟨a, t.before.scene.console, [], rest⟩, ?_, mine, rfl, waits⟩
  rw [begun]
  exact List.mem_append_right _ List.mem_cons_self

namespace Traffic

theorem Closing.asked {T : Traffic} (h : T.Closing i session) : T.Asked session := by
  rcases h with ⟨task, member, -, -, waiting⟩
  exact ⟨task, member, by simp [Task.requests, waiting]⟩

/-! ## What a turn keeps of the past -/

variable {pace : Pace} {T T' : Traffic} {tick : Tick}

/-- What is true of a task and stays true while it goes on stays true of some task. -/
theorem Step.persists {holds : Task → Prop} (step : Step pace T tick T')
    (resumed : ∀ (task : Task) change next rest, task.rest = .step change next → holds task →
      holds { task with rest := rest })
    (replied : ∀ (task : Task) r next reply rest, task.rest = .request r next → holds task →
      holds (task.replied r reply rest))
    (h : ∃ task ∈ T.tasks, holds task) : ∃ task ∈ T'.tasks, holds task := by
  rcases h with ⟨task, member, fact⟩
  -- Only the task whose turn it is changes.
  have moved : ∀ {k mover} {new : Task}, T.tasks[k]? = some mover → (holds mover → holds new) →
      ∃ task ∈ T.tasks.set k new, holds task := by
    intro k mover new there kept
    rcases List.mem_iff_getElem?.1 member with ⟨j, found⟩
    by_cases same : j = k
    · subst same
      rw [there] at found
      cases found
      have inside := (List.getElem?_eq_some_iff.1 there).1
      exact ⟨new, List.mem_of_getElem? (List.getElem?_set_self inside), kept fact⟩
    · have stays : (T.tasks.set k new)[j]? = some task := by
        rwa [List.getElem?_set_ne (Ne.symm same)]
      exact ⟨task, List.mem_of_getElem? stays, fact⟩
  cases step with
  | start enabled => exact ⟨task, List.mem_append_left _ member, fact⟩
  | resume there left => exact moved there (resumed _ _ _ _ left)
  | reply there left permitted => exact moved there (replied _ _ _ _ _ left)
  | outside => exact ⟨task, member, fact⟩

theorem Returned.step (h : T.Returned i session) (step : Step pace T tick T') :
    T'.Returned i session := by
  refine step.persists ?_ ?_ h
  · intro task change next rest left given
    exact given
  · intro task r next reply rest left ⟨connects, given⟩
    rw [Task.opened_replied]
    exact ⟨connects, List.mem_append_left _ given⟩

theorem Asked.step (h : T.Asked session) (step : Step pace T tick T') : T'.Asked session := by
  refine step.persists ?_ ?_ h
  · intro task change next rest left asked
    simp only [Task.requests, left, pending?, Option.toList, List.append_nil] at asked
    exact List.mem_append_left _ asked
  · intro task r next reply rest left asked
    rw [Task.requests_replied left]
    exact List.mem_append_left _ asked

theorem Ended.step (h : T.Ended i session) (step : Step pace T tick T') : T'.Ended i session :=
  step.persists (fun _ _ _ _ _ ended => ended) (fun _ _ _ _ _ _ ended => ended) h

theorem ended_of_ends (step : Step pace T tick T') (h : Turn.Ends i session ⟨T, tick, T'⟩) :
    T'.Ended i session := by
  rcases h with ⟨a, same, ends⟩
  cases same
  cases step with
  | start enabled => exact ⟨_, List.mem_of_getElem? (get?_enter_self T pace a), ends⟩

theorem Finished.step (h : T.Finished i session) (step : Step pace T tick T') :
    T'.Finished i session :=
  h.imp (·.step step) (·.step step)

end Traffic

/-! ## What a turn does to the session -/

namespace Connection

variable {c c' : Console} {p : Profile} {token : Option String}

theorem session_update_none {change : Connection → Connection}
    (bare : ∀ x, (change x).session = none) :
    ((c.update i change).connection i).session = none :=
  Console.connection_update_induction (P := fun x => x.session = none) rfl bare

/-- Whether a call took the session, if there was one, and is about to close it. -/
structure Takes {α : Type} (i : ConnectionRef) (c : Console) (rest : Operation α) (c' : Console) :
    Prop where
  vacant : (c'.connection i).session = none
  closing : ∀ session, (c.connection i).session = some session →
    rest.pending? = some (.close session)

theorem ConnectBegun.takes {rest : Operation (Except ConsoleError Bool)}
    (h : ConnectBegun i p token c rest c') : (rest.isOver = true ∧ c' = c) ∨ Takes i c rest c' := by
  have taken : ((c.holdGate.update i fun connection =>
      { connection with session := none }).connection i).session = none :=
    session_update_none fun _ => rfl
  cases h with
  | refused result => exact Or.inl ⟨rfl, rfl⟩
  | replacing session replaced alive held =>
      refine Or.inr ⟨taken, ?_⟩
      intro other holds
      rw [held] at holds
      cases holds
      rfl
  | opening middle alive bare same =>
      have prepared : (middle.connection i).Fading ((prepare i p token middle).2.connection i) :=
        fading_prepare.own
      refine Or.inr ⟨?_, ?_⟩
      · rw [prepared.session, same]
        exact taken
      · intro session holds
        rw [bare] at holds
        cases holds

theorem DestroyBegun.takes {rest : Operation Unit} (h : DestroyBegun i c rest c') :
    c' = c ∨ Takes i c rest c' := by
  have taken : ((c.update i fun connection =>
      { connection with destroyed := true, session := none }).connection i).session = none :=
    session_update_none fun _ => rfl
  cases h with
  | again => exact Or.inl rfl
  | bare alive bare =>
      refine Or.inr ⟨calm_finishDestroy.own.session.trans taken, ?_⟩
      intro session holds
      rw [bare] at holds
      cases holds
  | closing session previous alive held =>
      refine Or.inr ⟨taken, ?_⟩
      intro other holds
      rw [held] at holds
      cases holds
      rfl

theorem session_adopt (hi : i < c.connections.length) (alive : (c.connection i).destroyed = false)
    (session : SessionId) : ((adopt i session c).2.connection i).session = some session := by
  have kept : (adopt i session c).2.connections = (c.update i fun connection =>
      { connection with session := some session }).connections := by
    simp [adopt, alive]
  rw [Console.connection, kept, ← Console.connection, Console.connection_update_self hi]

theorem DestroyTurn.keeps_session {rest : Operation Unit} (h : DestroyTurn i c rest c') :
    (c'.connection i).session = (c.connection i).session := by
  cases h with
  | finished previous => exact calm_finishDestroy.own.session

theorem SubscribeTurn.keeps_session {filters : List FilterRequest} {audience : Audience}
    {reply : Except TransportError (List UInt8)} {rest : Operation (Except ConsoleError Unit)}
    (h : SubscribeTurn i filters audience c reply rest c') :
    (c'.connection i).session = (c.connection i).session := by
  cases h with
  | granted =>
      have marked : c.Alters i Steady (c.present i (Snapshot.mark true (filters.map (·.1)))) :=
        steady_present
      cases audience <;> exact marked.own.session
  | refused => exact (calm_report audience _).own.session

/-- An event that ends a session takes it from the connection, and its live filters. -/
theorem onEnded_keeps_or_bares (i : ConnectionRef) (session : SessionId) (c : Console) :
    onEnded i session c = c ∨ (c.connection i).session = some session ∧
      ((onEnded i session c).connection i).session = none ∧
      ((onEnded i session c).connection i).snapshot.active = [] := by
  have bare : ((c.update i fun connection =>
      { connection with session := none }.present fun s =>
        { s with status := .disconnected, live := .empty }).connection i).session = none ∧
      ((c.update i fun connection =>
        { connection with session := none }.present fun s =>
          { s with status := .disconnected, live := .empty }).connection i).snapshot.active = [] :=
    ⟨session_update_none fun _ => rfl,
      Console.connection_update_induction (P := fun x => x.snapshot.active = []) rfl fun _ => rfl⟩
  simp only [onEnded]
  split
  · next owns =>
      refine Or.inr ⟨of_decide_eq_true owns, ?_⟩
      split <;> exact bare
  · exact Or.inl rfl

end Connection

namespace Action

variable {a : Action} {c c' : Console}

theorem eq_connect (h : a.connects i = true) : ∃ p token, a = .direct i (.connect p token) := by
  cases a with
  | call | event => cases h
  | direct j call =>
      cases call with
      | connect p token => exact ⟨p, token, by rw [of_decide_eq_true h]⟩
      | _ => cases h

theorem not_plain_of_connects (h : a.connects i = true) : ¬ a.Plain := by
  rcases eq_connect h with ⟨p, token, rfl⟩
  exact id

theorem connection?_of_connects (h : a.connects i = true) : a.connection? = some i := by
  rcases eq_connect h with ⟨p, token, rfl⟩
  rfl

/-- What the first turn of an action does to the session of its connection. -/
inductive Begun (i : ConnectionRef) (c : Console) (a : Action) (rest : Operation a.Result)
    (c' : Console) : Prop where
  /-- It stays.  A connect is refused then. -/
  | kept : (c'.connection i).session = (c.connection i).session →
      (a.connects i = true → rest.isOver = true) → Begun i c a rest c'
  | taken : Takes i c rest c' → a.takes i = true → Begun i c a rest c'
  | ended (session : SessionId) : a.ends i session = true →
      (c.connection i).session = some session → (c'.connection i).session = none →
      (c'.connection i).snapshot.active = [] → Begun i c a rest c'

theorem begun (own : a.connection? = some i) (c : Console) :
    Begun i c a (a.program.settle c).1 (a.program.settle c).2 := by
  cases a with
  | call => cases own
  | event j s event =>
      cases own
      by_cases last : event = .ended
      · subst last
        rcases onEnded_keeps_or_bares i s c with same | ⟨held, gone, bare⟩
        · exact .kept (congrArg (fun c => (c.connection i).session) same) nofun
        · exact .ended s (by simp [ends]) held gone bare
      · exact .kept (settle_fading (fading_react last) c).1.own.session nofun
  | direct j call =>
      cases own
      by_cases plain : call.Plain
      · refine .kept (settle_calm (Call.calm_program plain) c).1.own.session ?_
        intro connects
        exact absurd plain (not_plain_of_connects connects)
      · cases call with
        | connect p token =>
            rcases (connect_begun i p token c).takes with ⟨returned, same⟩ | takes
            · exact .kept (congrArg (fun c => (c.connection i).session) same) fun _ => returned
            · exact .taken takes (decide_eq_true rfl)
        | destroy =>
            rcases (destroy_begun i c).takes with same | takes
            · exact .kept (congrArg (fun c => (c.connection i).session) same) nofun
            · exact .taken takes (decide_eq_true rfl)
        | subscribe filters audience =>
            exact .kept (settle_steady steady_subscribe c).1.own.session nofun
        | _ => exact absurd trivial plain

/-- What a later turn of an action that was given these sessions does to the session of its
connection. -/
inductive Resumed (i : ConnectionRef) (c : Console) (a : Action) (opened : List SessionId)
    (e : Exchange) (rest : Operation a.Result) (c' : Console) : Prop where
  | kept : (c'.connection i).session = (c.connection i).session →
      (a.connects i = true → e.opened? = none) → Resumed i c a opened e rest c'
  /-- A new session is closed at once. -/
  | abandoned (session : SessionId) : (c'.connection i).session = (c.connection i).session →
      e.opened? = some session → rest.pending? = some (.close session) →
      Resumed i c a opened e rest c'
  /-- The connection gets the new session, or the old one back if it could not be closed. -/
  | put : a.connects i = true → opened = [] → rest.isOver = true →
      (i < c.connections.length → ∀ session, e.opened? = some session →
        (c'.connection i).session = some session) →
      Resumed i c a opened e rest c'

theorem resumed_connect {p : Profile} {token : Option String} {opened : List SessionId}
    {r : Request} {reply : r.Reply} {rest : Operation (Except ConsoleError Bool)}
    (turn : ConnectTurn i p token c opened r reply rest c') :
    Resumed i c (.direct i (.connect p token)) opened ⟨r, reply⟩ rest c' := by
  have mine : (Action.direct i (.connect p token)).connects i = true := decide_eq_true rfl
  cases turn with
  | restored session error => exact .put mine rfl rfl fun _ _ given => by cases given
  | replaced session console same =>
      refine .kept ?_ fun _ => rfl
      have prepared : (console.connection i).Fading ((prepare i p token console).2.connection i) :=
        fading_prepare.own
      rw [prepared.session, Console.connection, Console.connection, same]
  | failed options error => exact .kept fading_failOpen.own.session fun _ => rfl
  | adopted options session alive =>
      refine .put mine rfl rfl ?_
      rintro inside session ⟨⟩
      exact session_adopt inside alive session
  | abandoned options session => exact .abandoned session rfl rfl rfl
  | ended session reply => exact .kept rfl fun _ => rfl

theorem Staged.resumed {opened : List SessionId} {r : Request}
    {next : r.Reply → Operation a.Result} (h : a.Staged opened (.request r next))
    (own : a.connection? = some i) (reply : r.Reply) (c : Console) :
    Resumed i c a opened ⟨r, reply⟩ ((next reply).settle c).1 ((next reply).settle c).2 := by
  cases h with
  | connect stage =>
      cases own
      exact resumed_connect (stage.turn rfl reply c)
  | destroy stage =>
      cases own
      exact .kept (stage.turn rfl reply c).keeps_session nofun
  | subscribe stage =>
      cases own
      cases stage with
      | asking s next nonempty turn => exact .kept (turn reply c).keeps_session nofun
  | plain tame every =>
      refine .kept (settle_calm (every i own reply) c).1.own.session ?_
      intro connects
      exact absurd tame (not_plain_of_connects connects)

end Action

/-! ## Connects that do not overlap -/

namespace Traffic

variable {T T' : Traffic} {tick : Tick}

/-- What holds of a connection whose connects do not overlap. -/
structure Orderly (i : ConnectionRef) (T : Traffic) : Prop where
  staged : T.Staged
  inside : ∀ task ∈ T.tasks, task.action.connects i = true →
    i < T.scene.console.connections.length
  /-- A connect takes the session before it asks for a new one. -/
  vacant : ∀ task ∈ T.tasks, task.connecting i = true → task.opened = [] →
    (T.connection i).session = none
  accounted : ∀ session, T.Returned i session →
    (T.connection i).session = some session ∨ T.Finished i session

theorem connecting_of_request {task : Task} {r : Request}
    {next : r.Reply → Operation task.action.Result} (connects : task.action.connects i = true)
    (left : task.rest = .request r next) : task.connecting i = true := by
  refine Task.connecting_iff.2 ⟨connects, ?_⟩
  rw [Task.isOver, left]
  rfl

theorem orderly_quiet (s : Scene) : (quiet s).Orderly i where
  staged := staged_quiet s
  inside _ member := absurd member List.not_mem_nil
  vacant _ member := absurd member List.not_mem_nil
  accounted := by
    rintro session ⟨task, member, -⟩
    exact absurd member List.not_mem_nil

/-- A session that the connection holds is only given up in a turn in which it is to be closed, or in
which it ends; no filter is live then. -/
theorem Orderly.leaves (h : T.Orderly i) (step : Step .long T tick T')
    (direct : (⟨T, tick, T'⟩ : Turn).Direct) (held : (T.connection i).session = some session) :
    (T'.connection i).session = some session ∨ ((T'.connection i).session = none ∧
      (Turn.Closes i session ⟨T, tick, T'⟩ ∨
        (Turn.Ends i session ⟨T, tick, T'⟩ ∧ (T'.connection i).snapshot.active = []))) := by
  rcases h.staged.own_or_aside step direct i with own | aside
  · cases own with
    | @start a own enabled =>
        cases Action.begun own T.scene.console with
        | kept same => exact Or.inl (same.trans held)
        | taken takes mine =>
            have waits := takes.closing session held
            exact Or.inr ⟨takes.vacant, Or.inl ⟨a, _, rfl, mine, rfl, waits⟩⟩
        | ended last ends holds gone bare =>
            have same : last = session := Option.some.inj (holds.symm.trans held)
            subst same
            exact Or.inr ⟨gone, Or.inr ⟨⟨a, rfl, ends⟩, bare⟩⟩
    | @reply k mover r reply next own there staged left permitted =>
        have stage := staged.waiting left
        cases stage.resumed own reply T.scene.console with
        | kept same | abandoned _ same => exact Or.inl (same.trans held)
        | put connects none =>
            -- A connect puts a session only where there is none.
            have vacant := h.vacant mover (List.mem_of_getElem? there)
              (connecting_of_request connects left) none
            rw [vacant] at held
            cases held
  · rw [aside.connection]
    exact Or.inl held

theorem Orderly.given_up (h : T.Orderly i) (step : Step .long T tick T')
    (direct : (⟨T, tick, T'⟩ : Turn).Direct) (held : (T.connection i).session = some session) :
    (T'.connection i).session = some session ∨ ((T'.connection i).session = none ∧
      (T'.Closing i session ∨
        (T'.Ended i session ∧ (T'.connection i).snapshot.active = []))) :=
  (h.leaves step direct held).imp_right fun gone =>
    ⟨gone.1, gone.2.imp Turn.Closes.closing (And.imp_left (ended_of_ends step))⟩

theorem Orderly.held (h : T.Orderly i) (step : Step .long T tick T')
    (direct : (⟨T, tick, T'⟩ : Turn).Direct) (held : (T.connection i).session = some session) :
    (T'.connection i).session = some session ∨
      ((T'.connection i).session = none ∧ T'.Finished i session) :=
  (h.given_up step direct held).imp_right fun gone =>
    ⟨gone.1, gone.2.imp Closing.asked And.left⟩

theorem Orderly.inside_step (h : T.Orderly i) (step : Step .long T tick T')
    (direct : (⟨T, tick, T'⟩ : Turn).Direct) : ∀ task ∈ T'.tasks,
      task.action.connects i = true → i < T'.scene.console.connections.length := by
  intro task member connects
  rcases h.staged.own_or_aside step direct i with own | aside
  · rw [own.alters.length]
    cases own with
    | start own enabled =>
        rcases List.mem_append.1 member with member | member
        · exact h.inside task member connects
        · rw [List.mem_singleton.1 member] at connects
          rcases Action.eq_connect connects with ⟨p, token, rfl⟩
          exact enabled
    | @reply k mover r reply next own there staged left permitted =>
        rcases List.mem_or_eq_of_mem_set member with member | moved
        · exact h.inside task member connects
        · rw [moved] at connects
          exact h.inside mover (List.mem_of_getElem? there) connects
  · rw [aside.length]
    exact h.inside task (aside.tasks task member (Action.connection?_of_connects connects)) connects

theorem Orderly.vacant_enter (h : T.Orderly i) {a : Action} (own : a.connection? = some i) :
    ∀ task ∈ (T.enter .long a).tasks, task.connecting i = true → task.opened = [] →
      ((T.enter .long a).connection i).session = none := by
  intro task member connecting empty
  cases Action.begun own T.scene.console with
  | kept same refused =>
      rcases List.mem_append.1 member with member | member
      · exact same.trans (h.vacant task member connecting empty)
      · -- A connect that is let through does not keep the session.
        rw [List.mem_singleton.1 member] at connecting
        rcases Task.connecting_iff.1 connecting with ⟨connects, under⟩
        have returned : (a.program.settle T.scene.console).1.isOver = true := refused connects
        cases returned.symm.trans under
  | taken takes => exact takes.vacant
  | ended last ends holds gone => exact gone

section Answer

variable {k : Nat} {mover : Task} {r : Request} {next : r.Reply → Operation mover.action.Result}

theorem Orderly.vacant_answer (h : T.Orderly i) (alone : T.Alone i)
    (own : mover.action.connection? = some i) (there : T.tasks[k]? = some mover)
    (left : mover.rest = .request r next) (reply : r.Reply) :
    ∀ task ∈ (T.answer .long k mover r reply (next reply)).tasks,
      task.connecting i = true → task.opened = [] →
      ((T.answer .long k mover r reply (next reply)).connection i).session = none := by
  intro task member connecting empty
  have present := List.mem_of_getElem? there
  have stage := (h.staged mover present).waiting left
  cases stage.resumed own reply T.scene.console with
  | kept same given =>
      refine same.trans ?_
      rcases List.mem_or_eq_of_mem_set member with member | moved
      · exact h.vacant task member connecting empty
      · have connects : mover.action.connects i = true := by
          rw [moved] at connecting
          exact (Task.connecting_iff.1 connecting).1
        rw [moved, Task.opened_replied, given connects] at empty
        have before := connecting_of_request connects left
        exact h.vacant mover present before (List.append_eq_nil_iff.1 empty).1
  | abandoned session same given =>
      refine same.trans ?_
      rcases List.mem_or_eq_of_mem_set member with member | moved
      · exact h.vacant task member connecting empty
      · rw [moved, Task.opened_replied, given] at empty
        cases (List.append_eq_nil_iff.1 empty).2
  | put mine none returned =>
      rcases List.mem_iff_getElem?.1 member with ⟨j, found⟩
      by_cases here : j = k
      · -- The connect that put a session there is over.
        subst here
        rw [get?_answer_self .long there] at found
        cases found
        have under : ((next reply).settle T.scene.console).1.isOver = false :=
          (Task.connecting_iff.1 connecting).2
        cases returned.symm.trans under
      · -- Another connect would have been under way beside it.
        rw [get?_answer_of_ne .long here] at found
        have before := connecting_of_request mine left
        exact absurd (alone.eq found there connecting before) here

/-- A session that a connect is given is held from then on, or closed at once. -/
theorem Orderly.given_answer (h : T.Orderly i) (own : mover.action.connection? = some i)
    (there : T.tasks[k]? = some mover) (left : mover.rest = .request r next) {reply : r.Reply}
    (connects : mover.action.connects i = true)
    (opened : Exchange.opened? ⟨r, reply⟩ = some session) :
    ((T.answer .long k mover r reply (next reply)).connection i).session = some session ∨
      (T.answer .long k mover r reply (next reply)).Asked session := by
  have present := List.mem_of_getElem? there
  have stage := (h.staged mover present).waiting left
  cases stage.resumed own reply T.scene.console with
  | kept same none =>
      rw [none connects] at opened
      cases opened
  | abandoned new same gave closing =>
      have same : new = session := Option.some.inj (gave.symm.trans opened)
      subst same
      have asked : .close new ∈
          (mover.replied r reply ((next reply).settle T.scene.console).1).requests := by
        rw [Task.requests_replied left, closing]
        exact List.mem_append_right _ List.mem_cons_self
      have entered := List.mem_of_getElem? (get?_answer_self .long there r reply (next reply))
      exact Or.inr ⟨_, entered, asked⟩
  | put mine none returned gets =>
      exact Or.inl (gets (h.inside mover present connects) session opened)

end Answer

theorem Orderly.vacant_step (h : T.Orderly i) (alone : T.Alone i) (step : Step .long T tick T')
    (direct : (⟨T, tick, T'⟩ : Turn).Direct) : ∀ task ∈ T'.tasks,
      task.connecting i = true → task.opened = [] → (T'.connection i).session = none := by
  rcases h.staged.own_or_aside step direct i with own | aside
  · cases own with
    | start own enabled => exact h.vacant_enter own
    | reply own there staged left permitted => exact h.vacant_answer alone own there left _
  · intro task member connecting empty
    rw [aside.connection]
    have about := Action.connection?_of_connects (Task.connecting_iff.1 connecting).1
    exact h.vacant task (aside.tasks task member about) connecting empty

theorem Orderly.accounted_step (h : T.Orderly i) (step : Step .long T tick T')
    (direct : (⟨T, tick, T'⟩ : Turn).Direct) : ∀ session, T'.Returned i session →
      (T'.connection i).session = some session ∨ T'.Finished i session := by
  intro session returned
  -- A session that was given before this turn is accounted for already.
  have earlier : T.Returned i session →
      (T'.connection i).session = some session ∨ T'.Finished i session := by
    intro returned
    rcases h.accounted session returned with held | finished
    · exact (h.held step direct held).imp_right (·.2)
    · exact Or.inr (finished.step step)
  rcases returned with ⟨task, member, connects, given⟩
  rcases h.staged.own_or_aside step direct i with own | aside
  · cases own with
    | start own enabled =>
        rcases List.mem_append.1 member with member | member
        · exact earlier ⟨task, member, connects, given⟩
        · rw [List.mem_singleton.1 member] at given
          cases given
    | @reply k mover r reply next own there staged left permitted =>
        rcases List.mem_or_eq_of_mem_set member with member | moved
        · exact earlier ⟨task, member, connects, given⟩
        · rw [moved] at connects
          rw [moved, Task.opened_replied] at given
          rcases List.mem_append.1 given with given | given
          · exact earlier ⟨mover, List.mem_of_getElem? there, connects, given⟩
          · have opened := Option.mem_toList.1 given
            exact (h.given_answer own there left connects opened).imp_right Or.inl
  · have about := Action.connection?_of_connects connects
    exact earlier ⟨task, aside.tasks task member about, connects, given⟩

theorem Orderly.step (h : T.Orderly i) (alone : T.Alone i) (step : Step .long T tick T')
    (direct : (⟨T, tick, T'⟩ : Turn).Direct) : T'.Orderly i where
  staged := h.staged.step step direct
  inside := h.inside_step step direct
  vacant := h.vacant_step alone step direct
  accounted := h.accounted_step step direct

/-! ## Runs -/

/-- If the connects of a connection do not overlap, then each session that it was given is the one
that it holds, or was to be closed, or ended by itself.  And no other session ever takes the place of
one that it holds: it leaves the connection without one, in a turn in which a call takes it to close
it, or in which it ends. -/
theorem Run.session_held_or_closed {s : Scene} {turns : List Turn}
    (run : Run .long (quiet s) turns T) (direct : ∀ t ∈ turns, t.Direct)
    (alone : ∀ t ∈ turns, t.before.Alone i) :
    (∀ session, T.Returned i session → (T.connection i).session = some session ∨
      T.Asked session ∨ T.Ended i session) ∧
    ∀ t ∈ turns, ∀ session, (t.before.connection i).session = some session →
      (t.after.connection i).session = some session ∨
        ((t.after.connection i).session = none ∧ (t.Closes i session ∨ t.Ends i session)) := by
  suffices all : T.Orderly i ∧ ∀ t ∈ turns, ∀ session,
      (t.before.connection i).session = some session →
        (t.after.connection i).session = some session ∨
          ((t.after.connection i).session = none ∧ (t.Closes i session ∨ t.Ends i session)) from
    ⟨all.1.accounted, all.2⟩
  induction run with
  | start => exact ⟨orderly_quiet s, fun _ member => absurd member List.not_mem_nil⟩
  | @step turns T T' tick previous step ih =>
      have now : (⟨T, tick, T'⟩ : Turn).Direct := direct _ (by simp)
      have single : T.Alone i := alone ⟨T, tick, T'⟩ (by simp)
      rcases ih (fun t member => direct t (List.mem_append_left _ member))
        (fun t member => alone t (List.mem_append_left _ member)) with ⟨orderly, earlier⟩
      refine ⟨orderly.step single step now, ?_⟩
      intro t member session held
      rcases List.mem_append.1 member with member | member
      · exact earlier t member session held
      · rw [List.mem_singleton.1 member] at held ⊢
        exact (orderly.leaves step now held).imp_right fun gone =>
          ⟨gone.1, gone.2.imp_right And.left⟩

/-- A connection that is up connects again, and is destroyed before it has its second session; the
first one was closed, and the second one is given back. -/
theorem Run.session_held_or_closed_of_reconnect :
    ∃ turns T, Run .long (quiet (.furnished [.default ⟨7⟩])) turns T ∧
      (∀ t ∈ turns, t.Direct) ∧ (∀ t ∈ turns, t.before.Alone 0) ∧
      T.Returned 0 0 ∧ T.Returned 0 1 ∧ (T.connection 0).session = none ∧
      (∀ session, T.Returned 0 session → (T.connection 0).session = some session ∨
        T.Asked session ∨ T.Ended 0 session) := by
  have playable : (quiet (.furnished [.default ⟨7⟩])).Playable .long
      [.start (.direct 0 (.connect (.default ⟨7⟩) none)), .go 0, .start (.event 0 0 .connected),
        .start (.direct 0 (.connect (.default ⟨7⟩) none)), .go 2, .start (.direct 0 .destroy),
        .go 2, .go 2] := by
    decide
  have run := Run.play .start playable
  have accounted := (run.session_held_or_closed (i := 0) (by decide) (by decide)).1
  exact ⟨_, _, run, by decide, by decide, by decide, by decide, by decide, accounted⟩

/-- A session that ended by itself is not closed.  And if the session of another connection fails, a
second connect is let through, whose session takes the place of the first one's. -/
theorem Run.session_lost :
    (∃ turns T, Run .long (quiet (.furnished [.default ⟨7⟩])) turns T ∧
      (∀ t ∈ turns, t.Direct) ∧ (∀ t ∈ turns, t.before.Alone 0) ∧
      T.Returned 0 0 ∧ (T.connection 0).session = none ∧ ¬ T.Asked 0) ∧
    (∃ turns T, Run .long (quiet (.furnished [.default ⟨7⟩, .default ⟨8⟩])) turns T ∧
      (∀ t ∈ turns, t.Direct) ∧
      T.Returned 1 1 ∧ (T.connection 1).session = some 2 ∧ ¬ T.Asked 1 ∧ ¬ T.Ended 1 1 ∧
      ∃ t ∈ turns, (t.before.connection 1).session = some 1 ∧
        (t.after.connection 1).session = some 2) := by
  constructor
  · have playable : (quiet (.furnished [.default ⟨7⟩])).Playable .long
        [.start (.direct 0 (.connect (.default ⟨7⟩) none)), .go 0, .start (.event 0 0 .connected),
          .start (.event 0 0 .ended)] := by
      decide
    have run := Run.play .start playable
    exact ⟨_, _, run, by decide, by decide, by decide, by decide, by decide⟩
  · have playable : (quiet (.furnished [.default ⟨7⟩, .default ⟨8⟩])).Playable .long
        [.start (.direct 0 (.connect (.default ⟨7⟩) none)), .go 0, .start (.event 0 0 .connected),
          .start (.direct 1 (.connect (.default ⟨8⟩) none)), .start (.event 0 0 (.error "")),
          .start (.direct 1 (.connect (.default ⟨8⟩) none)), .go 2, .go 4] := by
      decide
    have run := Run.play .start playable
    exact ⟨_, _, run, by decide, by decide, by decide, by decide, by decide, by decide⟩

end Traffic

end DeviceConsole
