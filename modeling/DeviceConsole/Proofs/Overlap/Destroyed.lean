import DeviceConsole.Proofs.Overlap.Stages

/-!
# Destroyed connections stay destroyed

As soon as a destroy is done, its connection shows that it is destroyed, and no filter is live.
Only calls that were under way by then can still change that.  This file defines:

* `Connection.Retired left x`: the connection is over for good, with the session it is left with;
* `Turn.Destroys i`, the turns in which a destroy is done;
* `Turn.Revives i`, the turns in which a call that is under way gets a reply that makes it change a
  connection although it was destroyed;
* `Traffic.Run.retired_iff`, that nothing else changes it, and runs in which that happens.
-/

namespace DeviceConsole

open Operation Connection

/-- Whether a connection is over for good, with this session if it has one. -/
structure Connection.Retired (left : Option SessionId) (x : Connection) : Prop where
  destroyed : x.destroyed = true
  spent : x.snapshot.Spent
  session : x.session = left

instance (s : Snapshot) : Decidable s.Spent :=
  decidable_of_iff (s.status = .destroyed ∧ s.active = [])
    ⟨fun h => ⟨h.1, h.2⟩, fun h => ⟨h.1, h.2⟩⟩

instance (left : Option SessionId) (x : Connection) : Decidable (x.Retired left) :=
  decidable_of_iff (x.destroyed = true ∧ x.snapshot.Spent ∧ x.session = left)
    ⟨fun h => ⟨h.1, h.2.1, h.2.2⟩, fun h => ⟨h.1, h.2, h.3⟩⟩

/-! ## Turns -/

namespace Action

def destroys (i : ConnectionRef) : Action → Bool
  | direct j .destroy => j = i
  | _ => false

/-- Whether an action that was given these sessions changes what it should leave alone, on a reply
that comes when the connection is over. -/
def Revives (x : Connection) (opened : List SessionId) (e : Exchange) : Action → Prop
  | direct _ (.connect _ _) =>
    match e with
    -- The old session is closed, so the attempt is announced.
    | ⟨.close _, .ok _⟩ => opened = []
    -- The old session is given back.
    | ⟨.close _, .error _⟩ => opened = [] ∧ x.session = none
    -- The failure is announced.
    | ⟨.open _, .error _⟩ => True
    | _ => False
  | direct _ (.subscribe filters _) =>
    match e with
    | ⟨.subscribe _ _, .ok codes⟩ => Connection.refusedFilters filters codes = []
    | _ => False
  | _ => False

instance (x : Connection) (opened : List SessionId) (e : Exchange) :
    (a : Action) → Decidable (a.Revives x opened e)
  | direct _ (.connect _ _) =>
    match e with
    | ⟨.close _, .ok _⟩ => inferInstanceAs (Decidable (opened = []))
    | ⟨.close _, .error _⟩ => inferInstanceAs (Decidable (opened = [] ∧ x.session = none))
    | ⟨.open _, .error _⟩ => inferInstanceAs (Decidable True)
    | ⟨.open _, .ok _⟩ | ⟨.publish _ _ _ _, _⟩ | ⟨.subscribe _ _, _⟩ | ⟨.unsubscribe _ _, _⟩ =>
      inferInstanceAs (Decidable False)
  | direct _ (.subscribe filters _) =>
    match e with
    | ⟨.subscribe _ _, .ok codes⟩ =>
      inferInstanceAs (Decidable (Connection.refusedFilters filters codes = []))
    | ⟨.subscribe _ _, .error _⟩ | ⟨.open _, _⟩ | ⟨.publish _ _ _ _, _⟩ | ⟨.unsubscribe _ _, _⟩
    | ⟨.close _, _⟩ => inferInstanceAs (Decidable False)
  | direct _ .disconnect | direct _ .destroy | direct _ (.publish _ _) | direct _ (.unsubscribe _ _)
  | direct _ .clear | direct _ .read | direct _ (.setRenderMode _) | direct _ (.forget _)
  | call _ | event _ _ _ => inferInstanceAs (Decidable False)

end Action

namespace Turn

/-- The task whose turn it is, as it stands afterwards. -/
def task? (t : Turn) : Option Task := t.mover.bind (t.after.tasks[·]?)

/-- Whether a destroy that found its connection alive is done with this turn. -/
def Destroys (i : ConnectionRef) (t : Turn) : Prop :=
  ∃ task ∈ t.task?, task.action.destroys i = true ∧ task.isOver = true ∧
    (task.found.connection i).destroyed = false

/-- Whether a call gets a reply that makes it change a connection which is over. -/
def Revives (i : ConnectionRef) (t : Turn) : Prop :=
  match t.tick with
  | .reply k r reply => ∃ task ∈ t.before.tasks[k]?, task.action.connection? = some i ∧
      task.action.Revives (t.before.connection i) task.opened ⟨r, reply⟩
  | _ => False

instance (t : Turn) : Decidable (t.Destroys i) :=
  inferInstanceAs (Decidable (∃ task ∈ t.task?, _ ∧ _ ∧ _))

instance : (t : Turn) → Decidable (t.Revives i)
  | ⟨before, .reply k r reply, _⟩ =>
    inferInstanceAs (Decidable (∃ task ∈ before.tasks[k]?, task.action.connection? = some i ∧
      task.action.Revives (before.connection i) task.opened ⟨r, reply⟩))
  | ⟨_, .start _, _⟩ | ⟨_, .resume _, _⟩ | ⟨_, .outside, _⟩ => inferInstanceAs (Decidable False)

end Turn

/-! ## One turn of an action -/

variable {i : ConnectionRef} {c c' : Console}

theorem Console.lt_of_destroyed (gone : (c.connection i).destroyed = true) :
    i < c.connections.length := by
  refine Console.lt_of_ne_default ?_
  intro new
  rw [new] at gone
  cases gone

namespace Connection

variable {p : Profile} {token : Option String} {opened : List SessionId} {r : Request}
  {reply : r.Reply} {left : Option SessionId}

theorem connection_restoreSession (hi : i < c.connections.length) (session : SessionId) :
    (restoreSession i session c).connection i =
      { c.connection i with session := (c.connection i).session <|> some session } :=
  Console.connection_update_self hi

theorem connection_present (hi : i < c.connections.length) (change : Snapshot → Snapshot) :
    (c.present i change).connection i = (c.connection i).present change :=
  Console.connection_update_self hi

theorem status_prepare (hi : i < c.connections.length) :
    ((prepare i p token c).2.connection i).snapshot.status = .connecting := by
  have prepared : (prepare i p token c).2.connection i = _ := Console.connection_update_self hi
  rw [prepared]
  rfl

theorem status_failOpen (hi : i < c.connections.length) (error : TransportError) :
    ((failOpen i error c).connection i).snapshot.status = .disconnected := by
  have failed : (failOpen i error c).connection i = _ := connection_present hi _
  rw [failed]
  rfl

theorem spent_finishDestroy (hi : i < c.connections.length) (previous : ConnectionStatus) :
    ((finishDestroy i previous c).connection i).snapshot.Spent := by
  unfold finishDestroy
  split
  · have finished := connection_present (c := c.releaseGate) hi
    rw [finished]
    exact ⟨rfl, rfl⟩
  · have finished := connection_present (c := c) hi
    rw [finished]
    exact ⟨rfl, rfl⟩

/-- A connect that is told nothing which revives a destroyed connection leaves it alone. -/
theorem ConnectTurn.calm {rest : Operation (Except ConsoleError Bool)}
    (h : ConnectTurn i p token c opened r reply rest c') (gone : (c.connection i).destroyed = true)
    (harmless : ¬ (Action.direct i (.connect p token)).Revives (c.connection i) opened ⟨r, reply⟩) :
    (c.connection i).Calm (c'.connection i) := by
  cases h with
  | restored session error =>
      -- Another session came to the connection before it was destroyed, and stays.
      have held : (c.connection i).session ≠ none := fun none => harmless ⟨rfl, none⟩
      rcases Option.ne_none_iff_exists'.1 held with ⟨other, held⟩
      rw [connection_restoreSession (Console.lt_of_destroyed gone)]
      refine ⟨⟨⟨fun h => h, ?_⟩, List.Subset.refl _⟩, fun gone => gone⟩
      simp [held]
  | replaced => exact absurd rfl harmless
  | failed => exact absurd trivial harmless
  | adopted options session alive =>
      rw [gone] at alive
      cases alive
  | abandoned | ended => exact .refl _

theorem ConnectTurn.revived {rest : Operation (Except ConsoleError Bool)}
    (h : ConnectTurn i p token c opened r reply rest c')
    (revives : (Action.direct i (.connect p token)).Revives (c.connection i) opened ⟨r, reply⟩)
    (before : (c.connection i).Retired left) : ¬ (c'.connection i).Retired left := by
  have hi := Console.lt_of_destroyed before.destroyed
  intro after
  have status := after.spent.status
  cases h with
  | restored session error =>
      have given := after.session
      rw [connection_restoreSession hi, ← before.session, revives.2] at given
      cases given
  | replaced session console same =>
      have inside : i < console.connections.length := by rwa [same]
      rw [status_prepare inside] at status
      cases status
  | failed options error =>
      rw [status_failOpen hi] at status
      cases status
  | adopted | abandoned => exact revives
  | ended session reply =>
      have none : [session] = [] := by
        cases reply with
        | ok => exact revives
        | error => exact revives.1
      cases none

theorem SubscribeTurn.calm {filters : List FilterRequest} {audience : Audience}
    {reply : Except TransportError (List UInt8)} {rest : Operation (Except ConsoleError Unit)}
    (h : SubscribeTurn i filters audience c reply rest c')
    (harmless : ∀ codes, reply = .ok codes → refusedFilters filters codes ≠ []) :
    (c.connection i).Calm (c'.connection i) := by
  cases h with
  | granted codes none => exact absurd none (harmless codes rfl)
  | refused => exact (calm_report audience _).own

theorem SubscribeTurn.revived {filters : List FilterRequest} {audience : Audience}
    {codes : List UInt8} {rest : Operation (Except ConsoleError Unit)}
    (h : SubscribeTurn i filters audience c (.ok codes) rest c') (nonempty : filters ≠ [])
    (none : refusedFilters filters codes = []) (hi : i < c.connections.length) :
    ¬ (c'.connection i).snapshot.Spent := by
  intro after
  cases h with
  | granted =>
      have granted : (((c.present i (Snapshot.mark true (filters.map (·.1)))).confirm audience
          "Topic(s) Subscribed").connection i).snapshot =
            (c.connection i).snapshot.mark true (filters.map (·.1)) := by
        have marked := connection_present hi (Snapshot.mark true (filters.map (·.1)))
        cases audience <;> exact congrArg Connection.snapshot marked
      rw [granted] at after
      have names : filters.map (·.1) ≠ [] := fun empty => nonempty (List.map_eq_nil_iff.1 empty)
      exact Snapshot.active_mark_true _ names after.bare
  | refused _ result text refusing => exact refusing codes rfl none

theorem DestroyTurn.calm {rest : Operation Unit} (h : DestroyTurn i c rest c') :
    (c.connection i).Calm (c'.connection i) := by
  cases h with
  | finished previous => exact calm_finishDestroy.own

theorem DestroyTurn.spent {rest : Operation Unit} (h : DestroyTurn i c rest c')
    (hi : i < c.connections.length) : (c'.connection i).snapshot.Spent := by
  cases h with
  | finished previous => exact spent_finishDestroy hi previous

theorem ConnectBegun.eq_of_destroyed {rest : Operation (Except ConsoleError Bool)}
    (h : ConnectBegun i p token c rest c') (gone : (c.connection i).destroyed = true) :
    c' = c := by
  cases h with
  | refused => rfl
  | replacing _ _ alive | opening _ alive =>
      rw [gone] at alive
      cases alive

theorem DestroyBegun.eq_of_destroyed {rest : Operation Unit} (h : DestroyBegun i c rest c')
    (gone : (c.connection i).destroyed = true) : c' = c := by
  cases h with
  | again => rfl
  | bare alive | closing _ _ alive =>
      rw [gone] at alive
      cases alive

theorem DestroyBegun.destroyed {rest : Operation Unit} (h : DestroyBegun i c rest c')
    (hi : i < c.connections.length) : (c'.connection i).destroyed = true := by
  have marked : ((c.update i fun connection =>
      { connection with destroyed := true, session := none }).connection i).destroyed = true := by
    rw [Console.connection_update_self hi]
  cases h with
  | again gone => exact gone
  | bare alive => exact calm_finishDestroy.own.lasting marked
  | closing session previous alive => exact marked

theorem DestroyBegun.spent {rest : Operation Unit} (h : DestroyBegun i c rest c')
    (hi : i < c.connections.length) (returned : rest.isOver = true)
    (alive : (c.connection i).destroyed = false) : (c'.connection i).snapshot.Spent := by
  cases h with
  | again gone =>
      rw [gone] at alive
      cases alive
  | bare =>
      refine spent_finishDestroy ?_ _
      simpa [Console.update] using hi
  | closing => cases returned

theorem settle_subscribe_of_destroyed (gone : (c.connection i).destroyed = true)
    (filters : List FilterRequest) (audience : Audience) :
    ((subscribe i filters audience).settle c).2 = c := by
  have refused : beginRequest i filters.length c = (.error .destroyed, c) := by
    simp [beginRequest, gone]
  simp [subscribe, Program.atomically, Program.bind, settle, refused]

end Connection

namespace Action

variable {a : Action}

theorem eq_destroy (h : a.destroys i = true) : a = .direct i .destroy := by
  cases a with
  | call | event => cases h
  | direct j call =>
      cases call with
      | destroy => rw [of_decide_eq_true h]
      | _ => cases h

theorem not_revives_of_plain (plain : a.Plain) {x : Connection} {opened : List SessionId}
    {e : Exchange} : ¬ a.Revives x opened e := by
  cases a with
  | call => exact plain.elim
  | event => exact id
  | direct j call =>
      cases call with
      | connect | destroy | subscribe => exact plain.elim
      | _ => exact id

/-- An action that begins when its connection is destroyed leaves the connection alone. -/
theorem calm_settle (own : a.connection? = some i) {s : Scene} (enabled : a.Enabled s)
    (gone : (s.console.connection i).destroyed = true) :
    (s.console.connection i).Calm ((a.program.settle s.console).2.connection i) := by
  have same : ∀ {c : Console}, c = s.console →
      (s.console.connection i).Calm (c.connection i) := by
    rintro c rfl
    exact .refl _
  cases a with
  | call => cases own
  | event j session event =>
      cases own
      have alive := enabled.2
      rw [gone] at alive
      cases alive
  | direct j call =>
      cases own
      by_cases plain : call.Plain
      · exact (settle_calm (Call.calm_program plain) _).1.own
      · cases call with
        | connect p token =>
            exact same ((connect_begun i p token s.console).eq_of_destroyed gone)
        | destroy => exact same ((destroy_begun i s.console).eq_of_destroyed gone)
        | subscribe filters audience =>
            exact same (settle_subscribe_of_destroyed gone filters audience)
        | _ => exact absurd trivial plain

variable {opened : List SessionId} {r : Request} {reply : r.Reply}
  {next : r.Reply → Operation a.Result} {left : Option SessionId}

/-- A reply that does not revive a destroyed connection leaves it alone. -/
theorem Staged.calm (h : a.Staged opened (.request r next)) (own : a.connection? = some i)
    (gone : (c.connection i).destroyed = true)
    (harmless : ¬ a.Revives (c.connection i) opened ⟨r, reply⟩) :
    (c.connection i).Calm (((next reply).settle c).2.connection i) := by
  cases h with
  | connect stage =>
      cases own
      exact (stage.turn rfl reply c).calm gone harmless
  | destroy stage =>
      cases own
      exact (stage.turn rfl reply c).calm
  | subscribe stage =>
      cases own
      cases stage with
      | asking session next nonempty turn =>
          refine (turn reply c).calm ?_
          rintro codes rfl
          exact harmless
  | plain tame every => exact (settle_calm (every i own reply) c).1.own

/-- A reply that revives a connection which is over does change it. -/
theorem Staged.revived (h : a.Staged opened (.request r next)) (own : a.connection? = some i)
    (revives : a.Revives (c.connection i) opened ⟨r, reply⟩)
    (before : (c.connection i).Retired left) :
    ¬ (((next reply).settle c).2.connection i).Retired left := by
  cases h with
  | connect stage =>
      cases own
      exact (stage.turn rfl reply c).revived revives before
  | destroy => exact revives.elim
  | subscribe stage =>
      cases own
      cases stage with
      | asking session next nonempty turn =>
          cases reply with
          | error => exact revives.elim
          | ok codes =>
              intro after
              have hi := Console.lt_of_destroyed before.destroyed
              exact (turn (.ok codes) c).revived nonempty revives hi after.spent
  | plain tame every => exact absurd revives (not_revives_of_plain tame)

end Action

/-! ## One turn -/

namespace Traffic

variable {T T' : Traffic} {tick : Tick} {left : Option SessionId}

theorem Staged.calm (h : T.Staged) (step : Step .long T tick T')
    (direct : (⟨T, tick, T'⟩ : Turn).Direct) (gone : (T.connection i).destroyed = true)
    (harmless : ¬ (⟨T, tick, T'⟩ : Turn).Revives i) :
    (T.connection i).Calm (T'.connection i) := by
  rcases h.own_or_aside step direct i with own | aside
  · cases own with
    | start own enabled => exact Action.calm_settle own enabled gone
    | @reply k task r reply next own there staged left permitted =>
        have stage := staged.waiting left
        exact stage.calm own gone fun revives => harmless ⟨task, there, own, revives⟩
  · rw [aside.connection]
    exact .refl _

theorem Staged.revived (h : T.Staged) (step : Step .long T tick T')
    (direct : (⟨T, tick, T'⟩ : Turn).Direct) (revives : (⟨T, tick, T'⟩ : Turn).Revives i)
    (before : (T.connection i).Retired left) : ¬ (T'.connection i).Retired left := by
  rcases h.own_or_aside step direct i with own | aside
  · cases own with
    | start own enabled => exact revives.elim
    | @reply k task r reply next own there staged left permitted =>
        rcases revives with ⟨same, found, -, revives⟩
        have same : same = task := Option.some.inj (found.symm.trans there)
        subst same
        exact (staged.waiting left).revived own revives before
  · cases tick with
    | reply k r reply =>
        rcases revives with ⟨task, found, own, -⟩
        exact absurd own (aside.elsewhere rfl (Or.inl found))
    | start | resume | outside => exact revives.elim

/-- A destroy marks its connection as destroyed from its first turn on. -/
def Marked (i : ConnectionRef) (T : Traffic) : Prop :=
  ∀ task ∈ T.tasks, task.action.destroys i = true → (T.connection i).destroyed = true

theorem Marked.step (h : T.Marked i) (staged : T.Staged) (step : Step .long T tick T')
    (direct : (⟨T, tick, T'⟩ : Turn).Direct) : T'.Marked i := by
  intro task member destroys
  have about : task.action.connection? = some i := by rw [Action.eq_destroy destroys]; rfl
  rcases staged.own_or_aside step direct i with own | aside
  · have lasting : (T.connection i).Lasting (T'.connection i) := own.alters.own
    cases own with
    | @start a own enabled =>
        rcases List.mem_append.1 member with member | member
        · exact lasting (h task member destroys)
        · rw [List.mem_singleton.1 member] at destroys
          cases Action.eq_destroy destroys
          exact (destroy_begun i T.scene.console).destroyed enabled
    | @reply k mover r reply next own there staged waiting permitted =>
        rcases List.mem_or_eq_of_mem_set member with member | moved
        · exact lasting (h task member destroys)
        · rw [moved] at destroys
          exact lasting (h mover (List.mem_of_getElem? there) destroys)
  · rw [aside.connection]
    exact h task (aside.tasks task member about) destroys

/-- When a destroy is done, its connection is over. -/
theorem Marked.retired (h : T.Marked i) (staged : T.Staged) (step : Step .long T tick T')
    (direct : (⟨T, tick, T'⟩ : Turn).Direct) (destroys : (⟨T, tick, T'⟩ : Turn).Destroys i) :
    (T'.connection i).Retired (T'.connection i).session := by
  rcases destroys with ⟨task, moved, destroys, returned, alive⟩
  rcases Option.bind_eq_some_iff.1 moved with ⟨k, mover, there⟩
  have about : task.action.connection? = some i := by rw [Action.eq_destroy destroys]; rfl
  have marked := h.step staged step direct task (List.mem_of_getElem? there) destroys
  refine ⟨marked, ?_, rfl⟩
  rcases staged.own_or_aside step direct i with own | aside
  · cases own with
    | @start a own enabled =>
        -- There was no session to close.
        cases mover
        rw [get?_enter_self] at there
        cases there
        cases Action.eq_destroy destroys
        exact (destroy_begun i T.scene.console).spent enabled returned alive
    | @reply k before r reply next own found staged waiting permitted =>
        -- The transport replied about the session, whatever it said.
        cases mover
        rw [get?_answer_self .long found] at there
        cases there
        have gone := h before (List.mem_of_getElem? found) destroys
        have stage := staged.stage
        rcases before with ⟨action, console, log, rest⟩
        cases Action.eq_destroy destroys
        cases stage with
        | destroy stage =>
            exact (stage.turn waiting reply _).spent (Console.lt_of_destroyed gone)
        | plain tame => exact tame.elim
  · exact absurd about (aside.elsewhere mover (Or.inr there))

/-! ## Runs -/

theorem Run.marked {s : Scene} {turns : List Turn} (run : Run .long (quiet s) turns T)
    (direct : ∀ t ∈ turns, t.Direct) : T.Marked i := by
  induction run with
  | start => exact fun task member => absurd member List.not_mem_nil
  | @step turns T T' tick previous step ih =>
      have earlier : ∀ t ∈ turns, t.Direct :=
        fun t member => direct t (List.mem_append_left _ member)
      exact (ih earlier).step (previous.staged earlier) step (direct _ (by simp))

/-- A connection that is over stays so for as long as no call revives it. -/
theorem Run.retired_iff_of_retired {start : Traffic} {turns : List Turn} (staged : start.Staged)
    (first : (start.connection i).Retired left) (run : Run .long start turns T)
    (direct : ∀ t ∈ turns, t.Direct) :
    (∀ t ∈ turns, (t.after.connection i).Retired left) ↔ ∀ t ∈ turns, ¬ t.Revives i := by
  -- What holds after every turn holds at the end, also if there was no turn.
  suffices all : T.Staged ∧
      ((∀ t ∈ turns, (t.after.connection i).Retired left) → (T.connection i).Retired left) ∧
      ((∀ t ∈ turns, (t.after.connection i).Retired left) ↔ ∀ t ∈ turns, ¬ t.Revives i) from
    all.2.2
  induction run with
  | start => exact ⟨staged, fun _ => first, by simp⟩
  | @step turns T T' tick previous step ih =>
      have now : (⟨T, tick, T'⟩ : Turn).Direct := direct _ (by simp)
      rcases ih fun t member => direct t (List.mem_append_left _ member) with ⟨staged, last, same⟩
      refine ⟨staged.step step now, fun all => all ⟨T, tick, T'⟩ (by simp), ?_, ?_⟩
      · intro all t member
        have earlier : ∀ t ∈ turns, (t.after.connection i).Retired left :=
          fun t member => all t (List.mem_append_left _ member)
        rcases List.mem_append.1 member with member | member
        · exact same.1 earlier t member
        · rw [List.mem_singleton.1 member]
          intro revives
          have after := all ⟨T, tick, T'⟩ (by simp)
          exact staged.revived step now revives (last earlier) after
      · intro none t member
        have earlier := same.2 fun t member => none t (List.mem_append_left _ member)
        rcases List.mem_append.1 member with member | member
        · exact earlier t member
        · rw [List.mem_singleton.1 member]
          have before := last earlier
          have calm := staged.calm step now before.destroyed (none ⟨T, tick, T'⟩ (by simp))
          exact ⟨calm.lasting before.destroyed, calm.spent before.spent,
            calm.session.trans before.session⟩

/-- Once a destroy is done, its connection stays destroyed, without a live filter and with the
session that it has by then, exactly if no call that is under way gets a reply that revives it. -/
theorem Run.retired_iff {s : Scene} {earlier later : List Turn} {t : Turn}
    (run : Run .long (quiet s) (earlier ++ t :: later) T)
    (direct : ∀ u ∈ earlier ++ t :: later, u.Direct) (destroys : t.Destroys i) :
    (∀ u ∈ t :: later, (u.after.connection i).Retired (t.after.connection i).session) ↔
      ∀ u ∈ later, ¬ u.Revives i := by
  -- The run up to the destroy leads to a connection that is over, and the rest starts from there.
  rcases run.split with ⟨before, step, after⟩
  have first : ∀ u ∈ earlier, u.Direct := fun u member => direct u (List.mem_append_left _ member)
  have now : t.Direct := direct t (by simp)
  have staged := before.staged first
  have retired := (before.marked first).retired staged step now destroys
  have later : ∀ u ∈ later, u.Direct := fun u member =>
    direct u (List.mem_append_right _ (List.mem_cons_of_mem t member))
  rw [List.forall_mem_cons, and_iff_right retired]
  exact Run.retired_iff_of_retired (staged.step step now) retired after later

/-- A connection is destroyed while a connect call waits for its session.  The call gives back the
session that it gets. -/
theorem Run.retired_iff_of_late_session :
    ∃ earlier t later T,
      Run .long (quiet (.furnished [.default ⟨7⟩])) (earlier ++ t :: later) T ∧
      (∀ u ∈ earlier ++ t :: later, u.Direct) ∧ t.Destroys 0 ∧ (∀ u ∈ later, ¬ u.Revives 0) ∧
      later.length = 2 ∧ (∀ u ∈ t :: later, (u.after.connection 0).Retired none) := by
  let begun := (quiet (.furnished [.default ⟨7⟩])).play .long
    [.start (.direct 0 (.connect (.default ⟨7⟩) none))]
  have opening : (quiet (.furnished [.default ⟨7⟩])).Playable .long
      [.start (.direct 0 (.connect (.default ⟨7⟩) none))] := by
    decide
  have possible : begun.2.Allows (.start (.direct 0 .destroy)) := by decide
  have rest : (begun.2.take .long (.start (.direct 0 .destroy))).after.Playable .long
      [.go 0, .go 0] := by
    decide
  have run := Run.play_around opening possible rest
  have retired := (run.retired_iff (i := 0) (by decide) (by decide)).2 (by decide)
  exact ⟨_, _, _, _, run, by decide, by decide, by decide, by decide, retired⟩

/-- A call that is under way when its connection is destroyed changes the state if no session can be
opened, gives the connection a session if the old one cannot be closed, and makes a filter live if
the broker grants it. -/
theorem Run.revived_after_destroy :
    (∃ earlier t later T,
      Run .long (quiet (.furnished [.default ⟨7⟩])) (earlier ++ t :: later) T ∧
      (∀ u ∈ earlier ++ t :: later, u.Direct) ∧ t.Destroys 0 ∧
      (t.after.connection 0).snapshot.status = .destroyed ∧
      (T.connection 0).snapshot.status = .disconnected) ∧
    (∃ earlier t later T,
      Run .long (quiet (.furnished [.default ⟨7⟩])) (earlier ++ t :: later) T ∧
      (∀ u ∈ earlier ++ t :: later, u.Direct) ∧ t.Destroys 0 ∧
      (t.after.connection 0).session = none ∧ (T.connection 0).session = some 0) ∧
    (∃ earlier t later T,
      Run .long (quiet (.furnished [.default ⟨7⟩])) (earlier ++ t :: later) T ∧
      (∀ u ∈ earlier ++ t :: later, u.Direct) ∧ t.Destroys 0 ∧
      (t.after.connection 0).snapshot.active = [] ∧
      (T.connection 0).snapshot.active = ["t"]) := by
  refine ⟨?_, ?_, ?_⟩
  · let begun := (quiet (.furnished [.default ⟨7⟩])).play .long
      [.start (.direct 0 (.connect (.default ⟨7⟩) none))]
    have opening : (quiet (.furnished [.default ⟨7⟩])).Playable .long
        [.start (.direct 0 (.connect (.default ⟨7⟩) none))] := by
      decide
    have possible : begun.2.Allows (.start (.direct 0 .destroy)) := by decide
    have rest : (begun.2.take .long (.start (.direct 0 .destroy))).after.Playable .long
        [.refuse 0] := by
      decide
    have run := Run.play_around opening possible rest
    exact ⟨_, _, _, _, run, by decide, by decide, by decide, by decide⟩
  · let begun := (quiet (.furnished [.default ⟨7⟩])).play .long
      [.start (.direct 0 (.connect (.default ⟨7⟩) none)), .go 0, .start (.event 0 0 .connected),
        .start (.direct 0 (.connect (.default ⟨7⟩) none))]
    have closing : (quiet (.furnished [.default ⟨7⟩])).Playable .long
        [.start (.direct 0 (.connect (.default ⟨7⟩) none)), .go 0, .start (.event 0 0 .connected),
          .start (.direct 0 (.connect (.default ⟨7⟩) none))] := by
      decide
    have possible : begun.2.Allows (.start (.direct 0 .destroy)) := by decide
    have rest : (begun.2.take .long (.start (.direct 0 .destroy))).after.Playable .long
        [.refuse 2] := by
      decide
    have run := Run.play_around closing possible rest
    exact ⟨_, _, _, _, run, by decide, by decide, by decide, by decide⟩
  · let begun := (quiet (.furnished [.default ⟨7⟩])).play .long
      [.start (.direct 0 (.connect (.default ⟨7⟩) none)), .go 0, .start (.event 0 0 .connected),
        .start (.direct 0 (.subscribe [("t", .default)] .caller)), .start (.direct 0 .destroy)]
    have asking : (quiet (.furnished [.default ⟨7⟩])).Playable .long
        [.start (.direct 0 (.connect (.default ⟨7⟩) none)), .go 0, .start (.event 0 0 .connected),
          .start (.direct 0 (.subscribe [("t", .default)] .caller)),
          .start (.direct 0 .destroy)] := by
      decide
    have possible : begun.2.Allows (.go 3) := by decide
    have rest : (begun.2.take .long (.go 3)).after.Playable .long [.go 2] := by decide
    have run := Run.play_around asking possible rest
    exact ⟨_, _, _, _, run, by decide, by decide, by decide, by decide⟩

end Traffic

end DeviceConsole
