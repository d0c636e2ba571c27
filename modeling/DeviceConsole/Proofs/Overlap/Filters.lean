import DeviceConsole.Proofs.Overlap.Sessions
import DeviceConsole.Proofs.Session.Granted

/-!
# Whose the live filters are

A filter is granted over a session, and goes when the session is closed or ends.  While a session
that a call took from its connection is being closed, its filters stay live, since a close that
fails gives the session back.  This file defines:

* `Traffic.Keeps`: a connection holds a session, or a call took it and is closing it;
* `Turn.Late` and `Stale`: a filter is granted over a session that the connection has no more, and
  is live since;
* `Traffic.Run.granted_of_live`, that every other live filter was granted over a session that the
  connection keeps, and runs in which a filter is live although no session is held.
-/

namespace DeviceConsole

open Operation Connection

variable {i : ConnectionRef} {session : SessionId} {filter : String}

/-! ## Sessions that are kept -/

def Exchange.subscribed? : Exchange → Option SessionId
  | ⟨.subscribe session _, _⟩ => some session
  | _ => none

def Action.subscribes (i : ConnectionRef) : Action → Bool
  | direct j (.subscribe _ _) => j = i
  | _ => false

namespace Traffic

/-- The connection holds the session, or a call took it and waits until it is closed. -/
def Keeps (i : ConnectionRef) (session : SessionId) (T : Traffic) : Prop :=
  (T.connection i).session = some session ∨ T.Closing i session

instance (T : Traffic) : Decidable (T.Keeps i session) := inferInstanceAs (Decidable (_ ∨ _))

/-- The filter was granted over a session that the connection keeps. -/
def Granted (i : ConnectionRef) (filter : String) (T : Traffic) : Prop :=
  ∃ session, T.Keeps i session ∧ ∃ e ∈ T.scene.exchanges, e.Grants session filter

end Traffic

/-- Whether a call of the connection is told that a filter was granted, over a session that the
connection has no more. -/
def Turn.Late (i : ConnectionRef) (filter : String) (t : Turn) : Prop :=
  match t.tick with
  | .reply k (.subscribe session filters) (.ok codes) =>
    (∃ task ∈ t.before.tasks[k]?, task.action.subscribes i = true) ∧
      filter ∈ filters.map (·.1) ∧ refusedFilters filters codes = [] ∧
      ¬ t.before.Keeps i session
  | _ => False

instance : (t : Turn) → Decidable (t.Late i filter)
  | ⟨before, .reply k (.subscribe session filters) (.ok codes), _⟩ =>
    inferInstanceAs (Decidable ((∃ task ∈ before.tasks[k]?, task.action.subscribes i = true) ∧
      filter ∈ filters.map (·.1) ∧ refusedFilters filters codes = [] ∧ ¬ before.Keeps i session))
  | ⟨_, .reply _ (.subscribe _ _) (.error _), _⟩ | ⟨_, .reply _ (.open _) _, _⟩
  | ⟨_, .reply _ (.publish _ _ _ _) _, _⟩ | ⟨_, .reply _ (.unsubscribe _ _) _, _⟩
  | ⟨_, .reply _ (.close _) _, _⟩ | ⟨_, .start _, _⟩ | ⟨_, .resume _, _⟩ | ⟨_, .outside, _⟩ =>
    inferInstanceAs (Decidable False)

/-- Whether a filter became live by a late grant, and is live since. -/
def Stale (i : ConnectionRef) (filter : String) (turns : List Turn) : Prop :=
  ∃ earlier t later, turns = earlier ++ t :: later ∧ t.Late i filter ∧
    ∀ u ∈ t :: later, filter ∈ (u.after.connection i).snapshot.active

variable {turns : List Turn} {t : Turn}

theorem Stale.late (late : t.Late i filter)
    (live : filter ∈ (t.after.connection i).snapshot.active) : Stale i filter (turns ++ [t]) := by
  refine ⟨turns, t, [], rfl, late, ?_⟩
  intro u member
  rw [List.mem_singleton.1 member]
  exact live

theorem Stale.snoc (h : Stale i filter turns)
    (live : filter ∈ (t.after.connection i).snapshot.active) : Stale i filter (turns ++ [t]) := by
  rcases h with ⟨earlier, first, later, rfl, late, since⟩
  refine ⟨earlier, first, later ++ [t], by simp, late, ?_⟩
  intro u member
  rcases List.mem_append.1 (List.cons_append ▸ member) with member | member
  · exact since u member
  · rw [List.mem_singleton.1 member]
    exact live

theorem not_stale (none : ∀ t ∈ turns, ¬ t.Late i filter) :
    ¬ Stale i filter turns := by
  rintro ⟨earlier, t, later, rfl, late, -⟩
  exact none t (by simp) late

/-! ## One turn of an action -/

namespace Connection

variable {c c' : Console} {p : Profile} {token : Option String} {change : Connection → Connection}

theorem snapshot_update (same : ∀ x, (change x).snapshot = x.snapshot) :
    ((c.update i change).connection i).snapshot = (c.connection i).snapshot := by
  have kept : c.Alters i (fun x y => y.snapshot = x.snapshot) (c.update i change) :=
    .update (fun _ => rfl) (same _)
  exact kept.own

theorem active_update_nil (bare : ∀ x, (change x).snapshot.active = []) :
    ((c.update i change).connection i).snapshot.active = [] :=
  Console.connection_update_induction (P := fun x => x.snapshot.active = []) rfl bare

theorem active_prepare : ((prepare i p token c).2.connection i).snapshot.active = [] :=
  active_update_nil fun _ => rfl

theorem active_finishDestroy (previous : ConnectionStatus) :
    ((finishDestroy i previous c).connection i).snapshot.active = [] := by
  unfold finishDestroy
  split
  · exact active_update_nil (c := c.releaseGate) fun _ => rfl
  · exact active_update_nil fun _ => rfl

theorem snapshot_adopt (session : SessionId) :
    ((adopt i session c).2.connection i).snapshot = (c.connection i).snapshot := by
  unfold adopt
  split
  · rfl
  · exact snapshot_update (c := c) fun _ => rfl

theorem active_onEnded : ((onEnded i session c).connection i).snapshot.active ⊆
    (c.connection i).snapshot.active := by
  rcases onEnded_keeps_or_bares i session c with same | ⟨-, -, bare⟩
  · rw [same]
    exact List.Subset.refl _
  · rw [bare]
    exact List.nil_subset _

theorem settle_subscribe (filters : List FilterRequest) (audience : Audience) :
    ((subscribe i filters audience).settle c).2 = (beginRequest i filters.length c).2 := by
  simp only [subscribe, Program.bind_eq, Program.atomically, Program.bind, settle]
  cases (beginRequest i filters.length c).1 with
  | error error => rfl
  | ok session => rfl

theorem ConnectBegun.active {rest : Operation (Except ConsoleError Bool)}
    (h : ConnectBegun i p token c rest c') :
    (c'.connection i).snapshot.active ⊆ (c.connection i).snapshot.active := by
  cases h with
  | refused => exact List.Subset.refl _
  | replacing =>
      have kept : ((c.holdGate.update i fun connection =>
          { connection with session := none }).connection i).snapshot =
            (c.connection i).snapshot := snapshot_update (c := c.holdGate) fun _ => rfl
      rw [kept]
      exact List.Subset.refl _
  | opening =>
      rw [active_prepare]
      exact List.nil_subset _

theorem DestroyBegun.active {rest : Operation Unit} (h : DestroyBegun i c rest c') :
    (c'.connection i).snapshot.active ⊆ (c.connection i).snapshot.active := by
  cases h with
  | again => exact List.Subset.refl _
  | bare =>
      rw [active_finishDestroy]
      exact List.nil_subset _
  | closing =>
      have kept : ((c.update i fun connection =>
          { connection with destroyed := true, session := none }).connection i).snapshot =
            (c.connection i).snapshot := snapshot_update fun _ => rfl
      rw [kept]
      exact List.Subset.refl _

section Reply

variable {opened : List SessionId} {r : Request} {reply : r.Reply}
  {rest : Operation (Except ConsoleError Bool)}

theorem ConnectTurn.active (h : ConnectTurn i p token c opened r reply rest c') :
    (c'.connection i).snapshot.active ⊆ (c.connection i).snapshot.active := by
  cases h with
  | restored session error =>
      have kept : ((restoreSession i session c).connection i).snapshot =
          (c.connection i).snapshot := snapshot_update fun _ => rfl
      rw [kept]
      exact List.Subset.refl _
  | replaced =>
      rw [active_prepare]
      exact List.nil_subset _
  | failed => exact fading_failOpen.own.active
  | adopted options session =>
      rw [snapshot_adopt]
      exact List.Subset.refl _
  | abandoned | ended => exact List.Subset.refl _

end Reply

/-- A connect that took a session gives it back, unless it was closed. -/
theorem ConnectTurn.closed {reply : Request.Reply (.close session)}
    {rest : Operation (Except ConsoleError Bool)}
    (h : ConnectTurn i p token c [] (.close session) reply rest c')
    (hi : i < c.connections.length) (vacant : (c.connection i).session = none) :
    (c'.connection i).snapshot.active = [] ∨ (c'.connection i).session = some session := by
  cases h with
  | restored error =>
      right
      have given : (restoreSession i session c).connection i = _ :=
        Console.connection_update_self hi
      rw [given]
      simp [vacant]
  | replaced => exact Or.inl active_prepare

theorem DestroyTurn.active {rest : Operation Unit} (h : DestroyTurn i c rest c') :
    (c'.connection i).snapshot.active = [] := by
  cases h with
  | finished previous => exact active_finishDestroy previous

/-- A subscribe makes the filters live that it asked for, if none was refused. -/
theorem SubscribeTurn.active {filters : List FilterRequest} {audience : Audience}
    {reply : Except TransportError (List UInt8)} {rest : Operation (Except ConsoleError Unit)}
    (h : SubscribeTurn i filters audience c reply rest c')
    (live : filter ∈ (c'.connection i).snapshot.active) :
    filter ∈ (c.connection i).snapshot.active ∨ ∃ codes, reply = .ok codes ∧
      filter ∈ filters.map (·.1) ∧ refusedFilters filters codes = [] := by
  cases h with
  | granted codes accepted =>
      have marked : c.Alters i
          (fun x y => ∀ filter ∈ y.snapshot.active,
            filter ∈ filters.map (·.1) ∨ filter ∈ x.snapshot.active)
          (c.present i (Snapshot.mark true (filters.map (·.1)))) :=
        .update (fun _ _ live => Or.inr live) fun _ live => Snapshot.mem_active_mark_true live
      have live : filter ∈ ((c.present i (Snapshot.mark true
          (filters.map (·.1)))).connection i).snapshot.active := by
        cases audience <;> exact live
      rcases marked.own filter live with named | before
      · exact Or.inr ⟨codes, rfl, named, accepted⟩
      · exact Or.inl before
  | refused => exact Or.inl ((calm_report audience _).own.active live)

end Connection

namespace Action

variable {a : Action} {c : Console}

/-- No action makes a filter live as it begins. -/
theorem active_settle (own : a.connection? = some i) (c : Console) :
    ((a.program.settle c).2.connection i).snapshot.active ⊆
      (c.connection i).snapshot.active := by
  cases a with
  | call => cases own
  | event j s event =>
      cases own
      by_cases last : event = .ended
      · subst last
        exact active_onEnded
      · exact (settle_fading (fading_react last) c).1.own.active
  | direct j call =>
      cases own
      by_cases plain : call.Plain
      · exact (settle_calm (Call.calm_program plain) c).1.own.active
      · cases call with
        | connect p token => exact (connect_begun i p token c).active
        | destroy => exact (destroy_begun i c).active
        | subscribe filters audience =>
            have begun : ((subscribe i filters audience).settle c).2 = _ :=
              settle_subscribe filters audience
            have calm : c.Alters i Calm ((subscribe i filters audience).settle c).2 :=
              begun ▸ calm_beginRequest
            exact calm.own.active
        | _ => exact absurd trivial plain

variable {opened : List SessionId}

/-- A reply makes a filter live only if it grants it to a subscribe. -/
theorem Staged.active {r : Request} {next : r.Reply → Operation a.Result}
    (h : a.Staged opened (.request r next)) (own : a.connection? = some i) (reply : r.Reply)
    (c : Console)
    (live : filter ∈ (((next reply).settle c).2.connection i).snapshot.active) :
    filter ∈ (c.connection i).snapshot.active ∨ ∃ session filters codes,
      (⟨r, reply⟩ : Exchange) = ⟨.subscribe session filters, .ok codes⟩ ∧
        a.subscribes i = true ∧ filter ∈ filters.map (·.1) ∧
        refusedFilters filters codes = [] := by
  cases h with
  | connect stage =>
      cases own
      exact Or.inl ((stage.turn rfl reply c).active live)
  | destroy stage =>
      cases own
      have none := (stage.turn rfl reply c).active
      exact absurd none (List.ne_nil_of_mem live)
  | subscribe stage =>
      cases own
      cases stage with
      | @asking session next nonempty turn =>
          rcases (turn reply c).active live with before | ⟨codes, rfl, named, accepted⟩
          · exact Or.inl before
          · exact Or.inr ⟨session, _, codes, rfl, decide_eq_true rfl, named, accepted⟩
  | plain tame every => exact Or.inl ((settle_calm (every i own reply) c).1.own.active live)

theorem not_plain_of_takes (h : a.takes i = true) : ¬ a.Plain := by
  cases a with
  | call | event => cases h
  | direct j call =>
      cases call with
      | connect | destroy => exact id
      | _ => cases h

/-- A call that took a session gives it back, or no filter stays live. -/
theorem Staged.closed {next : Request.Reply (.close session) → Operation a.Result}
    (h : a.Staged [] (.request (.close session) next)) (takes : a.takes i = true)
    (free : a.connects i = true → i < c.connections.length ∧ (c.connection i).session = none)
    (reply : Request.Reply (.close session)) :
    (((next reply).settle c).2.connection i).snapshot.active = [] ∨
      (((next reply).settle c).2.connection i).session = some session := by
  cases h with
  | connect stage =>
      cases of_decide_eq_true takes
      rcases free (decide_eq_true rfl) with ⟨hi, vacant⟩
      exact (stage.turn rfl reply c).closed hi vacant
  | destroy stage =>
      cases of_decide_eq_true takes
      exact Or.inl (stage.turn rfl reply c).active
  | subscribe stage => cases takes
  | plain tame => exact absurd tame (not_plain_of_takes takes)

end Action

/-! ## One turn -/

namespace Traffic

variable {pace : Pace} {T T' : Traffic} {tick : Tick} {turns : List Turn}

/-- Only the task whose turn it is changes. -/
theorem Step.get?_of_ne (step : Step pace T tick T') {j : Nat}
    (other : (⟨T, tick, T'⟩ : Turn).mover ≠ some j) : T'.tasks[j]? = T.tasks[j]? := by
  cases step with
  | start enabled => exact get?_enter_of_ne pace _ fun same => other (congrArg some same.symm)
  | resume there left => exact List.getElem?_set_ne fun same => other (congrArg some same)
  | reply there left permitted =>
      exact get?_answer_of_ne pace (fun same => other (congrArg some same.symm)) _ _ _
  | outside => rfl

/-- What was said stays on record. -/
theorem Step.mem_exchanges (step : Step pace T tick T') {e : Exchange}
    (said : e ∈ T.scene.exchanges) : e ∈ T'.scene.exchanges := by
  cases step with
  | start | resume | outside => exact said
  | reply there left permitted => exact List.mem_append_left _ said

/-- A session is kept for as long as a filter is live. -/
theorem Orderly.keeps (h : T.Orderly i) (step : Step .long T tick T')
    (direct : (⟨T, tick, T'⟩ : Turn).Direct) (kept : T.Keeps i session)
    (live : (T'.connection i).snapshot.active ≠ []) : T'.Keeps i session := by
  rcases kept with held | ⟨task, member, takes, fresh, waiting⟩
  · rcases h.given_up step direct held with held | ⟨-, closing | ⟨-, bare⟩⟩
    · exact Or.inl held
    · exact Or.inr closing
    · exact absurd bare live
  · rcases List.mem_iff_getElem?.1 member with ⟨j, found⟩
    by_cases turn : (⟨T, tick, T'⟩ : Turn).mover = some j
    · cases step with
      | start enabled =>
          cases turn
          simp at found
      | @resume k mover change next there left =>
          cases turn
          cases Option.some.inj (found.symm.trans there)
          rw [left] at waiting
          cases waiting
      | @reply k mover r reply next there left permitted =>
          -- The reply that the call waited for has come.
          cases turn
          cases Option.some.inj (found.symm.trans there)
          have asked : r = .close session := by
            rw [left] at waiting
            exact Option.some.inj waiting
          subst asked
          have stage := (h.staged task member).waiting left
          rw [fresh] at stage
          have free : task.action.connects i = true →
              i < T.scene.console.connections.length ∧ (T.connection i).session = none :=
            fun connects => ⟨h.inside task member connects,
              h.vacant task member (connecting_of_request connects left) fresh⟩
          rcases stage.closed takes free reply with bare | given
          · exact absurd bare live
          · exact Or.inl given
      | outside => cases turn
    · have found := (step.get?_of_ne turn).trans found
      exact Or.inr ⟨task, List.mem_of_getElem? found, takes, fresh, waiting⟩

theorem Orderly.granted_step (h : T.Orderly i) (step : Step .long T tick T')
    (direct : (⟨T, tick, T'⟩ : Turn).Direct)
    (before : ∀ filter ∈ (T.connection i).snapshot.active,
      Stale i filter turns ∨ T.Granted i filter) :
    ∀ filter ∈ (T'.connection i).snapshot.active,
      Stale i filter (turns ++ [⟨T, tick, T'⟩]) ∨ T'.Granted i filter := by
  intro filter live
  have nonempty := List.ne_nil_of_mem live
  have earlier : filter ∈ (T.connection i).snapshot.active →
      Stale i filter (turns ++ [⟨T, tick, T'⟩]) ∨ T'.Granted i filter := by
    intro active
    rcases before filter active with stale | ⟨session, kept, e, said, grants⟩
    · exact Or.inl (stale.snoc live)
    · exact Or.inr ⟨session, h.keeps step direct kept nonempty, e, step.mem_exchanges said, grants⟩
  -- Only what a call or an event of the connection itself does can make the filter live.
  rcases h.staged.own_or_aside step direct i with own | aside
  · cases own with
    | start own enabled => exact earlier (Action.active_settle own _ live)
    | @reply k mover r reply next own there staged left permitted =>
        rcases (staged.waiting left).active own reply _ live with
          active | ⟨session, filters, codes, granted, subscribes, named, accepted⟩
        · exact earlier active
        · cases granted
          by_cases kept : T.Keeps i session
          · have grants : Exchange.Grants session filter ⟨.subscribe session filters, .ok codes⟩ :=
              ⟨filters, codes, rfl, named, fun _ _ => le_of_refusedFilters accepted⟩
            have said : (⟨.subscribe session filters, .ok codes⟩ : Exchange) ∈
                (T.scene.exchanges ++ [⟨.subscribe session filters, .ok codes⟩]) :=
              List.mem_append_right _ List.mem_cons_self
            exact Or.inr ⟨session, h.keeps step direct kept nonempty, _, said, grants⟩
          · exact Or.inl (.late ⟨⟨mover, there, subscribes⟩, named, accepted, kept⟩ live)
  · rw [aside.connection] at live
    exact earlier live

/-! ## Runs -/

/-- If the connects of a connection do not overlap, then each of its live filters was granted over
the session that it holds, or over one that a connect or a destroy took from it and is closing,
unless it became live by a late grant.  So without a session, and with none being closed, only such
a filter is live. -/
theorem Run.granted_of_live {s : Scene} (run : Run .long (quiet s) turns T)
    (direct : ∀ t ∈ turns, t.Direct) (alone : ∀ t ∈ turns, t.before.Alone i)
    (bare : (s.console.connection i).snapshot.active = []) :
    (∀ filter ∈ (T.connection i).snapshot.active, Stale i filter turns ∨ T.Granted i filter) ∧
    ((T.connection i).session = none → (∀ session, ¬ T.Closing i session) →
      ∀ filter ∈ (T.connection i).snapshot.active, Stale i filter turns) := by
  have all : T.Orderly i ∧ ∀ filter ∈ (T.connection i).snapshot.active,
      Stale i filter turns ∨ T.Granted i filter := by
    induction run with
    | start =>
        refine ⟨orderly_quiet s, ?_⟩
        intro filter live
        have none : filter ∈ ([] : List String) := bare ▸ live
        cases none
    | @step turns T T' tick previous step ih =>
        have now : (⟨T, tick, T'⟩ : Turn).Direct := direct _ (by simp)
        have single : T.Alone i := alone ⟨T, tick, T'⟩ (by simp)
        rcases ih (fun t member => direct t (List.mem_append_left _ member))
          (fun t member => alone t (List.mem_append_left _ member)) with ⟨orderly, before⟩
        exact ⟨orderly.step single step now, orderly.granted_step step now before⟩
  refine ⟨all.2, ?_⟩
  intro none unclosed filter live
  rcases all.2 filter live with stale | ⟨session, held | closing, -⟩
  · exact stale
  · rw [none] at held
    cases held
  · exact absurd closing (unclosed session)

/-- A connection that is up subscribes two filters and connects again.  The second filter is granted
while the session is being closed, which then fails. -/
theorem Run.granted_of_live_after_failed_close :
    ∃ turns T, Run .long (quiet (.furnished [.default ⟨7⟩])) turns T ∧
      (∀ t ∈ turns, t.Direct) ∧ (∀ t ∈ turns, t.before.Alone 0) ∧
      ((Scene.furnished [.default ⟨7⟩]).console.connection 0).snapshot.active = [] ∧
      (T.connection 0).session = some 0 ∧ (T.connection 0).snapshot.active = ["t", "u"] ∧
      T.Granted 0 "t" ∧ T.Granted 0 "u" := by
  have playable : (quiet (.furnished [.default ⟨7⟩])).Playable .long
      [.start (.direct 0 (.connect (.default ⟨7⟩) none)), .go 0, .start (.event 0 0 .connected),
        .start (.direct 0 (.subscribe [("t", .default)] .caller)), .go 2,
        .start (.direct 0 (.subscribe [("u", .default)] .caller)),
        .start (.direct 0 (.connect (.default ⟨7⟩) none)), .go 3, .refuse 4] := by
    decide
  have run := Run.play .start playable
  have granted := (run.granted_of_live (i := 0) (by decide) (by decide) (by decide)).1
  have first := (granted "t" (by decide)).resolve_left (not_stale (by decide))
  have second := (granted "u" (by decide)).resolve_left (not_stale (by decide))
  exact ⟨_, _, run, by decide, by decide, by decide, by decide, by decide, first, second⟩

/-- Without a session, a filter is live while the session is being closed; and also when everything
is over, if it was granted after the session ended.  And if the session of another connection fails,
a second connect is let through, whose session takes over the filters of the first one's. -/
theorem Run.live_without_session :
    (∃ turns T, Run .long (quiet (.furnished [.default ⟨7⟩])) turns T ∧
      (∀ t ∈ turns, t.Direct) ∧ (∀ t ∈ turns, t.before.Alone 0) ∧
      (∀ t ∈ turns, ¬ t.Late 0 "t") ∧ T.Closing 0 0 ∧
      (T.connection 0).session = none ∧ (T.connection 0).snapshot.active = ["t"]) ∧
    (∃ turns T, Run .long (quiet (.furnished [.default ⟨7⟩])) turns T ∧
      (∀ t ∈ turns, t.Direct) ∧ (∀ t ∈ turns, t.before.Alone 0) ∧
      (∀ task ∈ T.tasks, task.isOver = true) ∧
      (T.connection 0).session = none ∧ (T.connection 0).snapshot.active = ["t"]) ∧
    (∃ turns T, Run .long (quiet (.furnished [.default ⟨7⟩, .default ⟨8⟩])) turns T ∧
      (∀ t ∈ turns, t.Direct) ∧ (∀ t ∈ turns, ¬ t.Late 1 "t") ∧
      (T.connection 1).session = some 2 ∧ (T.connection 1).snapshot.active = ["t"] ∧
      ¬ T.Granted 1 "t") := by
  refine ⟨?_, ?_, ?_⟩
  · have playable : (quiet (.furnished [.default ⟨7⟩])).Playable .long
        [.start (.direct 0 (.connect (.default ⟨7⟩) none)), .go 0, .start (.event 0 0 .connected),
          .start (.direct 0 (.subscribe [("t", .default)] .caller)), .go 2,
          .start (.direct 0 (.connect (.default ⟨7⟩) none))] := by
      decide
    have run := Run.play .start playable
    exact ⟨_, _, run, by decide, by decide, by decide, by decide, by decide, by decide⟩
  · have playable : (quiet (.furnished [.default ⟨7⟩])).Playable .long
        [.start (.direct 0 (.connect (.default ⟨7⟩) none)), .go 0, .start (.event 0 0 .connected),
          .start (.direct 0 (.subscribe [("t", .default)] .caller)), .start (.event 0 0 .ended),
          .go 2] := by
      decide
    have run := Run.play .start playable
    exact ⟨_, _, run, by decide, by decide, by decide, by decide, by decide⟩
  · let plan : List Pick :=
      [.start (.direct 0 (.connect (.default ⟨7⟩) none)), .go 0, .start (.event 0 0 .connected),
        .start (.direct 1 (.connect (.default ⟨8⟩) none)), .start (.event 0 0 (.error "")),
        .start (.direct 1 (.connect (.default ⟨8⟩) none)), .go 2, .start (.event 1 1 .connected),
        .start (.direct 1 (.subscribe [("t", .default)] .caller)), .go 6, .go 4]
    let T := ((quiet (.furnished [.default ⟨7⟩, .default ⟨8⟩])).play .long plan).2
    have playable : (quiet (.furnished [.default ⟨7⟩, .default ⟨8⟩])).Playable .long plan := by
      decide
    have run := Run.play .start playable
    have held : (T.connection 1).session = some 2 := by decide
    have finished : ∀ task ∈ T.tasks, task.isOver = true := by decide
    have asked : T.scene.exchanges.filterMap Exchange.subscribed? = [1] := by decide
    have ungranted : ¬ T.Granted 1 "t" := by
      rintro ⟨session, keeps, e, said, filters, codes, rfl, -, -⟩
      have first : session ∈ T.scene.exchanges.filterMap Exchange.subscribed? :=
        List.mem_filterMap.2 ⟨_, said, rfl⟩
      rw [asked] at first
      obtain rfl := List.mem_singleton.1 first
      rcases keeps with same | ⟨task, member, -, -, waiting⟩
      · cases held.symm.trans same
      · -- No call waits for anything.
        have done := finished task member
        cases left : task.rest <;> simp [Task.isOver, Operation.isOver, Operation.pending?, left]
          at done waiting
    exact ⟨_, T, run, by decide, by decide, held, by decide, ungranted⟩

end Traffic

end DeviceConsole
