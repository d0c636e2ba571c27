import DeviceConsole.Proofs.Session.Reachable
import DeviceConsole.Proofs.Session.Replay

/-!
# Sessions that nobody holds any more

A session that was replaced or that ended may still raise events.  This file shows that they do
nothing, and that no connection takes such a session up again:

* `Transition.Stray`, an event of a session that its connection does not hold;
* `Interspersed A B`, runs of which the second has more stray events than the first;
* `Transition.Supersedes`, the steps after which a session is over, and `Board.Over`;
* `Run.undisturbed`, which says that such runs come to the same.
-/

namespace DeviceConsole

/-! ## Stray events -/

namespace Transition

variable {t : Transition}

/-- Whether a step is an event of a session that the connection does not hold. -/
def Stray (t : Transition) : Prop :=
  match t.label with
  | .event i session _ => (t.before.console.connection i).owns session = false
  | _ => False

/-- A stray event changes nothing, and nothing is said about it. -/
theorem Stray.after_eq (h : t.Stray) (step : Step t.before t.label t.after) :
    t.after = t.before := by
  unfold Stray at h
  generalize t.label = label at h step
  generalize t.after = after at step
  cases step with
  | event _ _ run => exact Connection.react_runs_of_not_owns h run
  | call | direct | outside => cases h

end Transition

/-- Whether the steps of a second run do what those of a first one do, with stray events anywhere
between them. -/
inductive Interspersed : List Transition → List Transition → Prop where
  | start : Interspersed [] []
  | alike {A B : List Transition} {t u : Transition} :
      Interspersed A B → t.Alike u → Interspersed (A ++ [t]) (B ++ [u])
  | stray {A B : List Transition} {u : Transition} :
      Interspersed A B → u.Stray → Interspersed A (B ++ [u])

/-- The same actions may be taken after runs that are interspersed. -/
theorem Interspersed.play {A B : List Transition} (h : Interspersed A B) (respond : Responder)
    (s s' : Scene) (actions : List Action) :
    Interspersed (A ++ (s.play respond actions).1) (B ++ (s'.play respond actions).1) := by
  induction actions generalizing A B s s' with
  | nil => simpa [Scene.play] using h
  | cons a rest ih =>
      have same : (a.take respond s).Alike (a.take respond s') := by
        cases a <;> exact .action _ rfl rfl
      have longer := ih (h.alike same) (a.take respond s).after (a.take respond s').after
      simpa [Scene.play, List.append_assoc] using longer

namespace Run

variable {start s s' : Scene} {A B : List Transition}

@[simp] theorem nil_iff : Run start [] s ↔ s = start := by
  constructor
  · intro run
    generalize e : ([] : List Transition) = transitions at run
    cases run with
    | start => rfl
    | step => simp at e
  · rintro rfl
    exact .start

theorem snoc_iff {t : Transition} :
    Run start (A ++ [t]) s ↔
      Run start A t.before ∧ Step t.before t.label t.after ∧ s = t.after := by
  constructor
  · intro run
    generalize e : A ++ [t] = transitions at run
    cases run with
    | start => simp at e
    | step previous step =>
        rcases List.append_inj' e rfl with ⟨rfl, last⟩
        cases last
        exact ⟨previous, step, rfl⟩
  · rintro ⟨previous, step, rfl⟩
    exact .step previous step

/-- Stray events make no difference to a run against the same transport. -/
theorem replay (woven : Interspersed A B) (first : Run start A s) (second : Run start B s')
    (alike : s.AnsweredAlike s') : s' = s ∧ A.Sublist B := by
  -- The runs are taken apart from their ends: both reach the same scene before their last steps.
  induction woven generalizing s s' with
  | start =>
      rw [nil_iff.1 first, nil_iff.1 second]
      exact ⟨rfl, .slnil⟩
  | @alike A B t u _ same ih =>
      rcases snoc_iff.1 first with ⟨run, step, rfl⟩
      rcases snoc_iff.1 second with ⟨run', step', rfl⟩
      rcases ih run run' (alike.earlier step.exchanges step'.exchanges) with ⟨before, sub⟩
      obtain rfl := same.eq before step step' alike
      exact ⟨rfl, sub.append (.refl _)⟩
  | @stray A B u _ foreign ih =>
      rcases snoc_iff.1 second with ⟨run', step, rfl⟩
      rw [foreign.after_eq step] at alike ⊢
      rcases ih first run' alike with ⟨same, sub⟩
      exact ⟨same, sub.trans (List.sublist_append_left _ _)⟩

end Run

/-- A stray event may come at any point of a run. -/
theorem Run.disturb {start s : Scene} {A : List Transition} (run : Run start A s)
    {i : ConnectionRef} {session : SessionId} {event : TransportEvent}
    (enabled : Action.Enabled s (.event i session event))
    (foreign : (s.console.connection i).owns session = false) :
    ∃ t : Transition, t.Stray ∧ Run start (A ++ [t]) s := by
  let t : Transition := (Action.event i session event).take .obliging s
  have step : Step t.before t.label t.after := Action.step_take Responder.fair_obliging enabled
  have stray : t.Stray := foreign
  refine ⟨t, stray, snoc_iff.2 ⟨run, step, (stray.after_eq step).symm⟩⟩

/-! ## Sessions that are over -/

namespace Board

variable {b b' : Board} {marks : List Mark} {session : SessionId} {j : ConnectionRef} {w : Vitals}

/-- Whether a session was opened and no connection holds it. -/
structure Over (b : Board) (session : SessionId) : Prop where
  opened : session ∈ b.opened
  unheld : ∀ {i : ConnectionRef} {v : Vitals}, b.vitals[i]? = some v → v.session ≠ some session

/-- A connection holds a session after a put only if it did before, or by what was put. -/
theorem held_put {i : ConnectionRef} {v u : Vitals} (hv : b.vitals[i]? = some v)
    (hw : (b.put i u).vitals[j]? = some w) (held : w.session = some session)
    (hu : u.session = some session → v.session = some session) :
    ∃ x, b.vitals[j]? = some x ∧ x.session = some session := by
  rcases get?_put hw with ⟨rfl, rfl⟩ | ⟨-, before⟩
  · exact ⟨v, hv, hu held⟩
  · exact ⟨w, before, held⟩

/-- The session that a connection holds after a move is the one it held before, or a new one that
was put on file for it. -/
theorem Move.held (move : b.Move marks b') (hw : b'.vitals[j]? = some w)
    (held : w.session = some session) :
    (∃ v, b.vitals[j]? = some v ∧ v.session = some session) ∨ session ∉ b.opened := by
  cases move with
  | idle | kept | gone => exact Or.inl ⟨w, hw, held⟩
  | @opened i v n hv _ _ fresh =>
      rcases get?_put hw with ⟨-, rfl⟩ | ⟨-, before⟩
      · cases held
        exact Or.inr fresh
      · exact Or.inl ⟨w, before, held⟩
  | unopened hv _ _ => exact Or.inl (held_put hv hw held nofun)
  | closed hv _ => exact Or.inl (held_put hv hw held id)
  | destroyed hv _ _ | aborted hv _ _ => exact Or.inl (held_put hv hw held nofun)
  | marked live hv _ => exact Or.inl (held_put hv hw held id)
  | forgot filter hv => exact Or.inl (held_put hv hw held id)
  | retried hv _ _ _ => exact Or.inl (held_put hv hw held id)
  | settled hv _ _ settles =>
      refine Or.inl (held_put hv hw held ?_)
      cases settles with
      | ended => nofun
      | up | failed | dropped | gaveUp => exact id

theorem Move.opened_mono (move : b.Move marks b') (h : session ∈ b.opened) :
    session ∈ b'.opened := by
  cases move with
  | opened => exact List.mem_append_left _ h
  | idle | unopened | kept | closed | destroyed | aborted | gone | marked | forgot | retried
  | settled => exact h

/-- No connection takes a session up again that is over. -/
theorem Over.reaches (h : b.Over session) (reached : b.Reaches marks b') : b'.Over session := by
  rcases reached with ⟨middle, grown, move⟩
  have still : middle.Over session := by
    refine ⟨by rw [grown.opened]; exact h.opened, ?_⟩
    intro i v hv
    rcases grown.get? hv with before | rfl
    · exact h.unheld before
    · nofun
  refine ⟨move.opened_mono still.opened, ?_⟩
  intro i w hw held
  rcases move.held hw held with ⟨v, hv, before⟩ | fresh
  · exact still.unheld hv before
  · exact fresh still.opened

/-- Whether the events of each session go to the one connection that may hold it. -/
structure Filed (b : Board) : Prop where
  opened : ∀ entry ∈ b.handlers, entry.1 ∈ b.opened
  owner : ∀ entry ∈ b.handlers, ∀ {j : ConnectionRef} {w : Vitals}, b.vitals[j]? = some w →
    w.session = some entry.1 → j = entry.2

theorem Filed.extends (h : b.Filed) (grown : b.Extends b') : b'.Filed where
  opened := by
    intro entry member
    rw [grown.opened]
    exact h.opened entry (grown.handlers entry member)
  owner := by
    intro entry member j w hw held
    rcases grown.get? hw with before | rfl
    · exact h.owner entry (grown.handlers entry member) before held
    · cases held

theorem Filed.move (h : b.Filed) (sound : b.Sound) (move : b.Move marks b') : b'.Filed := by
  -- Sessions on file stay with their connections, since what was opened is not opened again.
  have old : ∀ entry ∈ b.handlers, ∀ {j : ConnectionRef} {w : Vitals}, b'.vitals[j]? = some w →
      w.session = some entry.1 → j = entry.2 := by
    intro entry member j w hw held
    rcases move.held hw held with ⟨v, hv, before⟩ | fresh
    · exact h.owner entry member hv before
    · exact absurd (h.opened entry member) fresh
  have opened : ∀ entry ∈ b.handlers, entry.1 ∈ b'.opened :=
    fun entry member => move.opened_mono (h.opened entry member)
  cases move with
  | @opened i v n hv _ _ fresh =>
      constructor
      · intro entry member
        rcases List.mem_append.1 member with member | member
        · exact opened entry member
        · rcases List.mem_singleton.1 member with rfl
          exact List.mem_append_right _ (List.mem_singleton_self _)
      · intro entry member j w hw held
        rcases List.mem_append.1 member with member | member
        · exact old entry member hw held
        · rcases List.mem_singleton.1 member with rfl
          rcases get?_put hw with ⟨rfl, -⟩ | ⟨-, before⟩
          · rfl
          · exact absurd (sound.known before held) fresh
  | idle | unopened | kept | closed | destroyed | aborted | gone | marked | forgot | retried
  | settled => exact ⟨opened, old⟩

end Board

def Exchange.closed? : Exchange → Option SessionId
  | ⟨.close session, .ok _⟩ => some session
  | _ => none

theorem Exchange.closed?_eq_some {e : Exchange} {session : SessionId} :
    e.closed? = some session ↔ e = ⟨.close session, .ok ()⟩ := by
  constructor
  · intro h
    unfold closed? at h
    split at h
    · cases h
      rfl
    · cases h
  · rintro rfl
    rfl

namespace Transition

def said (t : Transition) : List Exchange := t.after.exchanges.drop t.before.exchanges.length

/-- Whether a session is over with a step: the step is its end, or a connect that closed it. -/
def Supersedes (session : SessionId) (t : Transition) : Prop :=
  match t.label with
  | .call (.connect _ _) _ => session ∈ t.said.filterMap Exchange.closed?
  | .direct _ (.connect _ _) _ => session ∈ t.said.filterMap Exchange.closed?
  | .event _ gone .ended => gone = session
  | _ => False

end Transition

namespace Connection

open Operation

variable {s s' : Scene} {i : ConnectionRef} {session : SessionId}

/-- A session that a connect closed is over. -/
theorem over_of_connect {p : Profile} {token : Option String} {a : Except ConsoleError Bool}
    (sound : s.board.Sound) (hi : i < s.console.connections.length)
    (h : (connect i p token).Runs s a s') {said : List Exchange}
    (e : s'.exchanges = s.exchanges ++ said) (h' : session ∈ said.filterMap Exchange.closed?) :
    s'.board.Over session := by
  have closed : ⟨.close session, .ok ()⟩ ∈ said := by
    rcases List.mem_filterMap.1 h' with ⟨x, member, hx⟩
    rwa [Exchange.closed?_eq_some.1 hx] at member
  have hv : s.board.vitals[i]? = some (s.console.connection i).vitals :=
    Console.board_get?_iff.2 ⟨hi, rfl⟩
  rcases connect_outcome hv h with ⟨said', e', ⟨-, none⟩ | ⟨own, w, vitals, -, fresh⟩⟩
  · obtain rfl := List.append_cancel_left (e.symm.trans e')
    exact absurd closed (none session)
  · obtain rfl := List.append_cancel_left (e.symm.trans e')
    have held := own session closed
    have opened := sound.known hv held
    have later : s.board.opened ⊆ s'.board.opened := by
      intro n member
      have more : s'.board.opened = s.board.opened ++ said.filterMap Exchange.opened? := by
        simp [Scene.board, Console.board, Scene.opened, e]
      rw [more]
      exact List.mem_append_left _ member
    refine ⟨later opened, ?_⟩
    intro j x hx taken
    by_cases same : i = j
    · subst same
      -- The connection of the call is left with a new session at most.
      obtain rfl : w = x := by
        rw [vitals] at hx
        simpa [(List.getElem?_eq_some_iff.1 hv).1] using hx
      exact fresh session taken opened
    · rw [vitals, List.getElem?_set_ne same] at hx
      exact same (sound.distinct hv hx held taken)

/-- A session that ended is over. -/
theorem over_of_ended {u : Unit} (sound : s.board.Sound) (filed : s.board.Filed)
    (member : (session, i) ∈ s.console.handlers) (h : (react i session .ended).Runs s u s') :
    s'.board.Over session := by
  have hi := sound.handlers _ member
  have opened : session ∈ s.board.opened := filed.opened _ member
  obtain ⟨v, hv⟩ : ∃ v, s.board.vitals[i]? = some v := ⟨_, List.getElem?_eq_getElem hi⟩
  cases owned : (s.console.connection i).owns session with
  | false =>
      -- Only the connection on file could hold the session, and it does not.
      rw [react_runs_of_not_owns owned h]
      refine ⟨opened, ?_⟩
      intro j w hw held
      obtain rfl := filed.owner _ member hw held
      rcases Console.board_get?_iff.1 hw with ⟨-, rfl⟩
      rw [owns_iff.2 held] at owned
      cases owned
  | true =>
      rcases Console.board_get?_iff.1 hv with ⟨-, rfl⟩
      have held := owns_iff.1 owned
      rcases runs_change_iff.1 h with rfl
      rw [Scene.board_apply, board_onEnded hv held]
      refine ⟨opened, ?_⟩
      intro j w hw taken
      rcases Board.get?_put hw with ⟨-, rfl⟩ | ⟨differs, before⟩
      · cases taken
      · exact differs (sound.distinct before hv taken held)

end Connection

/-- A session that a connect of the console closed is over as well. -/
theorem Console.over_of_connect {s s' : Scene} {id : ConnectionId} {token : Option String}
    {a : Console.Result Bool} {session : SessionId} (sound : s.board.Sound)
    (h : (Console.connect id token).Runs s a s') {said : List Exchange}
    (e : s'.exchanges = s.exchanges ++ said) (closed : session ∈ said.filterMap Exchange.closed?) :
    s'.board.Over session := by
  have delegates : s.Delegates (fun call => ∃ p, call = .connect p token) s' :=
    Console.connect_delegates (fun p => ⟨p, rfl⟩) sound h
  rcases delegates with ⟨m, grown, rfl | ⟨i, _, result, last, ⟨p, rfl⟩, hi, run, later⟩⟩
  · -- Without a call of a connection nothing was said.
    obtain rfl : said = [] := by simpa [grown.exchanges] using e
    cases closed
  · have said' : last.exchanges = m.exchanges ++ said := by
      rw [← later.exchanges, grown.exchanges, e]
    have done := Connection.over_of_connect (sound.extends grown.board) hi run said' closed
    exact done.reaches ((Board.Reaches.of_move .idle).of_extends later.board)

namespace Transition

variable {t : Transition} {session : SessionId}

theorem exchanges_eq (step : Step t.before t.label t.after) :
    t.after.exchanges = t.before.exchanges ++ t.said := by
  rcases step.exchanges with ⟨said, e⟩
  rw [Transition.said, e, List.drop_left]

/-- After a step that supersedes a session, the session is over. -/
theorem Supersedes.over (h : t.Supersedes session) (sound : t.before.board.Sound)
    (filed : t.before.board.Filed) (step : Step t.before t.label t.after) :
    t.after.board.Over session := by
  have e := exchanges_eq step
  unfold Supersedes at h
  generalize t.said = said at e h
  generalize t.label = label at h step
  generalize t.after = after at e step ⊢
  cases step with
  | @call call _ _ _ run =>
      cases call with
      | connect id token => exact Console.over_of_connect sound run e h
      | _ => cases h
  | @direct i call _ _ _ hi run =>
      cases call with
      | connect p token => exact Connection.over_of_connect sound hi run e h
      | _ => cases h
  | @event i gone event _ _ member _ run =>
      cases event with
      | ended =>
          obtain rfl : gone = session := h
          exact Connection.over_of_ended sound filed member run
      | _ => cases h
  | outside => cases h

end Transition

namespace Run

variable {settings : Settings} {catalog : Catalog} {storage : ProfileStorage}
  {fresh : Nat → ConnectionId} {clock : Int} {A B : List Transition} {s s' : Scene}

theorem filed (run : Run (.start settings catalog storage fresh clock) A s) : s.board.Filed := by
  induction run with
  | start =>
      have blank : Board.blank.Filed := by constructor <;> simp [Board.blank]
      exact blank.extends (Scene.extends_start _ _ _ _ _)
  | step previous step ih =>
      rcases step.reaches previous.sound with ⟨middle, grown, move⟩
      exact (ih.extends grown).move (previous.sound.extends grown) move

/-- A session that was superseded stays over. -/
theorem over_of_mem (run : Run (.start settings catalog storage fresh clock) A s) :
    ∀ t ∈ A, ∀ session, t.Supersedes session → s.board.Over session := by
  induction run with
  | start =>
      intro t member
      cases member
  | @step ts s s' label previous step ih =>
      intro t member session h
      rcases List.mem_append.1 member with member | member
      · exact (ih t member session h).reaches (step.reaches previous.sound)
      · obtain rfl : t = ⟨s, label, s'⟩ := List.mem_singleton.1 member
        exact h.over previous.sound previous.filed step

/-- Sessions that are not held any more do not interfere: stray events leave every step of a run,
and the scene it comes to, as they are; and no connection ever holds a session again after a
connect closed it or it ended. -/
theorem undisturbed (first : Run (.start settings catalog storage fresh clock) A s)
    (second : Run (.start settings catalog storage fresh clock) B s')
    (woven : Interspersed A B) (alike : s.AnsweredAlike s') :
    s' = s ∧ A.Sublist B ∧ ∀ t ∈ B, ∀ session, t.Supersedes session →
      ∀ i < s'.console.connections.length, (s'.console.connection i).session ≠ some session := by
  rcases replay woven first second alike with ⟨same, sub⟩
  refine ⟨same, sub, ?_⟩
  intro t member session superseded i hi
  exact (second.over_of_mem t member session superseded).unheld (Console.board_get?_iff.2 ⟨hi, rfl⟩)

/-- Session `0` was replaced by session `1`, and an error and an end of it that come later do not
show. -/
theorem undisturbed_after_replacement :
    ∃ A B s s', Run .blank A s ∧ Run .blank B s' ∧ B.length = A.length + 2 ∧
      (s.console.connection 0).session = some 1 ∧ (∃ t ∈ A, t.Supersedes 0) ∧
      s' = s ∧ A.Sublist B ∧ ∀ t ∈ B, ∀ session, t.Supersedes session →
        ∀ i < s'.console.connections.length, (s'.console.connection i).session ≠ some session := by
  let opening : List Action :=
    [.call (.getOrCreate ⟨0⟩ (some default)), .direct 0 (.connect default none),
      .event 0 0 .connected, .direct 0 (.connect default none)]
  let going : List Action := [.event 0 1 .connected]
  let middle : Scene := (Scene.blank.play .obliging opening).2
  have playable : Scene.blank.Playable .obliging opening := by decide
  have playable' : middle.Playable .obliging going := by decide
  have opened : Run .blank _ middle := Run.play Responder.fair_obliging .start playable
  have foreign : (middle.console.connection 0).owns 0 = false := by decide
  have handled : (0, 0) ∈ middle.console.handlers ∧
      (middle.console.connection 0).destroyed = false := by decide
  have enabled : ∀ event, Action.Enabled middle (.event 0 0 event) := fun _ => handled
  obtain ⟨failed, strays, disturbed⟩ := opened.disturb (enabled (.error "late")) foreign
  obtain ⟨ended, strays', disturbed'⟩ := disturbed.disturb (enabled .ended) foreign
  have first := Run.play Responder.fair_obliging opened playable'
  have second := Run.play Responder.fair_obliging disturbed' playable'
  have opened' := Interspersed.start.play .obliging .blank .blank opening
  have woven := (opened'.stray strays).stray strays'
  have result := Run.undisturbed first second (woven.play .obliging middle middle going)
    (Scene.AnsweredAlike.of_eq rfl)
  refine ⟨_, _, _, _, first, second, ?_, by decide, ?_, result⟩
  · simp [Scene.play, opening, going]
  · refine ⟨(Action.direct 0 (.connect default none)).take .obliging
      (Scene.blank.play .obliging (opening.take 3)).2, ?_, ?_⟩
    · simp [opening, going, Scene.play]
    · show 0 ∈ (Transition.said _).filterMap Exchange.closed?
      decide

end Run

end DeviceConsole
