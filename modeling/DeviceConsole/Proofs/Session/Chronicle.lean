import DeviceConsole.Proofs.Session.Reports

/-!
# Sessions as listeners hear of them

What is told of a session over a run follows a pattern: the token of the connect that opened it
comes with the first event that says it is up, and nothing comes after the event that says it is
over.
This file defines:

* `Transition.Announces`, the steps that say that a session is up;
* `Traced`, where the token of a connection comes from, which holds in every run;
* `Chronicle`, the pattern, and `Run.chronicle`.
-/

namespace DeviceConsole

def Transition.Announces (session : SessionId) (t : Transition) : Prop :=
  ∃ i, t.label = .event i session .connected

/-! ## Sessions are opened once -/

namespace Transition

variable {t : Transition} {session : SessionId} {p : Profile} {token : Option String}

/-- A session that a connect opens was not opened before. -/
theorem Opens.unopened (h : t.Opens session p token) (step : Step t.before t.label t.after) :
    session ∉ t.before.opened := by
  have e := exchanges_eq step
  rcases h with ⟨connecting, opened⟩
  generalize t.said = said at e opened
  generalize t.label = label at connecting step
  generalize t.after = after at e step
  cases step with
  | call run => exact run.unopened e opened
  | direct _ run => exact run.unopened e opened
  | event _ _ run => exact run.unopened e opened
  | outside => cases connecting

theorem Opens.mem_opened (h : t.Opens session p token) (step : Step t.before t.label t.after) :
    session ∈ t.after.opened := by
  rw [Scene.opened, exchanges_eq step, List.filterMap_append]
  exact List.mem_append_right _ h.opened

end Transition

/-- What was opened stays on record. -/
theorem Step.opened_subset {s s' : Scene} {label : Label} (step : Step s label s') :
    s.opened ⊆ s'.opened := by
  intro session member
  rcases step.exchanges with ⟨said, e⟩
  rw [Scene.opened, e, List.filterMap_append]
  exact List.mem_append_left _ member

namespace Run

variable {start s : Scene} {transitions : List Transition}

/-- What was opened after a step of a run stays on record. -/
theorem opened_of_mem (run : Run start transitions s) {t : Transition} (h : t ∈ transitions) :
    t.after.opened ⊆ s.opened := by
  induction run with
  | start => cases h
  | @step ts s s' label _ step ih =>
      rcases List.mem_append.1 h with h | h
      · exact fun _ member => step.opened_subset (ih h member)
      · obtain rfl : t = ⟨s, label, s'⟩ := List.mem_singleton.1 h
        exact fun _ member => member

/-- No session is opened twice. -/
theorem opens_once (run : Run start transitions s) {earlier later : List Transition}
    {t u : Transition} (e : transitions = earlier ++ t :: later) (member : u ∈ later)
    {session : SessionId} {p q : Profile} {token other : Option String}
    (first : t.Opens session p token) : ¬ u.Opens session q other := by
  intro second
  rcases List.append_of_mem member with ⟨between, rest, rfl⟩
  rcases run.split e with ⟨-, step⟩
  have whole : transitions = (earlier ++ t :: between) ++ u :: rest := by simp [e]
  rcases run.split whole with ⟨previous, step'⟩
  exact second.unopened step' (previous.opened_of_mem (by simp) (first.mem_opened step))

end Run

/-! ## Where tokens come from -/

/-- Whether a session was opened by a connect of a run, and a token is the one of this connect,
until the session is up; after that there is none. -/
def Traced (transitions : List Transition) (session : SessionId) (token : Option String) : Prop :=
  ∃ earlier o later p given, transitions = earlier ++ o :: later ∧ o.Opens session p given ∧
    (((∀ u ∈ later, ¬ u.Announces session) ∧ token = given) ∨
      ((∃ u ∈ later, u.Announces session) ∧ token = none))

namespace Traced

variable {transitions : List Transition} {t : Transition} {session : SessionId}
  {token : Option String}

theorem of_opens {p : Profile} (opens : t.Opens session p token) :
    Traced (transitions ++ [t]) session token :=
  ⟨transitions, t, [], p, token, rfl, opens, Or.inl ⟨by simp, rfl⟩⟩

theorem announced (h : Traced transitions session token) (up : t.Announces session) :
    Traced (transitions ++ [t]) session none := by
  rcases h with ⟨earlier, o, later, p, given, rfl, opens, -⟩
  exact ⟨earlier, o, later ++ [t], p, given, by simp, opens, Or.inr ⟨⟨t, by simp, up⟩, rfl⟩⟩

/-- Other steps say nothing about a token. -/
theorem later (h : Traced transitions session token) (other : ¬ t.Announces session) :
    Traced (transitions ++ [t]) session token := by
  rcases h with ⟨earlier, o, later, p, given, rfl, opens, tokens⟩
  refine ⟨earlier, o, later ++ [t], p, given, by simp, opens, ?_⟩
  rcases tokens with ⟨none, same⟩ | ⟨⟨u, member, up⟩, spent⟩
  · refine Or.inl ⟨?_, same⟩
    intro u member
    rcases List.mem_append.1 member with member | member
    · exact none u member
    · rwa [List.mem_singleton.1 member]
  · exact Or.inr ⟨⟨u, List.mem_append_left _ member, up⟩, spent⟩

end Traced

namespace Run

variable {settings : Settings} {catalog : Catalog} {storage : ProfileStorage}
  {fresh : Nat → ConnectionId} {clock : Int} {transitions : List Transition} {s : Scene}
  {i : ConnectionRef} {session : SessionId}

/-- The token of a connection is that of the connect that opened its session, until this is up. -/
theorem traced (run : Run (.start settings catalog storage fresh clock) transitions s)
    (held : (s.console.connection i).session = some session) :
    Traced transitions session (s.console.connection i).token := by
  induction run with
  | start =>
      -- No connection has a session at first.
      have grown := Scene.extends_start settings catalog storage fresh clock
      rcases grown.get? (Scene.get?_of_held held) with before | first
      · simp [Board.blank] at before
      · cases held.symm.trans (congrArg Vitals.session first)
  | @step ts s s' label previous step ih =>
      have e := Transition.exchanges_eq (t := ⟨s, label, s'⟩) step
      cases (step.course previous.sound e).ties previous.filed held with
      | opened p token connecting opened same _ =>
          rw [same]
          exact .of_opens ⟨connecting, opened⟩
      | announced up own spent _ =>
          rw [spent]
          exact (ih own).announced ⟨i, up⟩
      | kept other bound =>
          rw [bound.token]
          refine (ih (bound.session.symm.trans held)).later ?_
          rintro ⟨j, up⟩
          exact other j up

/-- Once the session that a connection holds was said to be up, no token is left for it. -/
theorem spent (run : Run (.start settings catalog storage fresh clock) transitions s)
    {t : Transition} (member : t ∈ transitions) (up : t.Announces session)
    (held : (t.before.console.connection i).session = some session) {token : Option String}
    (traced : Traced transitions session token) : token = none := by
  rcases traced with ⟨earlier, o, later, p, given, e, opens, ⟨none, -⟩ | ⟨-, spent⟩⟩
  · rcases run.split e with ⟨previous, step⟩
    rcases run.before_mem member with ⟨_, _, -, before, announcing⟩
    have known : session ∈ t.before.opened := before.sound.known (Scene.get?_of_held held) held
    -- The session was opened before it could come up.
    rw [e] at member
    rcases List.mem_append.1 member with member | member
    · have recorded := previous.opened_of_mem member (announcing.opened_subset known)
      exact absurd recorded (opens.unopened step)
    · rcases List.mem_cons.1 member with rfl | member
      · exact absurd known (opens.unopened step)
      · exact absurd up (none t member)
  · exact spent

end Run

/-! ## Chronicles -/

namespace Transition

variable {t : Transition} {x : Report}

/-- A report is about something that happens to a session that a connection holds, and says under
its scope what it is. -/
theorem mem_reports (h : x ∈ t.reports) :
    ∃ y ∈ t.occasions, x.session = y.session ∧ x.event.kind = y.kind ∧
      ∃ i, (t.before.console.connection i).session = some x.session := by
  rcases List.mem_filterMap.1 h with ⟨y, member, told⟩
  rcases Option.bind_eq_some_iff.1 told with ⟨holder, found, told⟩
  rcases Option.map_eq_some_iff.1 told with ⟨event, event_eq, rfl⟩
  rcases Scene.holder?_eq_some found with ⟨i, rfl, held⟩
  exact ⟨y, member, rfl, ThingScope.kind_of_event? event_eq, i, held⟩

theorem course (sound : t.before.board.Sound) (step : Step t.before t.label t.after) :
    Course t.before t.label t.said t.after := step.course sound (exchanges_eq step)

/-- There is at most one report of a step. -/
theorem reports_eq_singleton (sound : t.before.board.Sound)
    (step : Step t.before t.label t.after) (h : x ∈ t.reports) : t.reports = [x] := by
  have few : t.reports.length ≤ 1 :=
    Nat.le_trans (List.length_filterMap_le _ _) (course sound step).occasions_length_le
  cases reports : t.reports with
  | nil =>
      rw [reports] at h
      cases h
  | cons y rest =>
      rw [reports] at h few
      obtain rfl : rest = [] := by simpa using few
      rw [List.mem_singleton.1 h]

/-- Something happens to a session when a connect replaces it, when a message is sent over it, and
when its connection handles an event of it. -/
theorem mem_occasions {y : Occasion} (h : y ∈ t.occasions) :
    (y.kind = .disconnected ∧ t.Supersedes y.session) ∨ (∃ topic, y.kind = .messageOut topic) ∨
      ∃ i event, t.label = .event i y.session event ∧
        (t.before.console.connection i).session = some y.session ∧
        (t.before.console.connection i).occasion? y.session event = some y := by
  rcases t with ⟨s, label, s'⟩
  cases label with
  | call call =>
      cases call with
      | connect =>
          rcases List.mem_map.1 h with ⟨session, closed, rfl⟩
          exact Or.inl ⟨rfl, closed⟩
      | publish =>
          rcases List.mem_map.1 h with ⟨session, -, rfl⟩
          exact Or.inr (Or.inl ⟨_, rfl⟩)
      | _ => cases h
  | direct i call =>
      cases call with
      | connect =>
          rcases List.mem_map.1 h with ⟨session, closed, rfl⟩
          exact Or.inl ⟨rfl, closed⟩
      | publish =>
          rcases List.mem_map.1 h with ⟨session, -, rfl⟩
          exact Or.inr (Or.inl ⟨_, rfl⟩)
      | _ => cases h
  | event i session event =>
      rcases Label.mem_occasions_event h with ⟨held, happened⟩
      obtain rfl := Connection.session_of_occasion? happened
      exact Or.inr (Or.inr ⟨i, event, rfl, held, happened⟩)
  | outside => cases h

/-- Only a connect that closed a session, and its end, say that it is over. -/
theorem supersedes_of_disconnected {y : Occasion} (h : y ∈ t.occasions)
    (kind : y.kind = .disconnected) : t.Supersedes y.session := by
  rcases mem_occasions h with ⟨-, superseded⟩ | ⟨topic, sent⟩ | ⟨i, event, label, -, happened⟩
  · exact superseded
  · cases kind.symm.trans sent
  · -- The end is the one event that means this.
    obtain rfl : event = .ended := by
      cases event with
      | ended => rfl
      | connected | message =>
          rw [← Option.some.inj happened] at kind
          cases kind
      | _ => cases happened
    rw [Supersedes, label]

/-- Only an event of its connection says that a session came up, with the token that this has. -/
theorem announces_of_connected {y : Occasion} {token : Option String} (h : y ∈ t.occasions)
    (kind : y.kind = .connected token) :
    ∃ i, t.label = .event i y.session .connected ∧
      (t.before.console.connection i).session = some y.session ∧
      token = (t.before.console.connection i).token := by
  rcases mem_occasions h with ⟨gone, -⟩ | ⟨topic, sent⟩ | ⟨i, event, label, held, happened⟩
  · cases kind.symm.trans gone
  · cases kind.symm.trans sent
  · cases event with
    | connected =>
        rw [← Option.some.inj happened] at kind
        cases kind
        exact ⟨i, label, held, rfl⟩
    | message | ended =>
        rw [← Option.some.inj happened] at kind
        cases kind
    | _ => cases happened

theorem announces_of_report {token : Option String} (h : x ∈ t.reports)
    (kind : x.event.kind = .connected token) :
    ∃ i, t.label = .event i x.session .connected ∧
      (t.before.console.connection i).session = some x.session ∧
      token = (t.before.console.connection i).token := by
  rcases mem_reports h with ⟨y, happened, same, kind', -⟩
  rw [same]
  exact announces_of_connected happened (kind'.symm.trans kind)

/-- Every step but those from outside is heard. -/
theorem heard (sound : t.before.board.Sound) (step : Step t.before t.label t.after)
    (inside : t.label ≠ .outside) : t.Heard := ((course sound step).airs sound inside).1

end Transition

/-- What listeners hear of sessions over a run: `heard` says that the reports are all there is,
`last` that nothing comes after the event that says a session is over, `token` and `once` where the
token of an event comes from, and `spent` that it does not come again. -/
structure Chronicle (transitions : List Transition) : Prop where
  heard : ∀ t ∈ transitions, t.label ≠ .outside → t.Heard
  last : ∀ earlier t later, transitions = earlier ++ t :: later → ∀ x ∈ t.reports,
    x.event.kind = .disconnected → t.Supersedes x.session ∧ t.reports = [x] ∧
      (∃ i, (t.before.console.connection i).session = some x.session) ∧
      ∀ u ∈ later, ∀ y ∈ u.reports, y.session ≠ x.session
  token : ∀ earlier t later, transitions = earlier ++ t :: later → ∀ x ∈ t.reports,
    ∀ token, x.event.kind = .connected token →
      t.Announces x.session ∧ Traced earlier x.session token
  spent : ∀ earlier t later, transitions = earlier ++ t :: later → ∀ x ∈ t.reports,
    ∀ token, x.event.kind = .connected token →
      ∀ u ∈ later, ∀ y ∈ u.reports, y.session = x.session →
        ∀ other, y.event.kind = .connected other → other = none
  once : ∀ earlier t later, transitions = earlier ++ t :: later →
    ∀ session p token, t.Opens session p token →
      ∀ u ∈ later, ∀ q other, ¬ u.Opens session q other

namespace Run

variable {settings : Settings} {catalog : Catalog} {storage : ProfileStorage}
  {fresh : Nat → ConnectionId} {clock : Int} {transitions : List Transition} {s : Scene}

/-- After a step that supersedes a session nothing is told of it. -/
theorem unreported (run : Run (.start settings catalog storage fresh clock) transitions s)
    {earlier later : List Transition} {t u : Transition} (e : transitions = earlier ++ t :: later)
    (member : u ∈ later) {session : SessionId} (superseded : t.Supersedes session) :
    ∀ y ∈ u.reports, y.session ≠ session := by
  rintro y reported rfl
  rcases List.append_of_mem member with ⟨between, rest, rfl⟩
  have whole : transitions = (earlier ++ t :: between) ++ u :: rest := by simp [e]
  rcases run.split whole with ⟨previous, -⟩
  rcases Transition.mem_reports reported with ⟨-, -, -, -, i, held⟩
  exact (previous.over_of_mem t (by simp) _ superseded).unheld (Scene.get?_of_held held) held

/-- Over every run listeners hear what the chronicle of its sessions says. -/
theorem chronicle (run : Run (.start settings catalog storage fresh clock) transitions s) :
    Chronicle transitions := by
  constructor
  · intro t member inside
    rcases run.before_mem member with ⟨_, _, -, previous, step⟩
    exact Transition.heard previous.sound step inside
  · intro earlier t later e x reported kind
    rcases run.split e with ⟨previous, step⟩
    rcases Transition.mem_reports reported with ⟨y, happened, same, kind', held⟩
    have superseded : t.Supersedes x.session := by
      rw [same]
      exact Transition.supersedes_of_disconnected happened (kind'.symm.trans kind)
    exact ⟨superseded, Transition.reports_eq_singleton previous.sound step reported, held,
      fun u member => run.unreported e member superseded⟩
  · intro earlier t later e x reported token kind
    rcases run.split e with ⟨previous, -⟩
    rcases Transition.announces_of_report reported kind with ⟨i, label, held, rfl⟩
    exact ⟨⟨i, label⟩, previous.traced held⟩
  · intro earlier t later e x reported token kind u member y told same other kind'
    rcases List.append_of_mem member with ⟨between, rest, rfl⟩
    have whole : transitions = (earlier ++ t :: between) ++ u :: rest := by simp [e]
    rcases run.split whole with ⟨previous, -⟩
    rcases Transition.announces_of_report reported kind with ⟨i, label, held, -⟩
    rcases Transition.announces_of_report told kind' with ⟨j, -, held', rfl⟩
    have traced := previous.traced held'
    rw [same] at traced
    -- The session was said to be up before, in a step that comes after the connect that opened it.
    exact previous.spent (by simp) ⟨i, label⟩ held traced
  · intro earlier t later e session p token opens u member q other
    exact run.opens_once e member opens

/-- Session `1` replaces session `0`, and each comes up twice: both tokens are told once, and the
late end of session `0` is not told at all. -/
theorem chronicle_of_two_sessions :
    ∃ transitions s, Run .blank transitions s ∧
      (transitions.flatMap Transition.reports).map (fun x => (x.session, x.event.kind)) =
        [(0, .connected (some "first")), (0, .connected none), (0, .disconnected),
          (1, .connected (some "second")), (1, .connected none), (1, .disconnected)] ∧
      Chronicle transitions := by
  let actions : List Action :=
    [.call (.getOrCreate ⟨0⟩ (some default)), .direct 0 (.connect default (some "first")),
      .event 0 0 .connected, .event 0 0 .connected,
      .direct 0 (.connect default (some "second")), .event 0 0 .ended,
      .event 0 1 .connected, .event 0 1 .connected, .event 0 1 .ended]
  have playable : Scene.blank.Playable .obliging actions := by decide
  have run : Run .blank _ _ := Run.play Responder.fair_obliging .start playable
  exact ⟨_, _, run, by decide, run.chronicle⟩

end Run

end DeviceConsole
