import Mathlib.Data.List.Induction
import DeviceConsole.Proofs.Session.Chronicle

/-!
# The scope of what a session tells

A session is opened under a profile, and its events are for the listeners of the things that this
profile speaks for.  The scope is read from the profile that the connection has when something
happens, which may have been edited since.  This file defines:

* `Transition.TellsUnder`, whether a step tells what happens to a session under a given scope;
* `Run.holder_of_opens`, which follows a session to the connection that holds it;
* `Run.scoped_iff`, which says when all events of a session have the scope that it was opened under.
-/

namespace DeviceConsole

/-- Whether everything that happens to a session in a step is told as under the given scope. -/
def Transition.TellsUnder (scope : ThingScope) (session : SessionId) (t : Transition) : Prop :=
  ∀ x ∈ t.occasions, x.session = session →
    t.before.console.report? x = t.before.console.reportUnder? (fun _ => scope) x

instance (scope : ThingScope) (session : SessionId) (t : Transition) :
    Decidable (t.TellsUnder scope session) :=
  inferInstanceAs (Decidable (∀ x ∈ t.occasions, _ → _ = _))

/-- What happens to a session is told under a scope exactly if this is the scope of the connection
that holds it. -/
theorem Transition.tellsUnder_iff {t : Transition} {scope : ThingScope} {session : SessionId}
    {i : ConnectionRef} (sound : t.before.board.Sound) (step : Step t.before t.label t.after)
    (holder : ∀ j, (t.before.console.connection j).session = some session → j = i) :
    t.TellsUnder scope session ↔ ((∃ x ∈ t.occasions, x.session = session) →
      (t.before.console.connection i).profile.scope = scope) := by
  have found {x : Occasion} (member : x ∈ t.occasions) (same : x.session = session) :
      t.before.console.holder? x.session = some (t.before.console.connection i) := by
    rcases (course sound step).held member with ⟨j, held⟩
    obtain rfl := holder j (held.trans (congrArg some same))
    exact Scene.holder?_eq sound held
  constructor
  · -- Every event shows its scope, and that there is none shows that the scope is any thing.
    rintro tells ⟨x, member, same⟩
    have told := tells x member same
    simp only [Console.report?, Console.reportUnder?, found member same, Option.bind_some] at told
    refine ThingScope.event?_inj ((Option.map_inj_right ?_).1 told)
    exact fun _ _ h => congrArg Report.event h
  · intro kept x member same
    simp only [Console.report?, Console.reportUnder?, found member same, Option.bind_some,
      kept ⟨x, member, same⟩]

namespace Run

variable {settings : Settings} {catalog : Catalog} {storage : ProfileStorage}
  {fresh : Nat → ConnectionId} {clock : Int} {earlier later : List Transition} {o : Transition}
  {s : Scene} {i j : ConnectionRef} {session : SessionId} {p : Profile} {token : Option String}

/-- Only the connection that a session was opened for holds it, under the scope that this had at
first as long as no profile is edited. -/
theorem holder_of_opens
    (run : Run (.start settings catalog storage fresh clock) (earlier ++ o :: later) s)
    (opens : o.Opens session p token)
    (first : (o.after.console.connection i).session = some session)
    (held : (s.console.connection j).session = some session) :
    j = i ∧ ((∀ t ∈ later, ¬ t.label.Configures) →
      (s.console.connection j).profile.scope = (o.after.console.connection i).profile.scope) := by
  -- By induction on the steps since the session was opened, from the last one.
  induction later using List.reverseRecOn generalizing s j with
  | nil =>
      rcases snoc_iff.1 run with ⟨-, -, rfl⟩
      obtain rfl :=
        run.sound.distinct (Scene.get?_of_held held) (Scene.get?_of_held first) held first
      exact ⟨rfl, fun _ => rfl⟩
  | append_singleton front u ih =>
      have whole : earlier ++ o :: (front ++ [u]) = (earlier ++ o :: front) ++ [u] := by simp
      have once {q : Profile} {other : Option String} : ¬ u.Opens session q other :=
        run.opens_once rfl (by simp) opens
      rw [whole] at run
      rcases snoc_iff.1 run with ⟨previous, step, rfl⟩
      have ties := (Transition.course previous.sound step).ties previous.filed held
      cases ties with
      | opened q other connecting opened _ _ =>
          -- The session would be opened twice.
          exact absurd ⟨connecting, opened⟩ once
      | announced _ own _ scope =>
          -- That the session is up takes the token of its connect, not the scope.
          rcases ih previous own with ⟨rfl, kept⟩
          refine ⟨rfl, fun unedited => scope.trans (kept ?_)⟩
          exact fun t member => unedited t (List.mem_append_left _ member)
      | kept _ bound =>
          rcases ih previous (bound.session.symm.trans held) with ⟨rfl, kept⟩
          refine ⟨rfl, fun unedited => ?_⟩
          exact (bound.scope (unedited u (by simp))).trans
            (kept fun t member => unedited t (List.mem_append_left _ member))

/-- In a step after a session was opened, what happens to the session is told under the scope that
it was opened under exactly if this is still that of its connection; and so it is without edits. -/
theorem tellsUnder_of_opens {t : Transition}
    (run : Run (.start settings catalog storage fresh clock) (earlier ++ o :: later) t.before)
    (step : Step t.before t.label t.after) (opens : o.Opens session p token)
    (first : (o.after.console.connection i).session = some session) :
    (t.TellsUnder (o.after.console.connection i).profile.scope session ↔
      ((∃ x ∈ t.occasions, x.session = session) →
        (t.before.console.connection i).profile.scope =
          (o.after.console.connection i).profile.scope)) ∧
    ((∀ u ∈ later, ¬ u.label.Configures) →
      t.TellsUnder (o.after.console.connection i).profile.scope session) := by
  have alone : ∀ j, (t.before.console.connection j).session = some session → j = i :=
    fun j held => (run.holder_of_opens opens first held).1
  refine ⟨Transition.tellsUnder_iff run.sound step alone,
    fun unedited => (Transition.tellsUnder_iff run.sound step alone).2 ?_⟩
  rintro ⟨x, member, rfl⟩
  rcases (Transition.course run.sound step).held member with ⟨j, held⟩
  rcases run.holder_of_opens opens first held with ⟨rfl, kept⟩
  exact kept unedited

/-- All events of a session have the scope of the profile that it was opened under exactly if, each
time something happens to the session, the profile of its connection has this scope; and without
edits of profiles it has. -/
theorem scoped_iff
    (run : Run (.start settings catalog storage fresh clock) (earlier ++ o :: later) s)
    (opens : o.Opens session p token) :
    ∃ i, (o.after.console.connection i).session = some session ∧
      (∀ t ∈ later, t.label ≠ .outside → t.Heard) ∧
      ((∀ t ∈ later, t.TellsUnder p.scope session) ↔
        ∀ t ∈ later, (∃ x ∈ t.occasions, x.session = session) →
          (t.before.console.connection i).profile.scope = p.scope) ∧
      ((∀ t ∈ later, ¬ t.label.Configures) → ∀ t ∈ later, t.TellsUnder p.scope session) := by
  rcases run.split rfl with ⟨before, step⟩
  rcases (Transition.course before.sound step).opened opens.connecting opens.opened with
    ⟨i, first, -, rfl⟩
  -- A step since the session was opened comes after a run with the connect in it.
  have passed {t : Transition} (member : t ∈ later) : ∃ front, front ⊆ later ∧
      Run (.start settings catalog storage fresh clock) (earlier ++ o :: front) t.before ∧
      Step t.before t.label t.after := by
    rcases List.append_of_mem member with ⟨front, rest, rfl⟩
    have whole : earlier ++ o :: (front ++ t :: rest) = (earlier ++ o :: front) ++ t :: rest := by
      simp
    exact ⟨front, List.subset_append_left _ _, run.split whole⟩
  refine ⟨i, first, ?_, forall₂_congr fun t member => ?_, fun unedited t member => ?_⟩
  · intro t member inside
    rcases passed member with ⟨_, -, previous, step⟩
    exact Transition.heard previous.sound step inside
  · rcases passed member with ⟨_, -, previous, step⟩
    exact (previous.tellsUnder_of_opens step opens first).1
  · rcases passed member with ⟨_, sub, previous, step⟩
    exact (previous.tellsUnder_of_opens step opens first).2 fun u member => unedited u (sub member)

/-- The address of the broker is edited during a session, and the session speaks for the same thing
until its end. -/
theorem scoped_iff_until_ended :
    ∃ earlier o later s p, Run .blank (earlier ++ o :: later) s ∧ o.Opens 0 p none ∧
      p.scope = .thing "a" ∧
      ((later.flatMap Transition.reports).map fun x => (x.event.scope, x.event.kind)) =
        [(.thing "a", .connected none), (.thing "a", .messageIn "t"), (.thing "a", .disconnected)] ∧
      ∀ t ∈ later, t.TellsUnder p.scope 0 := by
  let adding : Action := .call (.add ⟨7⟩ (fun _ => "") { Profile.default ⟨0⟩ with username := "a" })
  let middle : Scene := (Scene.blank.play .obliging [adding]).2
  let profile : Profile := (middle.console.profile? ⟨7⟩).getD default
  let o : Transition := (Action.call (.connect ⟨7⟩ none)).take .obliging middle
  let later : List Action :=
    [.event 0 0 .connected, .call (.update { profile with host := "other" }),
      .event 0 0 (.message ⟨"t", default, .atMostOnce, false, default⟩), .event 0 0 .ended]
  have playable : middle.Playable .obliging (.call (.connect ⟨7⟩ none) :: later) := by decide
  have added : Run .blank _ middle := Run.play Responder.fair_obliging .start (by decide)
  have run : Run .blank (_ ++ o :: (o.after.play .obliging later).1) _ :=
    Run.play Responder.fair_obliging added playable
  have opens : o.Opens 0 profile none := ⟨⟨by decide, rfl⟩, by decide⟩
  rcases Run.scoped_iff run opens with ⟨i, first, -, told, -⟩
  have here : (o.after.console.connection 0).session = some 0 := by decide
  obtain rfl : i = 0 := by
    rcases run.split rfl with ⟨before, step⟩
    have sound := (before.step step).sound
    exact sound.distinct (Scene.get?_of_held first) (Scene.get?_of_held here) first here
  exact ⟨_, o, _, _, profile, run, opens, by decide, by decide, told.2 (by decide)⟩

/-- The thing and the role of the profile are edited during a session: its messages are told under
another thing's scope than the one it was opened under, and its end is not told at all. -/
theorem scope_edited :
    ∃ earlier o later s p, Run .blank (earlier ++ o :: later) s ∧ o.Opens 0 p none ∧
      p.scope = .thing "a" ∧ (∃ t ∈ later, ⟨0, .disconnected⟩ ∈ t.occasions) ∧
      ((later.flatMap Transition.reports).map fun x => (x.session, x.event.scope, x.event.kind)) =
        [(0, .thing "a", .connected none), (0, .thing "b", .messageIn "t")] ∧
      ¬ ∀ t ∈ later, t.TellsUnder p.scope 0 := by
  let adding : Action := .call (.add ⟨7⟩ (fun _ => "") { Profile.default ⟨0⟩ with username := "a" })
  let middle : Scene := (Scene.blank.play .obliging [adding]).2
  let profile : Profile := (middle.console.profile? ⟨7⟩).getD default
  let o : Transition := (Action.call (.connect ⟨7⟩ none)).take .obliging middle
  let late : List Action :=
    [.event 0 0 .connected, .call (.update { profile with username := "b" }),
      .event 0 0 (.message ⟨"t", default, .atMostOnce, false, default⟩),
      .call (.update { profile with role := .server }), .event 0 0 .ended]
  let later : List Transition := (o.after.play .obliging late).1
  have playable : middle.Playable .obliging (.call (.connect ⟨7⟩ none) :: late) := by decide
  have added : Run .blank _ middle := Run.play Responder.fair_obliging .start (by decide)
  have run : Run .blank (_ ++ o :: later) _ := Run.play Responder.fair_obliging added playable
  have opens : o.Opens 0 profile none := ⟨⟨by decide, rfl⟩, by decide⟩
  exact ⟨_, o, later, _, profile, run, opens, by decide, by decide, by decide, by decide⟩

end Run

end DeviceConsole
