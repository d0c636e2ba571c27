import DeviceConsole.Proofs.Session.Delegation
import DeviceConsole.Proofs.Session.Play

/-!
# Runs against the same transport

Nothing but the replies of the transport is left open in a run: two runs that do the same things are
equal if the same requests got the same replies in both.  This file defines:

* `Scene.AnsweredAlike s s'`: asked the same after the same exchanges, the transport of both scenes
  gave the same reply;
* `Console.Incident`, what may come from outside, as data;
* `Transition.Alike t u`, steps that do the same, and `Step.replay`, that they lead to the same.
-/

namespace DeviceConsole

/-! ## The same transport -/

/-- Whether the same request got the same reply in two scenes wherever all was equal before. -/
def Scene.AnsweredAlike (s s' : Scene) : Prop :=
  ∀ {earlier : List Exchange} {e e' : Exchange} {later later' : List Exchange},
    s.exchanges = earlier ++ e :: later → s'.exchanges = earlier ++ e' :: later' →
    e.request = e'.request → e = e'

namespace Scene.AnsweredAlike

variable {s s' m m' : Scene}

/-- What was said earlier was answered alike if all was. -/
theorem earlier (h : s.AnsweredAlike s') (first : ∃ said, s.exchanges = m.exchanges ++ said)
    (second : ∃ said, s'.exchanges = m'.exchanges ++ said) : m.AnsweredAlike m' := by
  rcases first with ⟨said, e⟩
  rcases second with ⟨said', e'⟩
  intro earlier x x' later later' hm hm' same
  rw [hm, List.append_assoc, List.cons_append] at e
  rw [hm', List.append_assoc, List.cons_append] at e'
  exact h e e' same

theorem of_eq (h : s'.exchanges = s.exchanges) : s.AnsweredAlike s' := by
  intro earlier e e' later later' first second _
  rw [h, first] at second
  exact (List.cons.inj (List.append_cancel_left second)).1

end Scene.AnsweredAlike

/-- An operation comes to the same if it is answered alike. -/
theorem Operation.Runs.replay {α : Type} {p : Operation α} {s r r' : Scene} {a b : α}
    (first : p.Runs s a r) (second : p.Runs s b r') (alike : r.AnsweredAlike r') :
    b = a ∧ r' = r := by
  induction first with
  | done a s => exact Operation.runs_done_iff.1 second
  | step _ ih => exact ih (Operation.runs_step_iff.1 second) alike
  | @request q next s r reply a _ run ih =>
      rcases Operation.runs_request_iff.1 second with ⟨reply', -, second⟩
      -- The first exchange is the same in both, so that the rest starts from one scene.
      rcases run.exchanges with ⟨said, e⟩
      rcases second.exchanges with ⟨said', e'⟩
      have said₁ : r.exchanges = s.exchanges ++ ⟨q, reply⟩ :: said := by
        simpa [Scene.note] using e
      have said₂ : r'.exchanges = s.exchanges ++ ⟨q, reply'⟩ :: said' := by
        simpa [Scene.note] using e'
      cases alike said₁ said₂ rfl
      exact ih second alike

/-! ## The same steps -/

/-- What may come from outside. -/
inductive Console.Incident where
  | clock (time : Int)
  | device (readFails writeFails : Bool)
  | catalog (catalog : Catalog)
  | listen (name : String)
  | unlisten (name : String)
  | hear (name : String)
  | silence (session : SessionId)

def Console.Incident.apply (c : Console) : Console.Incident → Console
  | .clock time => { c with clock := time }
  | .device readFails writeFails => { c with storage := ⟨c.storage.text, readFails, writeFails⟩ }
  | .catalog other => { c with catalog := other }
  | .listen name => { c with bus := c.bus.subscribe name }
  | .unlisten name => { c with bus := c.bus.unsubscribe name }
  | .hear name => { c with bus := (c.bus.drain name).2 }
  | .silence session => { c with handlers := c.handlers.filter (·.1 ≠ session) }

/-- The action that a step of a run takes; what comes from outside is none. -/
def Label.action? : Label → Option Action
  | .call c _ => some (.call c)
  | .direct i c _ => some (.direct i c)
  | .event i session happened => some (.event i session happened)
  | .outside => none

/-- Whether two steps do the same: the same call, the same event or the same incident. -/
inductive Transition.Alike (t u : Transition) : Prop where
  | action (a : Action) : t.label.action? = some a → u.label.action? = some a → Alike t u
  | incident (x : Console.Incident) :
      t.label = .outside → t.after.console = x.apply t.before.console →
      u.label = .outside → u.after.console = x.apply u.before.console → Alike t u

/-- Exchanges are never taken back. -/
theorem Step.exchanges {s s' : Scene} {label : Label} (step : Step s label s') :
    ∃ said, s'.exchanges = s.exchanges ++ said := by
  cases step with
  | call h => exact h.exchanges
  | direct _ h => exact h.exchanges
  | event _ _ h => exact h.exchanges
  | outside => exact ⟨[], by simp⟩

/-- Steps with the same action from the same scene lead to the same, with the same result. -/
theorem Step.replay {s r r' : Scene} {label label' : Label} {a : Action} (first : Step s label r)
    (second : Step s label' r') (ha : label.action? = some a) (ha' : label'.action? = some a)
    (alike : r.AnsweredAlike r') : label' = label ∧ r' = r := by
  have same := ha'.trans ha.symm
  cases first with
  | call run =>
      cases second with
      | call run' =>
          cases same
          rcases run.replay run' alike with ⟨rfl, rfl⟩
          exact ⟨rfl, rfl⟩
      | direct | event | outside => cases same
  | direct _ run =>
      cases second with
      | direct _ run' =>
          cases same
          rcases run.replay run' alike with ⟨rfl, rfl⟩
          exact ⟨rfl, rfl⟩
      | call | event | outside => cases same
  | event _ _ run =>
      cases second with
      | event _ _ run' =>
          cases same
          exact ⟨rfl, (run.replay run' alike).2⟩
      | call | direct | outside => cases same
  | outside => cases ha

/-- What comes from outside says nothing to the transport. -/
theorem Step.exchanges_outside {s s' : Scene} (step : Step s .outside s') :
    s'.exchanges = s.exchanges := by
  generalize e : Label.outside = label at step
  cases step with
  | outside => rfl
  | call | direct | event => cases e

/-- Steps that do the same from the same scene are the same. -/
theorem Transition.Alike.eq {t u : Transition} (h : t.Alike u) (before : u.before = t.before)
    (first : Step t.before t.label t.after) (second : Step u.before u.label u.after)
    (alike : t.after.AnsweredAlike u.after) : u = t := by
  rcases t with ⟨s, label, r⟩
  rcases u with ⟨_, label', r'⟩
  obtain rfl : _ = s := before
  cases h with
  | action a ha ha' =>
      rcases first.replay second ha ha' alike with ⟨rfl, rfl⟩
      rfl
  | incident x hl hc hl' hc' =>
      obtain rfl : label = .outside := hl
      obtain rfl : label' = .outside := hl'
      have consoles : r'.console = r.console := hc'.trans hc.symm
      have exchanges : r'.exchanges = r.exchanges :=
        second.exchanges_outside.trans first.exchanges_outside.symm
      obtain rfl : r' = r := by
        rcases r with ⟨c, l⟩
        rcases r' with ⟨c', l'⟩
        rw [Scene.mk.injEq]
        exact ⟨consoles, exchanges⟩
      rfl

end DeviceConsole
