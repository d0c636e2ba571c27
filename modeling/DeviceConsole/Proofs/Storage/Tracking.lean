import DeviceConsole.Proofs.Storage.Encoding
import DeviceConsole.Proofs.Storage.Saving

/-!
# The stored profiles follow those of the console

Storing may fail at any call.  Whatever failed before, a call that succeeds leaves all profiles
behind in the store, and a new console starts with them.  This file defines:

* `Transition.stored?`, the profiles that a step stored, and `storedText`, what is left of them;
* `ProfileStorage.Holds`, that profiles are read back from a place, and `Console.StartsWith`;
* `Run.profiles_stored`, what every call of a run leaves behind.
-/

namespace DeviceConsole

/-! ## What is stored -/

/-- The profiles that a step stored: what a call made of them, if it edits them and succeeded. -/
def Transition.stored? (t : Transition) : Option (List Profile) :=
  match t.label.edit? t.before.console with
  | some (edited, .ok _) => some edited
  | _ => none

/-- The text after a run: that of the profiles that were stored last, or the one from before. -/
def storedText (first : Option String) (transitions : List Transition) : Option String :=
  ((transitions.filterMap Transition.stored?).getLast?.map ProfileStorage.encode).or first

theorem storedText_append (first : Option String) (transitions : List Transition) (t : Transition) :
    storedText first (transitions ++ [t]) =
      (t.stored?.map ProfileStorage.encode).or (storedText first transitions) := by
  cases stored : t.stored? <;> simp [storedText, List.filterMap_append, stored]

/-- A step replaces the text by that of the profiles that it stored, and else leaves it alone. -/
theorem Step.text {s s' : Scene} {label : Label} (step : Step s label s') :
    s'.console.storage.text =
      ((⟨s, label, s'⟩ : Transition).stored?.map ProfileStorage.encode).or
        s.console.storage.text := by
  have saved := step.saves
  unfold Transition.stored?
  split at saved
  · next edited result edit =>
      simp only [edit]
      unfold Console.Saves at saved
      split at saved
      · exact saved.2
      · exact saved.2
      · exact saved.2
  · next edit =>
      simp only [edit]
      exact saved.2

/-- After a run, the text is that of the profiles that were stored last. -/
theorem Run.text {start s : Scene} {transitions : List Transition} (run : Run start transitions s) :
    s.console.storage.text = storedText start.console.storage.text transitions := by
  induction run with
  | start => rfl
  | step _ step ih => rw [step.text, ih, storedText_append]

/-! ## Reading it back -/

namespace ProfileStorage

/-- The same place, where reading works. -/
def readable (s : ProfileStorage) : ProfileStorage := { s with readFails := false }

theorem load_readable {s : ProfileStorage} {profiles : List Profile}
    (h : s.text = some (encode profiles)) (fresh : Nat → ConnectionId) :
    s.readable.load fresh = profiles := by
  have contents : s.readable.read = .ok (some (encode profiles)) := by
    rw [← h]
    rfl
  rw [load, contents]
  simp [decode?_encode]

end ProfileStorage

namespace Console

variable {c : Console} {p : Profile}

/-- A new connection needs no new profile. -/
theorem configure_ensure (unused : c.current? p.id = none) :
    (c.ensure p).2.configure p = (c.ensure p).2 := by
  have used : (c.ensure p).2.current? p.id = some (c.ensure p).1 := by
    rw [current?_ensure, unused]
    simp
  have same : ∀ connections : List Connection,
      (connections ++ [Connection.ofProfile p]).modify connections.length
        (fun connection => { connection with profile := p }) =
      connections ++ [Connection.ofProfile p] := by
    intro connections
    induction connections with
    | nil => rfl
    | cons connection rest ih => simpa using ih
  rw [configure, used]
  simp only [ensure, unused, update, same]

/-- Profiles with distinct ids that are not in use get connections of their own, and connections
that are in use stay as they are. -/
theorem connection_addAll {profiles : List Profile} (distinct : (profiles.map (·.id)).Nodup)
    (unused : ∀ p ∈ profiles, c.current? p.id = none) :
    (∀ {id i}, c.current? id = some i → i < c.connections.length →
      (c.addAll profiles).current? id = some i ∧
        (c.addAll profiles).connection i = c.connection i) ∧
    (∀ p ∈ profiles, ∃ i, (c.addAll profiles).current? p.id = some i ∧
      (c.addAll profiles).connection i = .ofProfile p) := by
  -- The first part is what the induction carries: the connections that were made stay.
  induction profiles generalizing c with
  | nil => exact ⟨fun used _ => ⟨used, rfl⟩, fun _ member => absurd member List.not_mem_nil⟩
  | cons p rest ih =>
      rcases List.nodup_cons.1 distinct with ⟨apart, distinct⟩
      have free := unused p List.mem_cons_self
      have made : (c.ensure p).2.connections = c.connections ++ [.ofProfile p] := by
        simp [ensure, free]
      have current : ∀ id, (c.ensure p).2.current? id =
          (c.current? id).or (if id = p.id then some c.connections.length else none) := by
        intro id
        rw [current?_ensure]
        simp [ensure, free]
      have unused' : ∀ q ∈ rest, (c.ensure p).2.current? q.id = none := by
        intro q member
        have differs : q.id ≠ p.id := fun same => apart (List.mem_map.2 ⟨q, member, same⟩)
        rw [current, unused q (List.mem_cons_of_mem _ member), if_neg differs]
        rfl
      rcases ih distinct unused' with ⟨kept, added⟩
      rw [addAll, configure_ensure free]
      refine ⟨fun {id i} used hi => ?_, fun q member => ?_⟩
      · have longer : i < (c.ensure p).2.connections.length := by
          rw [made, List.length_append]
          exact Nat.lt_add_right _ hi
        have used' : (c.ensure p).2.current? id = some i := by
          rw [current, used]
          rfl
        have same : (c.ensure p).2.connection i = c.connection i := by
          simp [connection, made, List.getElem?_append_left hi]
        exact ⟨(kept used' longer).1, (kept used' longer).2.trans same⟩
      · rcases List.mem_cons.1 member with rfl | member
        · have last : c.connections.length < (c.ensure q).2.connections.length := by
            rw [made, List.length_append]
            exact Nat.lt_add_one _
          have used : (c.ensure q).2.current? q.id = some c.connections.length := by
            rw [current, free, if_pos rfl]
            rfl
          have new : (c.ensure q).2.connection c.connections.length = .ofProfile q := by
            simp [connection, made]
          exact ⟨_, (kept used last).1, (kept used last).2.trans new⟩
        · exact added q member

theorem spares_addAll (c : Console) (profiles : List Profile) : Spares c (c.addAll profiles) := by
  induction profiles generalizing c with
  | nil => rfl
  | cons p rest ih => exact ((spares_ensure c p).trans (spares_configure _ p)).trans (ih _)

theorem focus_addAll (c : Console) (profiles : List Profile) :
    (c.addAll profiles).focus = c.focus := by
  have ensured : ∀ (c : Console) (p : Profile), (c.ensure p).2.focus = c.focus := by
    intro c p
    unfold ensure
    split <;> rfl
  have configured : ∀ (c : Console) (p : Profile), (c.configure p).focus = c.focus := by
    intro c p
    unfold configure
    split <;> rfl
  induction profiles generalizing c with
  | nil => rfl
  | cons p rest ih => rw [addAll, ih, configured, ensured]

/-- What a new console over profiles is like. -/
structure StartsWith (c : Console) (profiles : List Profile) : Prop where
  listed : c.profiles = profiles
  focus : c.focus = profiles.head?.map (·.id)
  /-- Where ids are distinct, each profile has a connection of its own that was never opened. -/
  connections : (profiles.map (·.id)).Nodup → ∀ p ∈ profiles, ∃ i, c.current? p.id = some i ∧
    c.connection i = .ofProfile p ∧ (c.connection i).snapshot.status = .disconnected

theorem startsWith_start (settings : Settings) (catalog : Catalog) (storage : ProfileStorage)
    (fresh : Nat → ConnectionId) (clock : Int) :
    (start settings catalog storage fresh clock).StartsWith (storage.load fresh) := by
  let empty : Console := ⟨settings, catalog, storage.load fresh, [], [], [], false,
    (storage.load fresh).head?.map (·.id), storage, [], .ofCapacity settings.eventCapacity, clock⟩
  refine ⟨(spares_addAll empty _).profiles, focus_addAll empty _, fun distinct p member => ?_⟩
  · have unused : ∀ p ∈ storage.load fresh, empty.current? p.id = none := fun _ _ => rfl
    rcases (connection_addAll distinct unused).2 p member with ⟨i, used, new⟩
    refine ⟨i, used, new, ?_⟩
    show ((empty.addAll (storage.load fresh)).connection i).snapshot.status = .disconnected
    rw [new]
    rfl

end Console

/-- Profiles are read back from a place, and a new console starts with them. -/
structure ProfileStorage.Holds (s : ProfileStorage) (profiles : List Profile) : Prop where
  load : ∀ fresh, s.readable.load fresh = profiles
  start : ∀ settings catalog fresh clock,
    (Console.start settings catalog s.readable fresh clock).StartsWith profiles

theorem ProfileStorage.holds_of_text {s : ProfileStorage} {profiles : List Profile}
    (h : s.text = some (encode profiles)) : s.Holds profiles where
  load := load_readable h
  start settings catalog fresh clock := by
    have started := Console.startsWith_start settings catalog s.readable fresh clock
    rwa [load_readable h] at started

/-! ## Runs -/

namespace Run

variable {settings : Settings} {catalog : Catalog} {storage : ProfileStorage}
  {fresh : Nat → ConnectionId} {clock : Int} {transitions : List Transition} {s : Scene}

/-- A call of a run that edits the profiles and succeeds leaves them behind in the store, whatever
failed before.  If they cannot be stored, the edit stays, and so does the text that was stored last;
after any other failure nothing has changed. -/
theorem profiles_stored (run : Run (.start settings catalog storage fresh clock) transitions s) :
    s.console.storage.text = storedText storage.text transitions ∧
    ∀ earlier t later, transitions = earlier ++ t :: later →
      ∀ edited result, t.label.edit? t.before.console = some (edited, result) →
        match result with
        | .ok _ => t.after.console.profiles = edited ∧
            t.after.console.storage.Holds t.after.console.profiles
        | .error (.storage _) => t.after.console.profiles = edited ∧
            t.after.console.storage.text = storedText storage.text earlier
        | .error _ => t.after.console.profiles = t.before.console.profiles ∧
            t.after.console.storage.text = t.before.console.storage.text := by
  have first : (Scene.start settings catalog storage fresh clock).console.storage = storage :=
    (Console.spares_addAll _ _).storage
  have text := run.text
  rw [first] at text
  refine ⟨text, ?_⟩
  intro earlier t later e edited result edit
  obtain ⟨before, step⟩ := run.split e
  have text' := before.text
  rw [first] at text'
  have saved := step.saves
  rw [edit] at saved
  -- The three kinds of results are those of `Console.Saves`.
  cases result with
  | ok _ =>
      have stored : t.after.console.storage.text = some (ProfileStorage.encode edited) :=
        saved.2
      exact ⟨saved.1, saved.1 ▸ ProfileStorage.holds_of_text stored⟩
  | error error =>
      cases error with
      | storage _ => exact ⟨saved.1, saved.2.trans text'⟩
      | _ => exact saved

/-- A first profile cannot be stored; the store works again, and both profiles are stored with the
second one. -/
theorem profiles_stored_after_failure :
    ∃ transitions s,
      Run (.start default default ⟨none, false, true⟩ (fun _ => default) 0) transitions s ∧
        s.console.profiles.length = 2 ∧ s.console.storage.Holds s.console.profiles := by
  let added (n : BitVec 128) : Action :=
    .call (.add ⟨n⟩ (fun _ => "") { (Profile.default ⟨0⟩) with role := .server })
  let broken : Scene := .start default default ⟨none, false, true⟩ (fun _ => default) 0
  have playable : broken.Playable .obliging [added 7] := by decide
  have refused := Run.play Responder.fair_obliging .start playable
  have mended := Run.step refused (.outside (.device _ false false))
  have stored := Run.step mended
    (@Action.step_take .obliging Responder.fair_obliging _ (added 8) trivial)
  have whole := (Run.profiles_stored stored).2 _ _ [] rfl _ (.ok ()) rfl
  exact ⟨_, _, stored, rfl, whole.2⟩

end Run

end DeviceConsole
