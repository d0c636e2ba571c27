import DeviceConsole.Proofs.Session.Operations
import DeviceConsole.Proofs.Session.Play

/-!
# What holds after every run

This file proves that a run from a new console

* leaves a sound board, `Run.sound`;
* destroyed the connections for which it has the mark, `Run.records`;

and puts both together in terms of the console.
-/

namespace DeviceConsole

/-! ## The beginning -/

def Board.blank : Board := ⟨[], [], [], false, []⟩

theorem Board.sound_blank : Board.blank.Sound := by
  constructor <;> simp [blank]

theorem Console.extends_addAll (c : Console) (opened : List SessionId) (profiles : List Profile) :
    (c.board opened).Extends ((c.addAll profiles).board opened) := by
  induction profiles generalizing c with
  | nil => exact .refl _
  | cons p rest ih =>
      have made : (c.board opened).Extends (((c.ensure p).2.configure p).board opened) := by
        rw [board_configure]
        exact extends_ensure c p
      exact made.trans (ih _)

theorem Scene.extends_start (settings : Settings) (catalog : Catalog) (storage : ProfileStorage)
    (fresh : Nat → ConnectionId) (clock : Int) :
    Board.blank.Extends (Scene.start settings catalog storage fresh clock).board := by
  -- The console starts with the stored profiles, and then makes a connection for each of them.
  let profiles := storage.load fresh
  exact Console.extends_addAll ⟨settings, catalog, profiles, [], [], [], false,
    profiles.head?.map (·.id), storage, [], .ofCapacity settings.eventCapacity, clock⟩ [] profiles

/-! ## Destroyed connections -/

/-- Whether the marks tell which connections were destroyed. -/
structure Board.Records (b : Board) (marks : List Mark) : Prop where
  destroyed_iff : ∀ {i : ConnectionRef} {v : Vitals}, b.vitals[i]? = some v →
    (v.destroyed = true ↔ .destroyed i ∈ marks)
  known : ∀ {i : ConnectionRef}, .destroyed i ∈ marks → i < b.vitals.length

namespace Board

variable {b b' : Board} {marks more : List Mark} {i j : ConnectionRef} {v w : Vitals}

theorem Move.length (move : b.Move more b') : b'.vitals.length = b.vitals.length := by
  cases move <;> simp [setGate, enroll, put]

/-- Whether a connection was destroyed shows on the vitals that it had and on the marks. -/
def DestroyedBy (b : Board) (more : List Mark) (j : ConnectionRef) (w : Vitals) : Prop :=
  ∃ old, b.vitals[j]? = some old ∧
    (w.destroyed = true ↔ old.destroyed = true ∨ .destroyed j ∈ more)

theorem destroyedBy_of_unmarked {u : Vitals} (hv : b.vitals[i]? = some v)
    (hw : (b.put i u).vitals[j]? = some w) (same : u.destroyed = v.destroyed)
    (none : ∀ k, .destroyed k ∉ more) : b.DestroyedBy more j w := by
  rcases get?_put hw with ⟨rfl, rfl⟩ | ⟨-, before⟩
  · exact ⟨v, hv, by simp [same, none]⟩
  · exact ⟨w, before, by simp [none]⟩

theorem destroyedBy_of_retired (hv : b.vitals[i]? = some v)
    (hw : (b.put i v.retired).vitals[j]? = some w)
    (only : ∀ k, .destroyed k ∈ more ↔ k = i) : b.DestroyedBy more j w := by
  rcases get?_put hw with ⟨rfl, rfl⟩ | ⟨differs, before⟩
  · exact ⟨v, hv, by simp [Vitals.retired, only]⟩
  · exact ⟨w, before, by simp [only, differs]⟩

theorem Move.destroyedBy (move : b.Move more b') (hw : b'.vitals[j]? = some w) :
    b.DestroyedBy more j w := by
  cases move with
  | idle => exact ⟨w, hw, by simp⟩
  | opened hv _ _ _ => exact destroyedBy_of_unmarked hv hw rfl (by simp)
  | unopened hv _ _ => exact destroyedBy_of_unmarked hv hw rfl (by simp)
  | kept i => exact ⟨w, hw, by simp⟩
  | closed hv _ => exact destroyedBy_of_unmarked hv hw rfl (by simp)
  | destroyed hv _ _ => exact destroyedBy_of_retired hv hw (by simp)
  | aborted hv _ _ => exact destroyedBy_of_retired hv hw (by simp)
  | @gone i v hv dead =>
      -- The connection was destroyed before and is so still.
      refine ⟨w, hw, ?_⟩
      by_cases same : j = i
      · subst same
        rw [hv] at hw
        cases hw
        simp [dead]
      · simp [same]
  | marked live hv _ => exact destroyedBy_of_unmarked hv hw rfl (by simp)
  | forgot filter hv => exact destroyedBy_of_unmarked hv hw rfl (by simp)
  | retried hv _ _ _ => exact destroyedBy_of_unmarked hv hw rfl (by simp)
  | settled hv _ _ settles =>
      refine destroyedBy_of_unmarked hv hw ?_ (by simp)
      cases settles <;> rfl

theorem Move.lt_of_destroyed (move : b.Move more b') (h : .destroyed j ∈ more) :
    j < b.vitals.length := by
  cases move with
  | destroyed hv _ _ | aborted hv _ _ | gone hv _ =>
      obtain rfl : j = _ := by simpa using h
      exact (List.getElem?_eq_some_iff.1 hv).1
  | idle | opened | unopened | kept | closed | marked | forgot | retried | settled => simp at h

theorem Records.move (h : b.Records marks) (move : b.Move more b') :
    b'.Records (marks ++ more) where
  destroyed_iff := by
    intro i v hv
    rcases move.destroyedBy hv with ⟨old, before, iff⟩
    rw [iff, h.destroyed_iff before, List.mem_append]
  known := by
    intro i member
    rw [move.length]
    rcases List.mem_append.1 member with member | member
    · exact h.known member
    · exact move.lt_of_destroyed member

theorem Records.extends (h : b.Records marks) (grown : b.Extends b') : b'.Records marks where
  destroyed_iff := by
    intro i v hv
    by_cases hi : i < b.vitals.length
    · have before := grown.get?_of_get? (List.getElem?_eq_getElem hi)
      rw [hv] at before
      cases before
      exact h.destroyed_iff (List.getElem?_eq_getElem hi)
    · -- A connection made later has no mark yet: marks are about connections that were there.
      rcases grown.get? hv with before | rfl
      · exact absurd (List.getElem?_eq_some_iff.1 before).1 hi
      · have unmarked : .destroyed i ∉ marks := fun member => hi (h.known member)
        simp [Vitals.initial, unmarked]
  known := by
    intro i member
    exact Nat.lt_of_lt_of_le (h.known member) grown.length_le

end Board

/-! ## Runs -/

namespace Run

variable {settings : Settings} {catalog : Catalog} {storage : ProfileStorage}
  {fresh : Nat → ConnectionId} {clock : Int} {transitions : List Transition} {s : Scene}

theorem sound (run : Run (.start settings catalog storage fresh clock) transitions s) :
    s.board.Sound := by
  refine run.invariant (fun s => s.board.Sound) ?_ ?_
  · exact Board.sound_blank.extends (Scene.extends_start _ _ _ _ _)
  · intro s label s' sound step
    rcases step.reaches sound with ⟨middle, grown, move⟩
    exact (sound.extends grown).move move

theorem records (run : Run (.start settings catalog storage fresh clock) transitions s) :
    s.board.Records (marksOf transitions) := by
  induction run with
  | start =>
      have blank : Board.blank.Records [] := by
        constructor <;> simp [Board.blank]
      exact blank.extends (Scene.extends_start _ _ _ _ _)
  | step previous step ih =>
      rcases step.reaches previous.sound with ⟨middle, grown, move⟩
      rw [marksOf_append, marksOf_singleton]
      exact (ih.extends grown).move move

end Run

/-! ## In terms of the console -/

/-- What can be told of the connections of a console from its history. -/
structure Scene.Orderly (s : Scene) (marks : List Mark) : Prop where
  /-- State, session, attempts and live map of each connection fit together. -/
  sound : ∀ i < s.console.connections.length, (s.console.connection i).vitals.Sound
  /-- Exactly those connections are in the last state that were told to go there. -/
  destroyed_iff : ∀ i < s.console.connections.length,
    (s.console.connection i).snapshot.status = .destroyed ↔ .destroyed i ∈ marks
  /-- No session has two connections. -/
  distinct : ∀ i < s.console.connections.length, ∀ j < s.console.connections.length,
    ∀ session, (s.console.connection i).session = some session →
      (s.console.connection j).session = some session → i = j

/-- Connections are orderly after every run. -/
theorem Run.orderly {settings : Settings} {catalog : Catalog} {storage : ProfileStorage}
    {fresh : Nat → ConnectionId} {clock : Int} {transitions : List Transition} {s : Scene}
    (run : Run (.start settings catalog storage fresh clock) transitions s) :
    s.Orderly (marksOf transitions) := by
  have sound := run.sound
  have stands : ∀ i < s.console.connections.length,
      s.board.vitals[i]? = some (s.console.connection i).vitals := by
    intro i hi
    exact Console.board_get?_iff.2 ⟨hi, rfl⟩
  refine ⟨?_, ?_, ?_⟩
  · intro i hi
    exact sound.each (stands i hi)
  · intro i hi
    have status := (sound.each (stands i hi)).destroyed_iff
    exact status.trans (run.records.destroyed_iff (stands i hi))
  · intro i hi j hj session first second
    exact sound.distinct (stands i hi) (stands j hj) first second

/-- One connection was destroyed and another one lost its session. -/
theorem Run.orderly_destroyed_and_lost :
    ∃ transitions s, Run .blank transitions s ∧
      (s.console.connection 0).snapshot.status = .destroyed ∧
      (s.console.connection 1).snapshot.status = .reconnecting 1 ∧
      s.Orderly (marksOf transitions) := by
  have playable : Scene.blank.Playable .obliging
      [.call (.getOrCreate ⟨0⟩ (some default)), .call (.getOrCreate ⟨1⟩ (some default)),
        .direct 0 (.connect default none), .call (.destroy ⟨0⟩),
        .direct 1 (.connect default none), .event 1 1 .connected, .event 1 1 .reconnecting] := by
    decide
  have run := Run.play Responder.fair_obliging .start playable
  exact ⟨_, _, run, by decide, by decide, Run.orderly run⟩

end DeviceConsole
