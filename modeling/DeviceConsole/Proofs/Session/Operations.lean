import DeviceConsole.Proofs.Session.Reaction
import DeviceConsole.Proofs.Session.Soundness

/-!
# What the calls of a console do to a board

Every call first finds its connection, for which one may have to be made, and then lets it do
something.  This file defines:

* `Board.Reaches`, a move after more connections were made or taken out of use;
* `Console.withConnection_runs`, how calls find their connection;
* `Step.reaches`, what a step of a run does to a board.
-/

namespace DeviceConsole

open Operation

/-- Whether a board leads to another one by a move, before which connections may have been made. -/
def Board.Reaches (b : Board) (marks : List Mark) (b' : Board) : Prop :=
  ∃ middle, b.Extends middle ∧ middle.Move marks b'

namespace Board.Reaches

variable {b b' b'' : Board} {marks : List Mark}

theorem of_move (move : b.Move marks b') : b.Reaches marks b' := ⟨b, .refl b, move⟩

theorem of_extends (h : b'.Reaches marks b'') (grown : b.Extends b') : b.Reaches marks b'' := by
  rcases h with ⟨middle, more, move⟩
  exact ⟨middle, grown.trans more, move⟩

end Board.Reaches

namespace Console

variable {c : Console} {opened : List SessionId} {s s' : Scene} {id : ConnectionId}
  {i : ConnectionRef}

/-! ## Finding connections -/

theorem current?_ensure (c : Console) (p : Profile) (other : ConnectionId) :
    (c.ensure p).2.current? other =
      (c.current? other).or (if other = p.id then some (c.ensure p).1 else none) := by
  unfold ensure
  split
  · next i found =>
      by_cases same : other = p.id
      · subst same
        rw [found]
        rfl
      · simp [same]
  · -- The new entry comes last, so that it hides no other one.
    by_cases same : other = p.id
    · subst same
      simp [current?, List.lookup_append]
    · have differs : (other == p.id) = false := beq_eq_false_iff_ne.2 same
      simp [current?, List.lookup_append, List.lookup_cons, same, differs]

theorem extends_ensure (c : Console) (p : Profile) :
    (c.board opened).Extends ((c.ensure p).2.board opened) := by
  unfold ensure
  split
  · exact .refl _
  · refine ⟨⟨1, ?_⟩, ?_, fun _ h => h, rfl, rfl⟩
    · simp [board]
      rfl
    · intro entry member
      rcases List.mem_append.1 member with member | member
      · exact Or.inl member
      · -- The new entry leads to the new connection, which is the last one.
        rcases List.mem_singleton.1 member with rfl
        right
        simp [board]

theorem extends_retire (c : Console) (id : ConnectionId) :
    (c.board opened).Extends ((c.retire id).board opened) := by
  refine ⟨⟨0, ?_⟩, ?_, fun _ h => h, rfl, rfl⟩
  · simp [board, retire]
  · intro entry member
    exact Or.inl (List.mem_filter.1 member).1

theorem current?_of_board (same : s'.board.current = s.board.current) :
    s'.console.current? id = s.console.current? id :=
  congrArg (List.lookup id) same

/-- A connection in use stands on a sound board. -/
theorem get?_of_current? (sound : (c.board opened).Sound) (used : c.current? id = some i) :
    ∃ v, (c.board opened).vitals[i]? = some v := by
  rcases List.lookup_eq_some_iff.1 used with ⟨earlier, later, split, -⟩
  have member : (id, i) ∈ (c.board opened).current := by
    rw [board, split]
    simp
  exact ⟨_, List.getElem?_eq_getElem (sound.current _ member)⟩

/-- How a call finds a connection: it is in use from then on, and was made just now if none was in
use before. -/
structure Finds (s : Scene) (id : ConnectionId) (i : ConnectionRef) (s' : Scene) : Prop where
  grown : s.board.Extends s'.board
  used : s'.console.current? id = some i
  others : ∀ other, s'.console.current? other =
    (s.console.current? other).or (if other = id then some i else none)
  fresh : s.console.current? id = none → i = s.console.connections.length

theorem Finds.get? (h : Finds s id i s') (sound : s.board.Sound) :
    ∃ v, s'.board.vitals[i]? = some v ∧ v.Sound := by
  rcases get?_of_current? (sound.extends h.grown) h.used with ⟨v, hv⟩
  exact ⟨v, hv, (sound.extends h.grown).each hv⟩

theorem finds_self (used : s.console.current? id = some i) : Finds s id i s where
  grown := .refl _
  used := used
  others := by
    intro other
    by_cases same : other = id
    · subst same
      rw [used]
      rfl
    · simp [same]
  fresh := by
    rw [used]
    nofun

theorem finds_ensure {p : Profile} (unused : s.console.current? p.id = none) :
    Finds s p.id (s.console.ensure p).1 (s.apply fun c => (c.ensure p).2) where
  grown := extends_ensure _ _
  used := by
    rw [Scene.console_apply, current?_ensure, unused]
    simp
  others := current?_ensure _ _
  fresh := by
    simp [ensure, unused]

/-- A call finds the connection in use for an id, or makes one for a profile. -/
theorem getOrCreate_runs {p : Option Profile} {r : Option ConnectionRef}
    (h : (getOrCreate id p).Runs s r s') :
    (r = none ∧ p = none ∧ s.console.current? id = none ∧ s' = s) ∨
    ∃ i, r = some i ∧ Finds s id i s' := by
  simp only [getOrCreate, Program.bind_eq, runs_look_bind_iff] at h
  split at h
  · next i used =>
      rcases runs_done_iff.1 h with ⟨rfl, rfl⟩
      exact Or.inr ⟨i, rfl, finds_self used⟩
  · next unused =>
      cases p with
      | none =>
          rcases runs_done_iff.1 h with ⟨rfl, rfl⟩
          exact Or.inl ⟨rfl, rfl, unused, rfl⟩
      | some p =>
          simp only [runs_bind_iff, runs_atomically_iff, Program.pure_eq, runs_done_iff] at h
          rcases h with ⟨_, _, ⟨rfl, rfl⟩, rfl, rfl⟩
          exact Or.inr ⟨_, rfl, finds_ensure (p := { p with id := id }) unused⟩

/-- A call that needs a connection gets one first, unless there is no profile for it. -/
theorem withConnection_cases {α : Type} {act : ConnectionRef → Operation (Result α)} {a : Result α}
    (h : (withConnection id act).Runs s a s') :
    (a = .error (.connectionNotFound id) ∧ s.console.profile? id = none ∧
      s.console.current? id = none ∧ s' = s) ∨
    ∃ i middle, (getOrCreate id (s.console.profile? id)).Runs s (some i) middle ∧
      Finds s id i middle ∧ (act i).Runs middle a s' := by
  simp only [withConnection, resolve, Program.bind_eq, runs_bind_iff, runs_look_iff] at h
  rcases h with ⟨_, middle, ⟨_, _, ⟨rfl, rfl⟩, found⟩, h⟩
  rcases getOrCreate_runs found with ⟨rfl, absent, unused, rfl⟩ | ⟨i, rfl, finds⟩
  · rcases runs_done_iff.1 h with ⟨rfl, rfl⟩
    exact Or.inl ⟨rfl, absent, unused, rfl⟩
  · exact Or.inr ⟨i, middle, found, finds, h⟩

/-- A call goes on with the connection in use at once. -/
theorem withConnection_used {α : Type} {act : ConnectionRef → Operation (Result α)} {a : Result α}
    (used : s.console.current? id = some i) (h : (withConnection id act).Runs s a s') :
    (act i).Runs s a s' := by
  rcases withConnection_cases h with ⟨-, -, unused, -⟩ | ⟨j, middle, found, -, run⟩
  · rw [used] at unused
    cases unused
  · simp only [getOrCreate, Program.bind_eq, runs_look_bind_iff, used] at found
    rcases runs_done_iff.1 found with ⟨⟨⟩, rfl⟩
    exact run

/-- A call that needs a connection finds one, unless there is no profile for it. -/
theorem withConnection_runs {α : Type} {act : ConnectionRef → Operation (Result α)} {a : Result α}
    (h : (withConnection id act).Runs s a s') :
    (a = .error (.connectionNotFound id) ∧ s.console.profile? id = none ∧
      s.console.current? id = none ∧ s' = s) ∨
    ∃ i middle, Finds s id i middle ∧ (act i).Runs middle a s' := by
  rcases withConnection_cases h with absent | ⟨i, middle, -, finds, h⟩
  · exact Or.inl absent
  · exact Or.inr ⟨i, middle, finds, h⟩

/-- A call does to the board what it does after it found its connection. -/
theorem withConnection_reaches {α : Type} {act : ConnectionRef → Operation (Result α)}
    {a : Result α} (sound : s.board.Sound) (h : (withConnection id act).Runs s a s')
    (acts : ∀ {i v middle}, middle.board.Sound → middle.board.vitals[i]? = some v →
      (act i).Runs middle a s' → middle.board.Reaches [] s'.board) :
    s.board.Reaches [] s'.board := by
  rcases withConnection_runs h with ⟨-, -, -, rfl⟩ | ⟨i, middle, finds, h⟩
  · exact .of_move .idle
  · rcases finds.get? sound with ⟨v, hv, -⟩
    exact (acts (sound.extends finds.grown) hv h).of_extends finds.grown

/-! ## Profiles -/

/-- How a profile is changed, if there is one: all of them are stored, and the connection in use for
it gets the new one. -/
theorem modifyProfile_cases {change : Profile → Profile} {a : Result Unit}
    (h : (modifyProfile id change).Runs s a s') :
    (a = .error (.connectionNotFound id) ∧ s.console.profile? id = none ∧ s' = s) ∨
    ∃ p, s.console.profile? id = some p ∧
      a = afterSaving (s.console.saveProfiles (replaceFirst id change s.console.profiles)).1 () ∧
      s' = s.apply fun c =>
        (c.saveProfiles (replaceFirst id change c.profiles)).2.configure (change p) := by
  simp only [modifyProfile, Program.bind_eq, runs_bind_iff, runs_atomically_iff] at h
  rcases h with ⟨_, middle, ⟨rfl, changed⟩, h⟩
  cases known : s.console.profile? id with
  | none =>
      simp only [changeProfile, known] at h changed
      rcases runs_done_iff.1 h with ⟨rfl, rfl⟩
      exact Or.inl ⟨rfl, rfl, changed⟩
  | some p =>
      simp only [changeProfile, known] at h changed
      rcases runs_change_done_iff.1 h with ⟨rfl, rfl⟩
      rw [changed]
      exact Or.inr ⟨p, rfl, rfl, rfl⟩

theorem modifyProfile_runs {change : Profile → Profile} {a : Result Unit}
    (h : (modifyProfile id change).Runs s a s') : s'.board = s.board := by
  rcases modifyProfile_cases h with ⟨-, -, rfl⟩ | ⟨p, -, -, rfl⟩
  · rfl
  · rw [Scene.board_apply, board_configure]
    rfl

theorem addProfile_runs {fresh : Nat → String} {p : Profile} {a : Result ConnectionId}
    (h : (addProfile id fresh p).Runs s a s') : s.board.Reaches [] s'.board := by
  simp only [addProfile, Program.bind_eq, runs_bind_iff, runs_atomically_iff] at h
  rcases h with ⟨_, middle, ⟨-, saved⟩, r, last, found, h⟩
  rcases runs_done_iff.1 h with ⟨-, rfl⟩
  have same : middle.board = s.board := by
    rw [saved]
    rfl
  rw [← same]
  rcases getOrCreate_runs found with ⟨-, -, -, rfl⟩ | ⟨i, -, finds⟩
  · exact .of_move .idle
  · exact (Board.Reaches.of_move .idle).of_extends finds.grown

theorem select_runs {a : Result Unit} (h : (select id).Runs s a s') :
    (a = .error (.connectionNotFound id) ∧ s.console.profile? id = none ∧ s' = s) ∨
    (a = .ok () ∧ ∃ i middle, Finds s id i middle ∧ s'.board = middle.board) := by
  rcases withConnection_runs h with ⟨rfl, unknown, -, rfl⟩ | ⟨i, middle, finds, h⟩
  · exact Or.inl ⟨rfl, unknown, rfl⟩
  · rcases runs_change_done_iff.1 h with ⟨rfl, rfl⟩
    exact Or.inr ⟨rfl, i, middle, finds, by simp [Connection.board_read]⟩

/-! ## Messages and filters -/

theorem publish_runs {d : Connection.Draft} {audience : Audience} {a : Result Unit}
    (sound : s.board.Sound) (h : (publish id d audience).Runs s a s') :
    s.board.Reaches [] s'.board := by
  refine withConnection_reaches sound h ?_
  intro i v middle _ _ h
  simp only [Program.bind_eq, runs_bind_iff] at h
  rcases h with ⟨result, last, published, h⟩
  have same := Connection.publish_runs published
  rw [← same]
  cases result with
  | error error =>
      rcases runs_done_iff.1 h with ⟨-, rfl⟩
      exact .of_move .idle
  | ok _ =>
      rw [modifyProfile_runs h]
      exact .of_move .idle

theorem subscribe_runs {fresh : Nat → String} {filters : List FilterRequest} {audience : Audience}
    {a : Result Unit} (sound : s.board.Sound)
    (h : (subscribe id fresh filters audience).Runs s a s') : s.board.Reaches [] s'.board := by
  refine withConnection_reaches sound h ?_
  intro i v middle _ hv h
  simp only [Program.bind_eq, runs_bind_iff] at h
  rcases h with ⟨result, last, subscribed, h⟩
  have moved := Connection.subscribe_runs hv subscribed
  cases result with
  | error error =>
      rcases runs_done_iff.1 h with ⟨-, rfl⟩
      exact .of_move moved
  | ok _ =>
      simp only [runs_look_bind_iff] at h
      rw [modifyProfile_runs h]
      exact .of_move moved

theorem unsubscribe_runs {filters : List String} {audience : Audience} {a : Result Unit}
    (sound : s.board.Sound) (h : (unsubscribe id filters audience).Runs s a s') :
    s.board.Reaches [] s'.board :=
  withConnection_reaches sound h fun _ hv h => .of_move (Connection.unsubscribe_runs hv h)

theorem reportAll_runs {success failure : String} {result a : Result Unit}
    (h : (reportAll success failure result).Runs s a s') : s'.board = s.board := by
  cases result with
  | ok _ =>
      simp only [reportAll] at h
      rcases runs_change_done_iff.1 h with ⟨-, rfl⟩
      simp
  | error error =>
      simp only [reportAll] at h
      rcases runs_change_done_iff.1 h with ⟨-, rfl⟩
      rw [Scene.board_apply]
      split <;> rfl

theorem subscribeAll_runs {fresh : Nat → String} {a : Result Unit} (sound : s.board.Sound)
    (h : (subscribeAll id fresh).Runs s a s') : s.board.Reaches [] s'.board := by
  refine withConnection_reaches sound h ?_
  intro i v middle sound _ h
  simp only [Program.bind_eq, runs_look_bind_iff] at h
  split at h
  · rcases runs_done_iff.1 h with ⟨-, rfl⟩
    exact .of_move .idle
  · simp only [runs_look_bind_iff] at h
    split at h
    · rcases runs_change_done_iff.1 h with ⟨-, rfl⟩
      simpa using .of_move .idle
    · simp only [runs_bind_iff] at h
      rcases h with ⟨result, last, subscribed, h⟩
      rw [reportAll_runs h]
      exact subscribe_runs sound subscribed

theorem unsubscribeAll_runs {a : Result Unit} (sound : s.board.Sound)
    (h : (unsubscribeAll id).Runs s a s') : s.board.Reaches [] s'.board := by
  refine withConnection_reaches sound h ?_
  intro i v middle sound hv h
  simp only [Program.bind_eq, runs_look_bind_iff] at h
  split at h
  · rcases runs_change_done_iff.1 h with ⟨-, rfl⟩
    simpa using .of_move .idle
  · simp only [runs_bind_iff] at h
    rcases h with ⟨result, last, unsubscribed, h⟩
    rw [reportAll_runs h]
    exact .of_move (Connection.unsubscribe_runs hv unsubscribed)

theorem locally_runs {change : ConnectionRef → Console → Console} {a : Result Unit}
    (sound : s.board.Sound) (h : (locally id change).Runs s a s')
    (moves : ∀ {i v c opened}, (board c opened).vitals[i]? = some v →
      (board c opened).Move [] ((change i c).board opened)) :
    s.board.Reaches [] s'.board := by
  refine withConnection_reaches sound h ?_
  intro i v middle _ hv h
  rcases runs_change_done_iff.1 h with ⟨-, rfl⟩
  exact .of_move (moves hv)

/-! ## Sessions -/

theorem connect_runs {token : Option String} {a : Result Bool} (sound : s.board.Sound)
    (h : (connect id token).Runs s a s') :
    (a = .ok true ∧
      s.board.Reaches ((s'.console.current? id).toList.map .began) s'.board) ∨
    (a ≠ .ok true ∧ s.board.Reaches [] s'.board) := by
  simp only [connect, Program.bind_eq, runs_look_bind_iff] at h
  split at h
  · rcases runs_done_iff.1 h with ⟨rfl, rfl⟩
    exact Or.inr ⟨nofun, .of_move .idle⟩
  · simp only [runs_look_bind_iff] at h
    split at h
    · rcases runs_done_iff.1 h with ⟨rfl, rfl⟩
      exact Or.inr ⟨nofun, .of_move .idle⟩
    · rcases withConnection_runs h with ⟨rfl, -, -, rfl⟩ | ⟨i, middle, finds, h⟩
      · exact Or.inr ⟨nofun, .of_move .idle⟩
      · rcases finds.get? sound with ⟨v, hv, -⟩
        rcases Connection.connect_runs hv h with ⟨rfl, move⟩ | ⟨refused, move⟩
        · refine Or.inl ⟨rfl, ?_⟩
          rw [current?_of_board move.current, finds.used]
          exact (Board.Reaches.of_move move).of_extends finds.grown
        · exact Or.inr ⟨refused, (Board.Reaches.of_move move).of_extends finds.grown⟩

/-- A disconnect is refused while the gate is held. -/
theorem disconnect_runs {a : Result Bool} (sound : s.board.Sound)
    (h : (disconnect id).Runs s a s') :
    s.board.Reaches
      (if s.console.gateHeld then [] else (s'.console.current? id).toList.map .withdrew)
      s'.board := by
  simp only [disconnect, Program.bind_eq, runs_look_bind_iff] at h
  split at h
  · next held =>
      rcases runs_done_iff.1 h with ⟨-, rfl⟩
      rw [if_pos held]
      exact .of_move .idle
  · next free =>
      rw [if_neg free]
      rcases withConnection_runs h with ⟨-, -, unused, rfl⟩ | ⟨i, middle, finds, h⟩
      · rw [unused]
        exact .of_move .idle
      · rcases finds.get? sound with ⟨v, hv, -⟩
        simp only [runs_bind_iff] at h
        rcases h with ⟨result, last, closed, h⟩
        -- What is left is to word the result.
        have same : s' = last := by
          cases result with
          | error error => exact (runs_done_iff.1 h).2
          | ok _ => exact (runs_done_iff.1 h).2
        subst same
        have move : middle.board.Move [.withdrew i] s'.board := by
          rcases Connection.disconnect_runs hv closed with
            ⟨-, -, rfl⟩ | ⟨session, held, -, after⟩ | ⟨_, -, after⟩
          · exact .kept i
          · rw [after]
            exact .closed hv held
          · rw [after]
            exact .kept i
        rw [current?_of_board move.current, finds.used]
        exact (Board.Reaches.of_move move).of_extends finds.grown

/-! ## Destroying -/

theorem destroy_runs {found : Bool} (sound : s.board.Sound) (h : (destroy id).Runs s found s') :
    s.board.Reaches ((s.console.current? id).toList.flatMap s.console.destroyMarks) s'.board := by
  simp only [destroy, Program.bind_eq, runs_bind_iff, runs_atomically_iff] at h
  rcases h with ⟨_, middle, ⟨rfl, retired⟩, h⟩
  have grown : s.board.Extends middle.board := by
    rw [retired]
    exact extends_retire _ _
  cases used : s.console.current? id with
  | none =>
      rw [used] at h
      rcases runs_done_iff.1 h with ⟨-, rfl⟩
      exact (Board.Reaches.of_move .idle).of_extends grown
  | some i =>
      rw [used] at h
      simp only [runs_bind_iff, Program.pure_eq, runs_done_iff] at h
      rcases h with ⟨_, last, destroyed, -, rfl⟩
      rcases get?_of_current? sound used with ⟨v, hv⟩
      have move := Connection.destroy_runs (grown.get?_of_get? hv)
        (sound.each hv).destroyed_iff.2 destroyed
      have marks : middle.console.destroyMarks i = s.console.destroyMarks i := by
        rw [retired]
        rfl
      rw [marks] at move
      simpa using (Board.Reaches.of_move move).of_extends grown

/-- The marks of destroying a connection stay the same when more connections are made. -/
theorem destroyMarks_of_extends {v : Vitals} (grown : s.board.Extends s'.board)
    (hv : s'.board.vitals[i]? = some v) :
    s'.console.destroyMarks i = s.console.destroyMarks i := by
  rw [Connection.destroyMarks_eq hv]
  by_cases hi : i < s.console.connections.length
  · have before : s.board.vitals[i]? = some (s.console.connection i).vitals :=
      board_get?_iff.2 ⟨hi, rfl⟩
    rw [Connection.destroyMarks_eq before]
    rw [grown.get?_of_get? before] at hv
    cases hv
    rfl
  · rcases grown.get? hv with before | rfl
    · exact absurd (board_get?_iff.1 before).1 hi
    · -- A connection that was made since is as the default one: it never began an attempt.
      have unknown : s.console.connection i = default := by
        simp [connection, hi]
      rw [destroyMarks, unknown]
      rfl

theorem removed?_of_known (known : s.console.profile? id ≠ none) :
    s.console.removed? id = (s.console.current? id).or
      (if (removeFirst id s.console.profiles).head?.map (·.id) = some id
        then some s.console.connections.length else none) := by
  unfold removed?
  cases found : s.console.profile? id with
  | none => exact absurd found known
  | some p => cases s.console.current? id <;> rfl

theorem profile?_of_head? (h : c.profiles.head?.map (·.id) = some id) : c.profile? id ≠ none := by
  cases profiles : c.profiles with
  | nil => simp [profiles] at h
  | cons p rest =>
      simp only [profiles, List.head?_cons, Option.map_some, Option.some.injEq] at h
      simp [profile?, profiles, h]

/-- After the focus moved, the connection of the removed profile is known. -/
theorem current?_of_finds {first : ConnectionId} {middle : Scene} (finds : Finds s first i middle) :
    middle.console.current? id = (s.console.current? id).or
      (if some first = some id then some s.console.connections.length else none) := by
  rw [finds.others]
  by_cases same : id = first
  · subst same
    cases unused : s.console.current? id with
    | none => simp [finds.fresh unused]
    | some j => rfl
  · simp [same, Ne.symm same]

/-- Where the focus goes when a profile was removed: to the first one that is left, if there is
one. -/
def Refocuses (first : Option ConnectionId) (s s' : Scene) : Prop :=
  match first with
  | none => s' = s.apply (·.setFocus none)
  | some first => (select first).Runs s (.ok ()) s'

/-- How a profile is removed: it goes from the list, then the focus moves, and then the connection
is destroyed. -/
theorem removeProfile_cases {a : Result Unit} (h : (removeProfile id).Runs s a s') :
    (a = .error (.connectionNotFound id) ∧ s.console.profile? id = none ∧ s' = s) ∨
    (s.console.profile? id ≠ none ∧ ∃ dropped focused found,
      dropped = s.apply (fun c => (c.saveProfiles (removeFirst id c.profiles)).2) ∧
      Refocuses ((removeFirst id s.console.profiles).head?.map (·.id)) dropped focused ∧
      (destroy id).Runs focused found s' ∧
      a = afterSaving (s.console.saveProfiles (removeFirst id s.console.profiles)).1 ()) := by
  simp only [removeProfile, Program.bind_eq, runs_bind_iff, runs_atomically_iff] at h
  rcases h with ⟨_, dropped, ⟨rfl, drop⟩, h⟩
  cases known : s.console.profile? id with
  | none =>
      simp only [dropProfile, known] at h drop
      rcases runs_done_iff.1 h with ⟨rfl, rfl⟩
      exact Or.inl ⟨rfl, rfl, drop⟩
  | some p =>
      simp only [dropProfile, known, runs_bind_iff] at h drop
      rcases h with ⟨selected, focused, moved, h⟩
      have shown : selected = .ok () ∧
          Refocuses ((removeFirst id s.console.profiles).head?.map (·.id)) dropped focused := by
        split at moved
        · next first found =>
            -- The profile that gets the focus is one of those left, so the selection succeeds.
            have known' : dropped.console.profile? first ≠ none := by
              rw [drop]
              exact profile?_of_head? found
            have found' : (removeFirst id s.console.profiles).head?.map (·.id) = some first := found
            rw [found']
            rcases select_runs moved with ⟨-, unknown, -⟩ | ⟨rfl, -⟩
            · exact absurd unknown known'
            · exact ⟨rfl, moved⟩
        · next nobody =>
            have nobody' : (removeFirst id s.console.profiles).head?.map (·.id) = none := nobody
            rw [nobody']
            exact runs_change_done_iff.1 moved
      rcases shown with ⟨rfl, shown⟩
      simp only [runs_bind_iff, Program.pure_eq, runs_done_iff] at h
      rcases h with ⟨found, _, destroyed, rfl, rfl⟩
      exact Or.inr ⟨Option.some_ne_none p, dropped, focused, found, drop, shown, destroyed, rfl⟩

/-- The focus moves to a profile that has a connection then. -/
theorem Refocuses.extends {first : Option ConnectionId} (h : Refocuses first s s') :
    s.board.Extends s'.board ∧
      s'.console.current? id = (s.console.current? id).or
        (if first = some id then some s.console.connections.length else none) := by
  cases first with
  | none =>
      obtain rfl : s' = s.apply (·.setFocus none) := h
      rw [Scene.board_apply, board_setFocus]
      exact ⟨.refl _, by simp [setFocus, current?]⟩
  | some first =>
      have run : (select first).Runs s (.ok ()) s' := h
      rcases select_runs run with ⟨refused, -⟩ | ⟨-, i, middle, finds, after⟩
      · cases refused
      · rw [after, current?_of_board (congrArg Board.current after), current?_of_finds finds]
        exact ⟨finds.grown, rfl⟩

theorem removeProfile_runs {a : Result Unit} (sound : s.board.Sound)
    (h : (removeProfile id).Runs s a s') :
    s.board.Reaches ((s.console.removed? id).toList.flatMap s.console.destroyMarks) s'.board := by
  rcases removeProfile_cases h with
    ⟨-, unknown, rfl⟩ | ⟨known, _, focused, found, rfl, moved, destroyed, -⟩
  · have none : s'.console.removed? id = none := by
      rw [removed?, unknown]
    rw [none]
    exact .of_move .idle
  · obtain ⟨grown, now⟩ : s.board.Extends focused.board ∧ focused.console.current? id = _ :=
      moved.extends
    -- The profile that gets the focus may have the removed id once more, with a new connection then.
    have current : focused.console.current? id = s.console.removed? id :=
      now.trans (removed?_of_known known).symm
    have reached := (destroy_runs (sound.extends grown) destroyed).of_extends grown
    have marks : (focused.console.current? id).toList.flatMap focused.console.destroyMarks =
        (s.console.removed? id).toList.flatMap s.console.destroyMarks := by
      rw [← current]
      cases used : focused.console.current? id with
      | none => rfl
      | some i =>
          rcases get?_of_current? (sound.extends grown) used with ⟨v, hv⟩
          simp [destroyMarks_of_extends grown hv]
    rwa [marks] at reached

/-! ## What comes from outside -/

theorem Outside.extends {c' : Console} (h : c.Outside c') :
    (c.board opened).Extends (c'.board opened) := by
  cases h with
  | clock | device | catalog | listen | unlisten | hear => exact .refl _
  | silence session =>
      refine ⟨⟨0, by simp [board]⟩, fun _ h => Or.inl h, ?_, rfl, rfl⟩
      intro entry member
      exact (List.mem_filter.1 member).1

end Console

/-! ## Steps -/

open Console in
/-- A call of the console does to the board what its marks say. -/
theorem Console.Call.reaches {call : Console.Call} {result : call.Result} {s s' : Scene}
    (sound : s.board.Sound) (h : call.program.Runs s result s') :
    s.board.Reaches ((Label.call call result).marks s.console s'.console) s'.board := by
  cases call with
  | getOrCreate id p =>
      rcases getOrCreate_runs h with ⟨-, -, -, rfl⟩ | ⟨i, -, finds⟩
      · exact .of_move .idle
      · exact (Board.Reaches.of_move .idle).of_extends finds.grown
  | destroy id => exact Console.destroy_runs sound h
  | add id fresh p => exact addProfile_runs h
  | update p =>
      have same := modifyProfile_runs h
      rw [same]
      exact .of_move .idle
  | remove id => exact removeProfile_runs sound h
  | select id =>
      rcases select_runs h with ⟨-, -, rfl⟩ | ⟨-, i, middle, finds, same⟩
      · exact .of_move .idle
      · rw [same]
        exact (Board.Reaches.of_move .idle).of_extends finds.grown
  | connect id token =>
      rcases Console.connect_runs sound h with ⟨rfl, reached⟩ | ⟨refused, reached⟩
      · exact reached
      · -- Only a connect that was let through has a mark.
        rcases result with _ | _ | _
        · exact reached
        · exact reached
        · exact absurd rfl refused
  | disconnect id => exact Console.disconnect_runs sound h
  | publish id d audience => exact Console.publish_runs sound h
  | subscribe id fresh filters audience => exact Console.subscribe_runs sound h
  | unsubscribe id filters audience => exact Console.unsubscribe_runs sound h
  | subscribeAll id fresh => exact Console.subscribeAll_runs sound h
  | unsubscribeAll id => exact Console.unsubscribeAll_runs sound h
  | clear id =>
      refine locally_runs sound h ?_
      intro i v c opened _
      rw [Connection.board_clear]
      exact .idle
  | setRenderMode id mode =>
      refine locally_runs sound h ?_
      intro i v c opened _
      rw [Connection.board_setRenderMode]
      exact .idle
  | forget id filter => exact locally_runs sound h Connection.move_forget

/-- A call of one connection does to the board what its marks say. -/
theorem Connection.Call.reaches {call : Connection.Call} {i : ConnectionRef}
    {result : call.Result} {s s' : Scene} (sound : s.board.Sound)
    (hi : i < s.console.connections.length) (h : (call.program i).Runs s result s') :
    s.board.Reaches ((Label.direct i call result).marks s.console s'.console) s'.board := by
  have hv : s.board.vitals[i]? = some (s.console.connection i).vitals :=
    Console.board_get?_iff.2 ⟨hi, rfl⟩
  apply Board.Reaches.of_move
  cases call with
  | connect p token =>
      rcases Connection.connect_runs hv h with ⟨rfl, move⟩ | ⟨refused, move⟩
      · exact move
      · rcases result with _ | _ | _
        · exact move
        · exact move
        · exact absurd rfl refused
  | disconnect =>
      rcases Connection.disconnect_runs hv h with ⟨-, -, rfl⟩ | ⟨_, held, -, after⟩ | ⟨_, -, after⟩
      · exact .kept i
      · rw [after]
        exact .closed hv held
      · rw [after]
        exact .kept i
  | destroy => exact Connection.destroy_runs hv (sound.each hv).destroyed_iff.2 h
  | publish d audience =>
      have same := Connection.publish_runs h
      rw [same]
      exact .idle
  | subscribe filters audience => exact Connection.subscribe_runs hv h
  | unsubscribe filters audience => exact Connection.unsubscribe_runs hv h
  | clear =>
      rcases runs_change_iff.1 h with rfl
      rw [Scene.board_apply, Connection.board_clear]
      exact .idle
  | read =>
      rcases runs_change_iff.1 h with rfl
      rw [Scene.board_apply, Connection.board_read]
      exact .idle
  | setRenderMode mode =>
      rcases runs_change_iff.1 h with rfl
      rw [Scene.board_apply, Connection.board_setRenderMode]
      exact .idle
  | forget filter =>
      rcases runs_change_iff.1 h with rfl
      exact Connection.move_forget hv

/-- A step does to the board what its marks say. -/
theorem Step.reaches {label : Label} {s s' : Scene} (sound : s.board.Sound)
    (step : Step s label s') :
    s.board.Reaches (label.marks s.console s'.console) s'.board := by
  cases step with
  | call h => exact Console.Call.reaches sound h
  | direct hi h => exact Connection.Call.reaches sound hi h
  | event member alive h =>
      -- Handlers refer to connections that stand on the board.
      have hi := sound.handlers _ member
      obtain ⟨v, hv⟩ : ∃ v, s.board.vitals[_]? = some v := ⟨_, List.getElem?_eq_getElem hi⟩
      rcases Console.board_get?_iff.1 hv with ⟨-, rfl⟩
      exact .of_move (Connection.react_runs hv alive h)
  | outside h => exact (Board.Reaches.of_move .idle).of_extends h.extends

end DeviceConsole
