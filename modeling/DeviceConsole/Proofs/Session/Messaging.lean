import DeviceConsole.Proofs.Session.Board

/-!
# What messages and filters do to a board

Messages leave the board as it is; a filter that was granted or given back only changes the live map
of a connection that holds a session.  This file proves:

* `Connection.publish_runs`;
* `Connection.subscribe_outcome` and `Connection.unsubscribe_outcome`;
* `Connection.move_forget` and the like, about what needs no broker.
-/

namespace DeviceConsole

open Operation

namespace Connection

variable {i : ConnectionRef} {v : Vitals} {c : Console} {opened : List SessionId} {s s' : Scene}

/-! ## Messages -/

@[simp] theorem board_logMessage {m : Message} :
    (logMessage i m c).board opened = c.board opened :=
  Console.board_update_of_vitals rfl

theorem board_beginPublish {d : Draft} {audience : Audience} :
    (beginPublish i d audience c).2.board opened = c.board opened := by
  simp only [beginPublish]
  split
  · rfl
  · split
    · rfl
    · split
      · rfl
      · split
        · rfl
        · split
          · simp
          · rfl

theorem board_finishPublish {d : Draft} :
    (finishPublish i d c).board opened = c.board opened := by
  simp only [finishPublish, Console.board_raiseFor, board_logMessage]
  exact Console.board_update_of_vitals rfl

theorem publish_runs {d : Draft} {audience : Audience} {a : Except ConsoleError Unit}
    (h : (publish i d audience).Runs s a s') : s'.board = s.board := by
  simp only [publish, Program.bind_eq, runs_bind_iff, runs_atomically_iff] at h
  rcases h with ⟨begun, _, ⟨-, rfl⟩, h⟩
  cases begun with
  | error error =>
      rcases runs_done_iff.1 h with ⟨-, rfl⟩
      exact board_beginPublish
  | ok sent =>
      simp only [runs_bind_iff, runs_ask_iff] at h
      rcases h with ⟨reply, _, ⟨-, rfl⟩, h⟩
      cases reply with
      | error error =>
          rcases runs_change_done_iff.1 h with ⟨-, rfl⟩
          simp [board_beginPublish]
      | ok _ =>
          rcases runs_change_done_iff.1 h with ⟨-, rfl⟩
          simp [board_finishPublish, board_beginPublish]

/-! ## Filters -/

theorem beginRequest_spec (count : Nat) (hv : (c.board opened).vitals[i]? = some v) :
    (beginRequest i count c).2.board opened = c.board opened ∧
      ∀ session, (beginRequest i count c).1 = .ok session → v.session = some session := by
  rcases Console.board_get?_iff.1 hv with ⟨-, rfl⟩
  simp only [beginRequest]
  split
  · exact ⟨rfl, nofun⟩
  · split
    · exact ⟨rfl, nofun⟩
    · next session found =>
        -- A session that is open is one that the connection holds.
        have held : (c.connection i).session = some session := by
          unfold openSession? at found
          split at found
          · exact found
          · cases found
        split
        · exact ⟨rfl, nofun⟩
        · refine ⟨rfl, ?_⟩
          intro _ same
          cases same
          exact held

/-- A request about filters is refused, or goes on over the session of the connection; either way
nothing was said so far. -/
theorem beginRequest_runs {α : Type} {count : Nat} {a : Except ConsoleError α}
    {next : Except ConsoleError SessionId → Operation (Except ConsoleError α)}
    (hv : s.board.vitals[i]? = some v)
    (h : Runs ((Program.atomically (beginRequest i count)).bind next) s a s')
    (refused : ∀ error, next (.error error) = .done (.error error)) :
    (s'.board = s.board ∧ s'.exchanges = s.exchanges) ∨
    ∃ session middle, v.session = some session ∧ middle.board = s.board ∧
      middle.exchanges = s.exchanges ∧ (next (.ok session)).Runs middle a s' := by
  simp only [runs_bind_iff, runs_atomically_iff] at h
  rcases h with ⟨_, middle, ⟨rfl, begun⟩, h⟩
  rcases beginRequest_spec count hv with ⟨board, found⟩
  have same : middle.board = s.board := by
    rw [begun]
    exact board
  have silent : middle.exchanges = s.exchanges := by
    rw [begun]
    rfl
  cases started : (beginRequest i count s.console).1 with
  | error error =>
      rw [started, refused] at h
      rcases runs_done_iff.1 h with ⟨-, rfl⟩
      exact Or.inl ⟨same, silent⟩
  | ok session =>
      rw [started] at h
      exact Or.inr ⟨session, middle, found session started, same, silent, h⟩

/-- Filters are marked over a session. -/
theorem board_mark {active : Bool} {filters : List String} (hv : s.board.vitals[i]? = some v) :
    (s.console.present i (Snapshot.mark active filters)).board s.opened =
      s.board.put i { v with
        live := filters.foldl (fun live filter => live.insert filter active) v.live } := by
  rcases Console.board_get?_iff.1 hv with ⟨-, rfl⟩
  exact Console.board_present i _

/-- Filters are marked as active if the broker answered with codes of which none refuses one; else
the board stays as it is. -/
theorem subscribe_outcome {filters : List FilterRequest} {audience : Audience}
    {a : Except ConsoleError Unit} (hv : s.board.vitals[i]? = some v)
    (h : (subscribe i filters audience).Runs s a s') :
    s'.board = s.board ∨
    ∃ (session : SessionId) (codes : List UInt8), v.session = some session ∧
      refusedFilters filters codes = [] ∧
      s'.exchanges = s.exchanges ++ [⟨.subscribe session filters, .ok codes⟩] ∧
      s'.board = s.board.put i { v with
        live := (filters.map (·.1)).foldl (fun live filter => live.insert filter true) v.live } := by
  simp only [subscribe, Program.bind_eq] at h
  rcases beginRequest_runs hv h fun _ => rfl with
    ⟨same, -⟩ | ⟨session, middle, held, same, silent, h⟩
  · exact Or.inl same
  · rw [← same] at hv ⊢
    simp only [runs_bind_iff, runs_ask_iff] at h
    rcases h with ⟨reply, _, ⟨-, rfl⟩, h⟩
    cases reply with
    | error error =>
        rcases runs_change_done_iff.1 h with ⟨-, rfl⟩
        exact Or.inl (by simp)
    | ok codes =>
        -- A single refused filter leaves all of them unmarked.
        dsimp only at h
        split at h
        · next granted =>
            rcases runs_change_done_iff.1 h with ⟨-, rfl⟩
            refine Or.inr ⟨session, codes, held, granted, ?_, ?_⟩
            · rw [← silent]
              rfl
            · simpa using board_mark hv
        · rcases runs_change_done_iff.1 h with ⟨-, rfl⟩
          exact Or.inl (by simp)

theorem subscribe_runs {filters : List FilterRequest} {audience : Audience}
    {a : Except ConsoleError Unit} (hv : s.board.vitals[i]? = some v)
    (h : (subscribe i filters audience).Runs s a s') : s.board.Move [] s'.board := by
  rcases subscribe_outcome hv h with same | ⟨session, codes, held, -, -, marked⟩
  · rw [same]
    exact .idle
  · rw [marked]
    exact .marked _ hv held

/-- Filters are marked as inactive if the broker confirmed it; else the board stays as it is. -/
theorem unsubscribe_outcome {filters : List String} {audience : Audience}
    {a : Except ConsoleError Unit} (hv : s.board.vitals[i]? = some v)
    (h : (unsubscribe i filters audience).Runs s a s') :
    (s'.board = s.board ∧ (s'.exchanges = s.exchanges ∨ ∃ session error,
      s'.exchanges = s.exchanges ++ [⟨.unsubscribe session filters, .error error⟩])) ∨
    ∃ session, v.session = some session ∧
      s'.exchanges = s.exchanges ++ [⟨.unsubscribe session filters, .ok ()⟩] ∧
      s'.board = s.board.put i { v with
        live := filters.foldl (fun live filter => live.insert filter false) v.live } := by
  simp only [unsubscribe, Program.bind_eq] at h
  rcases beginRequest_runs hv h fun _ => rfl with
    ⟨same, silent⟩ | ⟨session, middle, held, same, silent, h⟩
  · exact Or.inl ⟨same, Or.inl silent⟩
  · rw [← same] at hv ⊢
    rw [← silent]
    simp only [runs_bind_iff, runs_ask_iff] at h
    rcases h with ⟨reply, _, ⟨-, rfl⟩, h⟩
    cases reply with
    | error error =>
        rcases runs_change_done_iff.1 h with ⟨-, rfl⟩
        exact Or.inl ⟨by simp, Or.inr ⟨session, error, rfl⟩⟩
    | ok _ =>
        rcases runs_change_done_iff.1 h with ⟨-, rfl⟩
        refine Or.inr ⟨session, held, rfl, ?_⟩
        simpa using board_mark hv

theorem unsubscribe_runs {filters : List String} {audience : Audience}
    {a : Except ConsoleError Unit} (hv : s.board.vitals[i]? = some v)
    (h : (unsubscribe i filters audience).Runs s a s') : s.board.Move [] s'.board := by
  rcases unsubscribe_outcome hv h with ⟨same, -⟩ | ⟨session, held, -, marked⟩
  · rw [same]
    exact .idle
  · rw [marked]
    exact .marked _ hv held

/-! ## Without the broker -/

theorem board_clear : (clear i c).board opened = c.board opened :=
  Console.board_update_of_vitals rfl

theorem board_read : (read i c).board opened = c.board opened :=
  Console.board_update_of_vitals rfl

theorem board_setRenderMode {mode : RenderMode} :
    (setRenderMode i mode c).board opened = c.board opened :=
  Console.board_update_of_vitals rfl

theorem move_forget {filter : String} (hv : (c.board opened).vitals[i]? = some v) :
    (c.board opened).Move [] ((forget i filter c).board opened) := by
  unfold forget
  split
  · have erased : (c.present i fun s => { s with live := s.live.erase filter }).board opened =
        (c.board opened).put i { v with live := v.live.erase filter } := by
      rcases Console.board_get?_iff.1 hv with ⟨-, rfl⟩
      exact Console.board_present i _
    rw [erased]
    exact .forgot filter hv
  · exact .idle

end Connection

end DeviceConsole
