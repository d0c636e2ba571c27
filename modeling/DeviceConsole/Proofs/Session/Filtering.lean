import DeviceConsole.Proofs.Session.Publishing

/-!
# What a request about filters comes to

Filters are subscribed and unsubscribed over the session of a connection that is up.  This file
defines:

* `Connection.requestObstacle?`, what stands against a request about some number of filters;
* `Console.Marks`, what a request that was granted leaves: marks in the live map;
* `Connection.Subscribed` and `Connection.Unsubscribed`, what a request comes to, with what it says
  to the transport, and `subscribe_subscribed`, `unsubscribe_unsubscribed`, that it comes to nothing
  else;
* `ConsoleError.IsLocal`, the failures that a connection can report.
-/

namespace DeviceConsole

open Operation

/-- Whether filters of a connection were marked, and the operator was told something at most. -/
def Console.Marks (i : ConnectionRef) (active : Bool) (filters : List String) (c c' : Console) :
    Prop := ∃ notices, c' = (c.notifyAll notices).present i (Snapshot.mark active filters)

theorem Console.marks_confirm {i : ConnectionRef} {active : Bool} {filters : List String}
    {c c' : Console} (told : c.Tells c') (audience : Audience) (text : String) :
    c.Marks i active filters
      ((c'.present i (Snapshot.mark active filters)).confirm audience text) := by
  rcases told with ⟨notices, rfl⟩
  cases audience with
  | operator =>
      refine ⟨notices ++ [⟨.done, text⟩], ?_⟩
      simp [confirm, notify, notifyAll, present, update]
  | caller => exact ⟨notices, rfl⟩

namespace Connection

def requestObstacle? (x : Connection) (count : Nat) : Option ConsoleError :=
  if x.destroyed then some .destroyed
  else if x.openSession? = none then some (.precondition .notConnected)
  else if count = 0 then some (.precondition .emptyTopicList)
  else none

variable {i : ConnectionRef} {c : Console} {s s' : Scene} {audience : Audience} {count : Nat}

/-- The checks find what stands against a request, and let everything else pass. -/
theorem beginRequest_checks (i : ConnectionRef) (count : Nat) (c : Console) :
    c.Tells (beginRequest i count c).2 ∧
      ((∃ error, (c.connection i).requestObstacle? count = some error ∧
          (beginRequest i count c).1 = .error error) ∨
        ∃ session, (c.connection i).requestObstacle? count = none ∧
          (c.connection i).openSession? = some session ∧
          (beginRequest i count c).1 = .ok session) := by
  have still : c.Tells c := ⟨[], by simp [Console.notifyAll]⟩
  have told : ∀ refusal, c.Tells (c.refuse (α := SessionId) refusal).2 := fun _ => ⟨[_], rfl⟩
  simp only [beginRequest, requestObstacle?]
  split
  · exact ⟨still, Or.inl ⟨_, rfl, rfl⟩⟩
  · cases (c.connection i).openSession? with
    | none => exact ⟨told _, Or.inl ⟨_, rfl, rfl⟩⟩
    | some session =>
        by_cases empty : count = 0
        · simp only [empty, if_true]
          exact ⟨told _, Or.inl ⟨_, rfl, rfl⟩⟩
        · simp only [empty, if_false]
          exact ⟨still, Or.inr ⟨session, rfl, rfl, rfl⟩⟩

/-! ## Subscribing -/

/-- What a request to subscribe filters comes to, with what it says to the transport. -/
inductive Subscribed (i : ConnectionRef) (filters : List FilterRequest) (s s' : Scene) :
    Except ConsoleError Unit → Prop where
  /-- Something stands against it, and nothing is said. -/
  | refused (error : ConsoleError) :
      (s.console.connection i).requestObstacle? filters.length = some error →
      s'.exchanges = s.exchanges → s.console.Tells s'.console →
      Subscribed i filters s s' (.error error)
  | failed (session : SessionId) (error : TransportError) :
      (s.console.connection i).openSession? = some session →
      s'.exchanges = s.exchanges ++ [⟨.subscribe session filters, .error error⟩] →
      s.console.Tells s'.console → Subscribed i filters s s' (.error (.transport error))
  /-- The broker answered, but refused a filter. -/
  | rejected (session : SessionId) (codes : List UInt8) (error : TransportError) :
      (s.console.connection i).openSession? = some session → refusedFilters filters codes ≠ [] →
      s'.exchanges = s.exchanges ++ [⟨.subscribe session filters, .ok codes⟩] →
      s.console.Tells s'.console → Subscribed i filters s s' (.error (.transport error))
  | granted (session : SessionId) (codes : List UInt8) :
      (s.console.connection i).openSession? = some session → refusedFilters filters codes = [] →
      s'.exchanges = s.exchanges ++ [⟨.subscribe session filters, .ok codes⟩] →
      s.console.Marks i true (filters.map (·.1)) s'.console → Subscribed i filters s s' (.ok ())

theorem subscribe_subscribed {filters : List FilterRequest} {a : Except ConsoleError Unit}
    (h : (subscribe i filters audience).Runs s a s') : Subscribed i filters s s' a := by
  simp only [subscribe, Program.bind_eq, runs_bind_iff, runs_atomically_iff] at h
  rcases h with ⟨_, _, ⟨rfl, rfl⟩, h⟩
  rcases beginRequest_checks i filters.length s.console with
    ⟨told, ⟨error, obstacle, begun⟩ | ⟨session, -, opened, begun⟩⟩
  · rw [begun] at h
    rcases runs_done_iff.1 h with ⟨rfl, rfl⟩
    exact .refused error obstacle rfl told
  · rw [begun] at h
    simp only [runs_bind_iff, runs_ask_iff] at h
    rcases h with ⟨reply, _, ⟨-, rfl⟩, h⟩
    cases reply with
    | error error =>
        rcases runs_change_done_iff.1 h with ⟨rfl, rfl⟩
        exact .failed session error opened rfl (told.trans (Console.tells_report _ _))
    | ok codes =>
        dsimp only at h
        split at h
        · next granted =>
            rcases runs_change_done_iff.1 h with ⟨rfl, rfl⟩
            exact .granted session codes opened granted rfl (Console.marks_confirm told _ _)
        · next refused =>
            rcases runs_change_done_iff.1 h with ⟨rfl, rfl⟩
            exact .rejected session codes _ opened refused rfl
              (told.trans (Console.tells_report _ _))

/-! ## Unsubscribing -/

/-- What a request to unsubscribe filters comes to, with what it says to the transport. -/
inductive Unsubscribed (i : ConnectionRef) (filters : List String) (s s' : Scene) :
    Except ConsoleError Unit → Prop where
  /-- Something stands against it, and nothing is said. -/
  | refused (error : ConsoleError) :
      (s.console.connection i).requestObstacle? filters.length = some error →
      s'.exchanges = s.exchanges → s.console.Tells s'.console →
      Unsubscribed i filters s s' (.error error)
  | failed (session : SessionId) (error : TransportError) :
      (s.console.connection i).openSession? = some session →
      s'.exchanges = s.exchanges ++ [⟨.unsubscribe session filters, .error error⟩] →
      s.console.Tells s'.console → Unsubscribed i filters s s' (.error (.transport error))
  | revoked (session : SessionId) :
      (s.console.connection i).openSession? = some session →
      s'.exchanges = s.exchanges ++ [⟨.unsubscribe session filters, .ok ()⟩] →
      s.console.Marks i false filters s'.console → Unsubscribed i filters s s' (.ok ())

theorem unsubscribe_unsubscribed {filters : List String} {a : Except ConsoleError Unit}
    (h : (unsubscribe i filters audience).Runs s a s') : Unsubscribed i filters s s' a := by
  simp only [unsubscribe, Program.bind_eq, runs_bind_iff, runs_atomically_iff] at h
  rcases h with ⟨_, _, ⟨rfl, rfl⟩, h⟩
  rcases beginRequest_checks i filters.length s.console with
    ⟨told, ⟨error, obstacle, begun⟩ | ⟨session, -, opened, begun⟩⟩
  · rw [begun] at h
    rcases runs_done_iff.1 h with ⟨rfl, rfl⟩
    exact .refused error obstacle rfl told
  · rw [begun] at h
    simp only [runs_bind_iff, runs_ask_iff] at h
    rcases h with ⟨reply, _, ⟨-, rfl⟩, h⟩
    cases reply with
    | error error =>
        rcases runs_change_done_iff.1 h with ⟨rfl, rfl⟩
        exact .failed session error opened rfl (told.trans (Console.tells_report _ _))
    | ok _ =>
        rcases runs_change_done_iff.1 h with ⟨rfl, rfl⟩
        exact .revoked session opened rfl (Console.marks_confirm told _ _)

end Connection

/-! ## Failures of a connection -/

/-- Whether a failure is one that a connection can report: it knows neither the profiles nor where
they are stored. -/
def ConsoleError.IsLocal : ConsoleError → Prop
  | .storage _ => False
  | .settings _ => False
  | .connectionNotFound _ => False
  | _ => True

theorem ConsoleError.IsLocal.ne_storage {error : ConsoleError} (h : error.IsLocal)
    (e : StorageError) : error ≠ .storage e := by
  rintro rfl
  exact h

theorem ConsoleError.IsLocal.ne_connectionNotFound {error : ConsoleError} (h : error.IsLocal)
    (id : ConnectionId) : error ≠ .connectionNotFound id := by
  rintro rfl
  exact h

namespace Connection

variable {i : ConnectionRef} {s s' : Scene} {audience : Audience} {error : ConsoleError}

theorem Draft.obstacle?_local {d : Draft} {x : Connection} (h : d.obstacle? x = some error) :
    error.IsLocal := by
  rcases Option.map_eq_some_iff.1 h with ⟨entry, found, rfl⟩
  have listed := List.mem_of_find?_eq_some found
  simp only [obstacles, List.mem_append, List.mem_cons, List.not_mem_nil, or_false] at listed
  rcases listed with (rfl | rfl | rfl | rfl) | listed
  · trivial
  · trivial
  · trivial
  · trivial
  · split at listed
    · rcases List.mem_singleton.1 listed with rfl
      trivial
    · cases listed

theorem requestObstacle?_local {x : Connection} {count : Nat}
    (h : x.requestObstacle? count = some error) : error.IsLocal := by
  unfold requestObstacle? at h
  split at h
  · cases h
    trivial
  · split at h
    · cases h
      trivial
    · split at h <;> cases h
      trivial

theorem publish_error {d : Draft} (h : (publish i d audience).Runs s (.error error) s') :
    error.IsLocal := by
  cases publish_published h with
  | refused _ obstacle => exact Draft.obstacle?_local obstacle
  | failed => trivial

theorem subscribe_error {filters : List FilterRequest}
    (h : (subscribe i filters audience).Runs s (.error error) s') : error.IsLocal := by
  cases subscribe_subscribed h with
  | refused _ obstacle => exact requestObstacle?_local obstacle
  | failed | rejected => trivial

theorem unsubscribe_error {filters : List String}
    (h : (unsubscribe i filters audience).Runs s (.error error) s') : error.IsLocal := by
  cases unsubscribe_unsubscribed h with
  | refused _ obstacle => exact requestObstacle?_local obstacle
  | failed => trivial

end Connection

end DeviceConsole
