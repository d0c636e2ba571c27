import DeviceConsole.Proofs.Session.Reachable
import DeviceConsole.Proofs.Session.Requests

/-!
# What the live map tells

A filter that a connection marks as active was granted over the session it holds.  This file
defines:

* `Exchange.Grants` and `Exchange.Revokes`, the exchanges that make a filter active and inactive;
* `Board.Fades`, boards of which the second one has no more active filters than the first;
* `Scene.Truthful`, that every active filter was granted and not revoked since, which every step
  keeps.
-/

namespace DeviceConsole

open Operation

/-! ## Grants -/

namespace Exchange

variable {session : SessionId} {filter : String} {e : Exchange}

/-- Whether an exchange is a request to subscribe a filter over a session in which no filter was
refused: no code at the position of one says so. -/
def Grants (session : SessionId) (filter : String) (e : Exchange) : Prop :=
  ∃ (filters : List FilterRequest) (codes : List UInt8),
    e = ⟨.subscribe session filters, .ok codes⟩ ∧ filter ∈ filters.map (·.1) ∧
      ∀ (k : Nat) (code : UInt8), k < filters.length → codes[k]? = some code → code ≤ 2

/-- Whether an exchange is a request to unsubscribe a filter over a session that succeeded. -/
def Revokes (session : SessionId) (filter : String) (e : Exchange) : Prop :=
  ∃ filters : List String, e = ⟨.unsubscribe session filters, .ok ()⟩ ∧ filter ∈ filters

end Exchange

/-- Codes of which none refuses a filter. -/
theorem Connection.le_of_refusedFilters {filters : List FilterRequest} {codes : List UInt8}
    (h : refusedFilters filters codes = []) {k : Nat} {code : UInt8} (hk : k < filters.length)
    (found : codes[k]? = some code) : code ≤ 2 := by
  have paired : (filters[k], code) ∈ filters.zip codes := by
    apply List.mem_of_getElem? (i := k)
    simp [List.getElem?_zip_eq_some, hk, found]
  have accepted : ∀ entry ∈ filters.zip codes, ¬ 2 < entry.2 := by
    simpa [refusedFilters, List.filter_eq_nil_iff] using h
  exact UInt8.not_lt.1 (accepted _ paired)

/-- Whether a filter was granted over a session, and not revoked since. -/
def Scene.Granted (s : Scene) (session : SessionId) (filter : String) : Prop :=
  ∃ earlier e later, s.exchanges = earlier ++ e :: later ∧ e.Grants session filter ∧
    ∀ x ∈ later, ¬ x.Revokes session filter

namespace Scene

variable {s s' : Scene} {session : SessionId} {filter : String} {said : List Exchange}

theorem Granted.later (h : s.Granted session filter) (e : s'.exchanges = s.exchanges ++ said)
    (kept : ∀ x ∈ said, ¬ x.Revokes session filter) : s'.Granted session filter := by
  rcases h with ⟨earlier, x, later, split, grants, none⟩
  refine ⟨earlier, x, later ++ said, by rw [e, split]; simp, grants, ?_⟩
  intro y member
  rcases List.mem_append.1 member with member | member
  · exact none y member
  · exact kept y member

theorem granted_last {x : Exchange} (grants : x.Grants session filter)
    (e : s'.exchanges = s.exchanges ++ [x]) : s'.Granted session filter :=
  ⟨s.exchanges, x, [], e, grants, fun _ member => absurd member List.not_mem_nil⟩

end Scene

/-! ## Requests that revoke nothing -/

/-- Whether a request is no request to unsubscribe. -/
def Request.Plain : Request → Prop
  | .unsubscribe _ _ => False
  | _ => True

theorem Exchange.not_revokes {e : Exchange} {session : SessionId} {filter : String}
    (plain : e.request.Plain) : ¬ e.Revokes session filter := by
  rintro ⟨filters, rfl, -⟩
  exact plain

/-! ## Boards with no more active filters -/

namespace Board

variable {b b' b'' : Board} {marks : List Mark} {i : ConnectionRef} {v w : Vitals}

/-- Whether each filter that is active on the second board was active on the first one, for a
connection with the same session. -/
structure Fades (b b' : Board) : Prop where
  before : ∀ {i : ConnectionRef} {w : Vitals} {filter : String}, b'.vitals[i]? = some w →
    w.live.get? filter = some true →
      ∃ v, b.vitals[i]? = some v ∧ v.live.get? filter = some true ∧ w.session = v.session

theorem Fades.refl (b : Board) : b.Fades b := ⟨fun hw live => ⟨_, hw, live, rfl⟩⟩

theorem Fades.trans (first : b.Fades b') (second : b'.Fades b'') : b.Fades b'' := by
  constructor
  intro i x filter hx live
  rcases second.before hx live with ⟨w, hw, active, same⟩
  rcases first.before hw active with ⟨v, hv, active', same'⟩
  exact ⟨v, hv, active', same.trans same'⟩

theorem Extends.fades (grown : b.Extends b') : b.Fades b' := by
  constructor
  intro i w filter hw live
  rcases grown.get? hw with before | rfl
  · exact ⟨w, before, live, rfl⟩
  · cases live

/-- Filters of a connection are taken out of the live map, and its session stays. -/
theorem fades_kept (hv : b.vitals[i]? = some v) (vitals : b'.vitals = b.vitals.set i w)
    (same : w.session = v.session)
    (h : ∀ filter, w.live.get? filter = some true → v.live.get? filter = some true) :
    b.Fades b' := by
  constructor
  intro j x filter hx live
  rw [vitals] at hx
  rcases get?_put (b := b) hx with ⟨rfl, rfl⟩ | ⟨-, before⟩
  · exact ⟨v, hv, h filter live, same⟩
  · exact ⟨x, before, live, rfl⟩

/-- The live map of a connection is emptied. -/
theorem fades_bare (bare : w.live = .empty) (vitals : b'.vitals = b.vitals.set i w) :
    b.Fades b' := by
  constructor
  intro j x filter hx live
  rw [vitals] at hx
  rcases get?_put (b := b) hx with ⟨-, rfl⟩ | ⟨-, before⟩
  · rw [bare] at live
    cases live
  · exact ⟨x, before, live, rfl⟩

/-- A move that has a mark makes no filter active. -/
theorem Move.fades (move : b.Move marks b') (marked : marks ≠ []) : b.Fades b' := by
  cases move with
  | idle | unopened | marked | forgot => exact absurd rfl marked
  | kept | gone => exact .refl b
  | opened | closed | destroyed | aborted => exact fades_bare rfl rfl
  | retried hv _ _ _ => exact fades_kept hv rfl rfl fun _ => id
  | settled hv _ _ settles =>
      cases settles with
      | up | failed | dropped => exact fades_kept hv rfl rfl fun _ => id
      | ended | gaveUp => exact fades_bare rfl rfl

theorem Reaches.fades (reached : b.Reaches marks b') (marked : marks ≠ []) : b.Fades b' := by
  rcases reached with ⟨middle, grown, move⟩
  exact grown.fades.trans (move.fades marked)

end Board

/-! ## Scenes that tell the truth -/

/-- Whether every active filter of a connection was granted over the session that it holds, and not
revoked since. -/
structure Scene.Truthful (s : Scene) : Prop where
  granted : ∀ {i : ConnectionRef} {v : Vitals} {filter : String}, s.board.vitals[i]? = some v →
    v.live.get? filter = some true →
      ∃ session, v.session = some session ∧ s.Granted session filter

namespace Scene.Truthful

variable {s s' : Scene} {said : List Exchange}

/-- No filter becomes active, and nothing is revoked. -/
theorem fades (h : s.Truthful) (fades : s.board.Fades s'.board)
    (e : s'.exchanges = s.exchanges ++ said) (plain : ∀ x ∈ said, x.request.Plain) :
    s'.Truthful := by
  constructor
  intro i w filter hw live
  rcases fades.before hw live with ⟨v, hv, active, same⟩
  rcases h.granted hv active with ⟨session, held, granted⟩
  exact ⟨session, same.trans held,
    granted.later e fun x member => Exchange.not_revokes (plain x member)⟩

theorem asks (h : s.Truthful) {α : Type} {p : Operation α} {a : α} (run : p.Runs s a s')
    (asks : p.Asks Request.Plain) (faded : s.board.Fades s'.board) : s'.Truthful := by
  rcases asks.runs run with ⟨said, e, plain⟩
  exact h.fades faded e plain

theorem silent (h : s.Truthful) (faded : s.board.Fades s'.board)
    (e : s'.exchanges = s.exchanges) : s'.Truthful := by
  have e' : s'.exchanges = s.exchanges ++ [] := by simpa using e
  exact h.fades faded e' fun _ member => absurd member List.not_mem_nil

theorem grows (h : s.Truthful) (grown : s.Grows s') : s'.Truthful :=
  h.silent grown.board.fades grown.exchanges

end Scene.Truthful

namespace Connection

variable {i : ConnectionRef} {v : Vitals} {s s' : Scene}

/-- What filters mark in a live map. -/
theorem get?_foldl_insert (active : Bool) (filters : List String) (live : KeyMap Bool)
    (filter : String) :
    (filters.foldl (fun live filter => live.insert filter active) live).get? filter =
      if filter ∈ filters then some active else live.get? filter := by
  induction filters generalizing live with
  | nil => simp
  | cons first rest ih =>
      rw [List.foldl_cons, ih]
      by_cases later : filter ∈ rest
      · simp [later]
      · by_cases same : first = filter
        · simp [same]
        · simp [later, same, Ne.symm same]

/-- The filters of a request that was granted are active now, and have been granted. -/
theorem truthful_subscribe {filters : List FilterRequest} {audience : Audience}
    {a : Except ConsoleError Unit} (h : s.Truthful) (hv : s.board.vitals[i]? = some v)
    (run : (subscribe i filters audience).Runs s a s') : s'.Truthful := by
  rcases subscribe_outcome hv run with same | ⟨session, codes, held, accepted, e, marked⟩
  · refine h.asks run (asks_subscribe fun _ _ => trivial) ?_
    rw [same]
    exact .refl _
  · have plain : ∀ x ∈ [(⟨.subscribe session filters, .ok codes⟩ : Exchange)],
        x.request.Plain := by
      intro x member
      rcases List.mem_singleton.1 member with rfl
      trivial
    constructor
    intro j w filter hw live
    rw [marked] at hw
    rcases Board.get?_put hw with ⟨rfl, rfl⟩ | ⟨-, before⟩
    · rw [get?_foldl_insert] at live
      refine ⟨session, held, ?_⟩
      split at live
      · next named =>
          have good : ∀ k code, k < filters.length → codes[k]? = some code → code ≤ 2 :=
            fun _ _ hk found => le_of_refusedFilters accepted hk found
          exact Scene.granted_last ⟨filters, codes, rfl, named, good⟩ e
      · -- A filter that the request does not name was granted before, over the same session.
        rcases h.granted hv live with ⟨session', held', granted⟩
        obtain rfl : session' = session := Option.some.inj (held'.symm.trans held)
        exact granted.later e fun x member => Exchange.not_revokes (plain x member)
    · rcases h.granted before live with ⟨session', held', granted⟩
      exact ⟨session', held', granted.later e fun x member => Exchange.not_revokes (plain x member)⟩

/-- The filters of a request to unsubscribe are not active any more, if it revoked them. -/
theorem truthful_unsubscribe {filters : List String} {audience : Audience}
    {a : Except ConsoleError Unit} (h : s.Truthful) (sound : s.board.Sound)
    (hv : s.board.vitals[i]? = some v) (run : (unsubscribe i filters audience).Runs s a s') :
    s'.Truthful := by
  rcases unsubscribe_outcome hv run with
    ⟨same, e | ⟨session, error, e⟩⟩ | ⟨session, held, e, marked⟩
  · refine h.silent ?_ e
    rw [same]
    exact .refl _
  · constructor
    intro j w filter hw live
    rw [same] at hw
    rcases h.granted hw live with ⟨session', held', granted⟩
    refine ⟨session', held', granted.later e ?_⟩
    -- A request that failed revokes nothing.
    rintro x member ⟨filters', rfl, -⟩
    cases List.mem_singleton.1 member
  · constructor
    intro j w filter hw live
    rw [marked] at hw
    rcases Board.get?_put hw with ⟨rfl, rfl⟩ | ⟨differs, before⟩
    · rw [get?_foldl_insert] at live
      split at live
      · cases live
      · next unnamed =>
          rcases h.granted hv live with ⟨session', held', granted⟩
          refine ⟨session', held', granted.later e ?_⟩
          rintro x member ⟨filters', rfl, named⟩
          cases List.mem_singleton.1 member
          exact unnamed named
    · rcases h.granted before live with ⟨session', held', granted⟩
      refine ⟨session', held', granted.later e ?_⟩
      -- The request went over the session of another connection.
      rintro x member ⟨filters', rfl, -⟩
      cases List.mem_singleton.1 member
      exact differs (sound.distinct before hv held' held)

theorem fades_forget {filter : String} (hv : s.board.vitals[i]? = some v) :
    s.board.Fades (s.apply (forget i filter)).board := by
  rw [Scene.board_apply, forget]
  split
  · rw [Console.board_present]
    rcases Console.board_get?_iff.1 hv with ⟨-, rfl⟩
    refine Board.fades_kept hv rfl rfl ?_
    intro other live
    change ((s.console.connection i).snapshot.live.erase filter).get? other = some true at live
    rw [KeyMap.get?_erase] at live
    split at live
    · cases live
    · exact live
  · exact .refl _

/-- A call of one connection leaves the truth. -/
theorem Call.truthful {call : Connection.Call} {result : call.Result} (h : s.Truthful)
    (sound : s.board.Sound) (hi : i < s.console.connections.length)
    (run : (call.program i).Runs s result s') : s'.Truthful := by
  have hv : s.board.vitals[i]? = some (s.console.connection i).vitals :=
    Console.board_get?_iff.2 ⟨hi, rfl⟩
  have reached := Connection.Call.reaches sound hi run
  cases call with
  | connect p token =>
      refine h.asks run (asks_connect (fun _ => trivial) fun _ => trivial) ?_
      rcases connect_outcome hv run with ⟨said, -, ⟨same, -⟩ | ⟨-, w, vitals, bare, -⟩⟩
      · rw [same]
        exact .refl _
      · exact Board.fades_bare bare vitals
  | disconnect =>
      refine h.asks run (asks_disconnect fun _ => trivial) (reached.fades ?_)
      exact List.cons_ne_nil _ _
  | destroy =>
      refine h.asks run (asks_destroy fun _ => trivial) (reached.fades ?_)
      have marks := destroyMarks_eq hv
      simp only [Label.marks, marks]
      split
      · exact List.cons_ne_nil _ _
      · exact List.cons_ne_nil _ _
  | publish d audience =>
      refine h.asks run (asks_publish fun _ _ _ _ => trivial) ?_
      rw [publish_runs run]
      exact .refl _
  | subscribe filters audience => exact truthful_subscribe h hv run
  | unsubscribe filters audience => exact truthful_unsubscribe h sound hv run
  | clear =>
      rcases runs_change_iff.1 run with rfl
      exact h.grows (.apply board_clear)
  | read =>
      rcases runs_change_iff.1 run with rfl
      exact h.grows (.apply board_read)
  | setRenderMode mode =>
      rcases runs_change_iff.1 run with rfl
      exact h.grows (.apply board_setRenderMode)
  | forget filter =>
      rcases runs_change_iff.1 run with rfl
      exact h.silent (fades_forget hv) rfl

/-- So does an event. -/
theorem truthful_react {session : SessionId} {event : TransportEvent} {u : Unit} (h : s.Truthful)
    (hv : s.board.vitals[i]? = some v) (alive : v.destroyed = false)
    (run : (react i session event).Runs s u s') : s'.Truthful := by
  refine h.asks run (asks_react (fun _ => trivial) fun _ _ => trivial) ?_
  have move := react_runs hv alive run
  cases owned : (s.console.connection i).owns session with
  | false =>
      rw [react_runs_of_not_owns owned run]
      exact .refl _
  | true =>
      cases event with
      | message packet =>
          rcases runs_change_iff.1 run with rfl
          rw [Scene.board_apply, board_onMessage]
          exact .refl _
      | reconnecting =>
          refine move.fades ?_
          simp only [Console.eventMarks, owned, if_true]
          split
          · exact List.cons_ne_nil _ _
          · exact List.cons_ne_nil _ _
      | connected | error | close | ended =>
          refine move.fades ?_
          simp [Console.eventMarks, owned]

end Connection

/-- A step leaves the truth. -/
theorem Step.truthful {s s' : Scene} {label : Label} (h : s.Truthful) (sound : s.board.Sound)
    (step : Step s label s') : s'.Truthful := by
  cases step with
  | call run =>
      rcases Console.Call.delegates sound run with
        ⟨m, grown, rfl | ⟨i, call, result, last, -, hi, inner, later⟩⟩
      · exact h.grows grown
      · have told := Connection.Call.truthful (h.grows grown) (sound.extends grown.board) hi inner
        exact told.grows later
  | direct hi run => exact Connection.Call.truthful h sound hi run
  | event member alive run =>
      obtain ⟨v, hv⟩ : ∃ v, s.board.vitals[_]? = some v :=
        ⟨_, List.getElem?_eq_getElem (sound.handlers _ member)⟩
      rcases Console.board_get?_iff.1 hv with ⟨-, rfl⟩
      exact Connection.truthful_react h hv alive run
  | outside incident => exact h.silent incident.extends.fades rfl

/-! ## Requests that were refused -/

/-- A transport that answers every request to subscribe with the same codes. -/
def Responder.coding (codes : List UInt8) : Responder := fun s r =>
  match r with
  | .subscribe _ _ => .ok codes
  | r => Responder.obliging s r

theorem Responder.fair_coding (codes : List UInt8) : (Responder.coding codes).Fair := by
  intro s r
  cases r with
  | «open» options => exact s.unused_not_mem
  | publish | subscribe | unsubscribe | close => trivial

/-- Whether the last request to subscribe a filter over a session was answered with a code for this
filter, at its position, that grants it. -/
def Scene.GrantedLast (s : Scene) (session : SessionId) (filter : String) : Prop :=
  ∃ (earlier : List Exchange) (filters : List FilterRequest) (codes : List UInt8)
      (later : List Exchange),
    s.exchanges = earlier ++ ⟨.subscribe session filters, .ok codes⟩ :: later ∧
      (∀ x ∈ later, ∀ filters', x.request = .subscribe session filters' →
        filter ∉ filters'.map (·.1)) ∧
      ∃ (k : Nat) (code : UInt8), filters[k]?.map (·.1) = some filter ∧ codes[k]? = some code ∧
        code ≤ 2

namespace Run

variable {settings : Settings} {catalog : Catalog} {storage : ProfileStorage}
  {fresh : Nat → ConnectionId} {clock : Int} {transitions : List Transition} {s : Scene}

theorem truthful (run : Run (.start settings catalog storage fresh clock) transitions s) :
    s.Truthful := by
  induction run with
  | start =>
      have blank : Board.blank.Fades (Scene.start settings catalog storage fresh clock).board :=
        (Scene.extends_start _ _ _ _ _).fades
      constructor
      intro i v filter hv live
      rcases blank.before hv live with ⟨_, none, -⟩
      simp [Board.blank] at none
  | step previous step ih => exact step.truthful ih previous.sound

/-- After every run, a filter is active only if the broker granted it over the session that the
connection holds, by codes of which none refuses a filter of the request, and if it was not given
back over that session since. -/
theorem granted_of_active (run : Run (.start settings catalog storage fresh clock) transitions s)
    {i : ConnectionRef} {filter : String}
    (active : (s.console.connection i).snapshot.live.get? filter = some true) :
    ∃ session, (s.console.connection i).session = some session ∧ s.Granted session filter := by
  by_cases hi : i < s.console.connections.length
  · exact run.truthful.granted (Console.board_get?_iff.2 ⟨hi, rfl⟩) active
  · -- A reference to no connection shows an initial one.
    have unknown : s.console.connection i = default := by
      simp [Console.connection, hi]
    rw [unknown] at active
    cases active

/-- A run in which a filter is granted, and a second request for it refused. -/
theorem refused_again :
    ∃ transitions s, Run .blank transitions s ∧
      (s.console.connection 0).snapshot.live.get? "t" = some true ∧
      (s.console.connection 0).session = some 0 ∧
      ∃ e, s.exchanges = [e, ⟨.subscribe 0 [("t", .default)], .ok [0]⟩,
        ⟨.subscribe 0 [("t", .default)], .ok [128]⟩] := by
  have playable : Scene.blank.Playable .obliging [.call (.getOrCreate ⟨0⟩ (some default)),
      .direct 0 (.connect default none), .event 0 0 .connected,
      .direct 0 (.subscribe [("t", .default)] .operator)] := by decide
  have granted := Run.play Responder.fair_obliging .start playable
  have playable' : (Scene.play .obliging .blank [.call (.getOrCreate ⟨0⟩ (some default)),
      .direct 0 (.connect default none), .event 0 0 .connected,
      .direct 0 (.subscribe [("t", .default)] .operator)]).2.Playable (.coding [128])
      [.direct 0 (.subscribe [("t", .default)] .operator)] := by decide
  have refused := Run.play (Responder.fair_coding [128]) granted playable'
  exact ⟨_, _, refused, by decide, by decide, _, rfl⟩

/-- The request that was refused is not the one by which the filter is active. -/
theorem active_after_refusal :
    ∃ transitions s, Run .blank transitions s ∧
      (s.console.connection 0).snapshot.live.get? "t" = some true ∧
      ¬ ∃ session, (s.console.connection 0).session = some session ∧
        s.GrantedLast session "t" := by
  rcases refused_again with ⟨transitions, s, run, active, own, e, log⟩
  refine ⟨transitions, s, run, active, ?_⟩
  rintro ⟨session, held, earlier, filters, codes, later, split, last, k, code, named, found, le⟩
  obtain rfl : session = 0 := Option.some.inj (held.symm.trans own)
  rw [log] at split
  -- The last exchange names the filter, so it is the one in question, and its code refuses.
  have latest : (⟨.subscribe 0 [("t", .default)], .ok [128]⟩ : Exchange) ∉ later :=
    fun member => last _ member _ rfl (by decide)
  rcases earlier with _ | ⟨_, _ | ⟨_, _ | ⟨_, rest⟩⟩⟩
  · rw [← (List.cons.inj split).2] at latest
    exact latest (List.mem_cons_of_mem _ List.mem_cons_self)
  · rw [← (List.cons.inj (List.cons.inj split).2).2] at latest
    exact latest List.mem_cons_self
  · cases (List.cons.inj (List.cons.inj (List.cons.inj split).2).2).1
    cases k with
    | zero =>
        cases found
        exact absurd le (by decide)
    | succ k => cases found
  · cases rest <;> cases (List.cons.inj (List.cons.inj (List.cons.inj split).2).2).2

/-- A filter stays active, as granted over session `0`, when a second request for it is refused. -/
theorem granted_of_active_after_refusal :
    ∃ transitions s, Run .blank transitions s ∧
      (s.console.connection 0).snapshot.live.get? "t" = some true ∧
      ∃ session, (s.console.connection 0).session = some session ∧ s.Granted session "t" := by
  rcases refused_again with ⟨transitions, s, run, active, -⟩
  exact ⟨transitions, s, run, active, Run.granted_of_active run active⟩

end Run

end DeviceConsole
