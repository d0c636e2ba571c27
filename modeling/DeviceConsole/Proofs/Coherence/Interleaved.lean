import Mathlib.Logic.Function.Basic
import DeviceConsole.Proofs.Coherence.Coherent
import DeviceConsole.Proofs.Overlap.Traffic

/-!
# Calls that overlap and stay coherent

While calls overlap, a call may act on a profile that it read before another call changed it.  If
that does not happen, the console is coherent as soon as every call returned.  This file defines:

* `Turn.Undisturbed`, the turns after which every other call still finds the profiles it names;
* `Traffic.Balanced`: each task follows its errand, and the register fits but for their duties;
* `Traffic.Moves`, that one task moves while the others stay as they are, which keeps the balance;
* `Traffic.Run.coherent_of_undisturbed`, and runs with a disturbance that end incoherent.
-/

namespace DeviceConsole

open Operation

/-! ## Turns -/

def Task.errand (t : Task) : Errand :=
  match t.action with
  | .call call => call.errand t.found
  | _ => ⟨[], none⟩

namespace Turn

/-- Whether a turn is an admitted call of the console that begins, or no call of a connection. -/
def Admitted (t : Turn) : Prop :=
  match t.tick with
  | .start (.call call) => call.Admitted t.before.scene.console
  | .start (.direct _ _) => False
  | _ => True

instance : (t : Turn) → Decidable t.Admitted
  | ⟨before, .start (.call call), _⟩ =>
    inferInstanceAs (Decidable (call.Admitted before.scene.console))
  | ⟨_, .start (.direct _ _), _⟩ => inferInstanceAs (Decidable False)
  | ⟨_, .start (.event _ _ _), _⟩ | ⟨_, .resume _, _⟩ | ⟨_, .reply _ _ _, _⟩
  | ⟨_, .outside, _⟩ => inferInstanceAs (Decidable True)

/-- The ids that the call that begins is about. -/
def begun (t : Turn) : List ConnectionId :=
  match t.tick with
  | .start (.call call) => (call.errand t.before.scene.console).names
  | _ => []

/-- Whether a turn leaves the other calls under way alone. -/
structure Undisturbed (t : Turn) : Prop where
  /-- The profiles that they name stay as they are. -/
  steady : ∀ entry ∈ t.before.tasks.zipIdx, entry.1.isOver = false → t.mover ≠ some entry.2 →
    ∀ id ∈ entry.1.errand.names,
      t.after.scene.console.profile? id = t.before.scene.console.profile? id
  /-- No call begins that is about a profile which one of them removes. -/
  clear : ∀ task ∈ t.before.tasks, task.isOver = false → ∀ id ∈ t.begun,
    task.errand.removes ≠ some id

instance (t : Turn) : Decidable t.Undisturbed :=
  decidable_of_iff
    ((∀ entry ∈ t.before.tasks.zipIdx, entry.1.isOver = false → t.mover ≠ some entry.2 →
      ∀ id ∈ entry.1.errand.names,
        t.after.scene.console.profile? id = t.before.scene.console.profile? id) ∧
      ∀ task ∈ t.before.tasks, task.isOver = false → ∀ id ∈ t.begun,
        task.errand.removes ≠ some id)
    ⟨fun h => ⟨h.1, h.2⟩, fun h => ⟨h.steady, h.clear⟩⟩

end Turn

/-! ## One turn of an operation -/

namespace Operation

variable {α : Type} {e : Errand} {d : Duty} {seen : Register} {Q : α → Register → Duty → Prop}
  {p : Operation α} {c : Console}

theorem Follows.go (h : p.Follows e Q seen d) (relies : e.Relies d seen c.register) :
    ∃ d' seen', e.Move d c.register d' (p.go .short c).2.register ∧
      e.Agrees seen' (p.go .short c).2.register ∧ (p.go .short c).1.Follows e Q seen' d' := by
  cases p with
  | done a => exact ⟨d, seen, .keep, relies.agrees, h⟩
  | step change next =>
      rcases h c relies with ⟨d', move, later⟩
      exact ⟨d', _, move, .refl e _, later⟩
  | request r next => exact ⟨d, seen, .keep, relies.agrees, h⟩

/-- Once an operation returned, nothing is left of its duty. -/
theorem Follows.settled (h : p.Follows e (fun _ _ d => d = .none) seen d)
    (returned : p.isOver = true) : d = .none := by
  cases p with
  | done a => exact h
  | step | request => cases returned

theorem Begins.go (h : p.Begins e Q c) :
    ∃ d' seen', e.Move .none c.register d' (p.go .short c).2.register ∧
      e.Agrees seen' (p.go .short c).2.register ∧ (p.go .short c).1.Follows e Q seen' d' := by
  cases p with
  | done a => exact ⟨.none, c.register, .keep, .refl e _, h⟩
  | step change next =>
      rcases h with ⟨d', move, later⟩
      exact ⟨d', _, move, .refl e _, later⟩
  | request r next => exact ⟨.none, c.register, .keep, .refl e _, h⟩

end Operation

/-- A call gets the duty to evict by removing the profile. -/
theorem Errand.Move.evict {e : Errand} {d : Duty} {R R' : Register} {id : ConnectionId}
    {moved : Bool} (move : e.Move d R (.evict id moved) R') (tidy : R.Tidy) :
    (∃ before, d = .evict id before) ∨
      (e.removes = some id ∧ R'.profile? id ≠ R.profile? id) := by
  generalize owed : Duty.evict id moved = d' at move
  cases move with
  | keep | create | equip => exact Or.inl ⟨moved, owed.symm⟩
  | @focus d R target known =>
      cases d with
      | evict other before =>
          cases owed
          exact Or.inl ⟨before, rfl⟩
      | none | align | discard => cases owed
  | drop removes known =>
      cases owed
      refine Or.inr ⟨removes, ?_⟩
      rw [Register.profile?_removeFirst tidy.ids, if_pos rfl]
      intro same
      rw [← same] at known
      cases known
  | scribble | edit | settle | spare | insert | retire | vacant | mark => cases owed

/-! ## Tasks and their duties -/

namespace Traffic

variable {T T' : Traffic} {seen : Nat → Register} {duty : Nat → Duty} {k : Nat}

/-- Whether the tasks follow their errands, with what each of them saw last and has to do yet, and
account for the register. -/
structure Balanced (T : Traffic) (seen : Nat → Register) (duty : Nat → Duty) : Prop where
  follows : ∀ {k} {task : Task}, T.tasks[k]? = some task →
    task.rest.Follows task.errand (fun _ _ d => d = .none) (seen k) (duty k)
  agrees : ∀ {k} {task : Task}, T.tasks[k]? = some task → task.isOver = false →
    task.errand.Agrees (seen k) T.scene.console.register
  /-- Only a removal evicts, and then no other call is about the same id. -/
  removes : ∀ {k id moved}, duty k = .evict id moved →
    ∃ task : Task, T.tasks[k]? = some task ∧ task.isOver = false ∧ task.errand.removes = some id
  alone : ∀ {k id moved}, duty k = .evict id moved → ∀ {j} {task : Task}, j ≠ k →
    T.tasks[j]? = some task → task.isOver = false → id ∉ task.errand.names
  idle : ∀ {k}, T.tasks.length ≤ k → duty k = .none
  account : T.scene.console.register.Accounted fun d => ∃ k, duty k = d

/-- What the tasks but one owe. -/
def Rest (duty : Nat → Duty) (k : Nat) (d : Duty) : Prop := ∃ j, j ≠ k ∧ duty j = d

theorem owes_rest (duty : Nat → Duty) (k : Nat) :
    (fun d => ∃ j, duty j = d) = Register.Owes (duty k) (Rest duty k) := by
  funext d
  apply propext
  constructor
  · rintro ⟨j, rfl⟩
    by_cases same : j = k
    · rw [same]
      exact Or.inl rfl
    · exact Or.inr ⟨j, same, rfl⟩
  · rintro (rfl | ⟨j, -, owed⟩)
    · exact ⟨k, rfl⟩
    · exact ⟨j, owed⟩

theorem rest_update (duty : Nat → Duty) (k : Nat) (d : Duty) :
    Rest (Function.update duty k d) k = Rest duty k := by
  funext x
  apply propext
  constructor
  · rintro ⟨j, differs, rfl⟩
    exact ⟨j, differs, (Function.update_of_ne differs d duty).symm⟩
  · rintro ⟨j, differs, rfl⟩
    exact ⟨j, differs, Function.update_of_ne differs d duty⟩

theorem Balanced.relies (h : T.Balanced seen duty) {e : Errand} {s : Register}
    (agrees : e.Agrees s T.scene.console.register)
    (spared : ∀ {j id moved}, j ≠ k → duty j = .evict id moved → id ∉ e.names) :
    e.Relies (duty k) s T.scene.console.register := by
  have account := h.account
  rw [owes_rest duty k] at account
  refine account.relies agrees ?_
  rintro id named moved ⟨j, differs, owed⟩
  exact spared differs owed named

/-- Whether one task moves, and the others stay as they are and still find their profiles. -/
structure Moves (T : Traffic) (k : Nat) (task : Task) (T' : Traffic) : Prop where
  moved : T'.tasks[k]? = some task
  others : ∀ {j}, j ≠ k → T'.tasks[j]? = T.tasks[j]?
  length : T.tasks.length ≤ T'.tasks.length
  steady : ∀ {j} {other : Task}, j ≠ k → T.tasks[j]? = some other → other.isOver = false →
    ∀ id ∈ other.errand.names, T'.scene.console.profile? id = T.scene.console.profile? id

theorem Moves.mover_or_other {task : Task} (h : T.Moves k task T') {j : Nat} {other : Task}
    (there : T'.tasks[j]? = some other) :
    (j = k ∧ other = task) ∨ (j ≠ k ∧ T.tasks[j]? = some other) := by
  by_cases same : j = k
  · rw [same, h.moved] at there
    exact Or.inl ⟨same, (Option.some.inj there).symm⟩
  · exact Or.inr ⟨same, (h.others same).symm.trans there⟩

/-- If the move of a task is one of its errand, then the balance is kept. -/
theorem Balanced.move (h : T.Balanced seen duty) {task : Task} {d : Duty} {s : Register}
    (moves : T.Moves k task T')
    (move : task.errand.Move (duty k) T.scene.console.register d T'.scene.console.register)
    (agrees : task.errand.Agrees s T'.scene.console.register)
    (follows : task.rest.Follows task.errand (fun _ _ d => d = .none) s d)
    (owns : ∀ {id before}, duty k = .evict id before → task.errand.removes = some id)
    (spared : ∀ {j id before}, j ≠ k → duty j = .evict id before → id ∉ task.errand.names) :
    T'.Balanced (Function.update seen k s) (Function.update duty k d) := by
  refine {
    follows := ?follows
    agrees := ?agrees
    removes := ?removes
    alone := ?alone
    idle := ?idle
    account := ?account }
  case follows =>
    intro j other there
    rcases moves.mover_or_other there with ⟨rfl, rfl⟩ | ⟨differs, there⟩
    · rwa [Function.update_self, Function.update_self]
    · rw [Function.update_of_ne differs, Function.update_of_ne differs]
      exact h.follows there
  case agrees =>
    intro j other there under
    rcases moves.mover_or_other there with ⟨rfl, rfl⟩ | ⟨differs, there⟩
    · rwa [Function.update_self]
    · rw [Function.update_of_ne differs]
      exact (h.agrees there under).trans ⟨moves.steady differs there under, move.within⟩
  case removes =>
    intro j id before owed
    by_cases same : j = k
    · subst same
      rw [Function.update_self] at owed
      subst owed
      refine ⟨task, moves.moved, ?_, ?_⟩
      · cases returned : task.isOver with
        | false => rfl
        | true => cases follows.settled returned
      · rcases move.evict h.account.tidy with ⟨earlier, owed⟩ | ⟨removes, -⟩
        · exact owns owed
        · exact removes
    · rw [Function.update_of_ne same] at owed
      rcases h.removes owed with ⟨other, there, rest⟩
      exact ⟨other, (moves.others same).trans there, rest⟩
  case alone =>
    intro j id before owed i other differs there under
    by_cases same : j = k
    · subst same
      rw [Function.update_self] at owed
      rw [moves.others differs] at there
      subst owed
      rcases move.evict h.account.tidy with ⟨earlier, owed⟩ | ⟨-, changed⟩
      · exact h.alone owed differs there under
      · -- The others still find their profiles, so that none of them names the removed one.
        intro named
        exact changed (moves.steady differs there under id named)
    · rw [Function.update_of_ne same] at owed
      rcases moves.mover_or_other there with ⟨rfl, rfl⟩ | ⟨-, there⟩
      · exact spared same owed
      · exact h.alone owed differs there under
  case idle =>
    intro j beyond
    have inside := (List.getElem?_eq_some_iff.1 moves.moved).1
    have differs : j ≠ k := by omega
    rw [Function.update_of_ne differs]
    exact h.idle (Nat.le_trans moves.length beyond)
  case account =>
    have account := h.account
    rw [owes_rest duty k] at account
    have after := account.move move
    rw [owes_rest (Function.update duty k d) k, Function.update_self, rest_update]
    exact after

/-- A task that is under way takes a turn. -/
theorem Balanced.advance (h : T.Balanced seen duty) {task : Task} {log : List Exchange}
    {p : Operation task.action.Result} (there : T.tasks[k]? = some task)
    (under : task.isOver = false)
    (follows : p.Follows task.errand (fun _ _ d => d = .none) (seen k) (duty k))
    (console : T'.scene.console = (p.go .short T.scene.console).2)
    (tasks : T'.tasks = T.tasks.set k
      { task with log := log, rest := (p.go .short T.scene.console).1 })
    (steady : ∀ {j} {other : Task}, j ≠ k → T.tasks[j]? = some other → other.isOver = false →
      ∀ id ∈ other.errand.names,
        T'.scene.console.profile? id = T.scene.console.profile? id) :
    ∃ seen' duty', T'.Balanced seen' duty' := by
  have inside := (List.getElem?_eq_some_iff.1 there).1
  have spared : ∀ {j id before}, j ≠ k → duty j = .evict id before → id ∉ task.errand.names := by
    intro j id before differs owed
    exact h.alone owed differs.symm there under
  have relies := h.relies (h.agrees there under) spared
  rcases follows.go relies with ⟨d, s, move, agrees, later⟩
  rw [← console] at move agrees
  have moves : T.Moves k { task with log := log, rest := (p.go .short T.scene.console).1 } T' := by
    refine ⟨?_, ?_, ?_, steady⟩
    · rw [tasks, List.getElem?_set_self inside]
    · intro j differs
      rw [tasks, List.getElem?_set_ne differs.symm]
    · exact Nat.le_of_eq (by rw [tasks, List.length_set])
  refine ⟨_, _, h.move moves move agrees later ?_ spared⟩
  intro id before owed
  rcases h.removes owed with ⟨other, found, -, removes⟩
  rw [there] at found
  cases found
  exact removes

/-- A task begins. -/
theorem Balanced.enter (h : T.Balanced seen duty) {a : Action} (enabled : a.Enabled T.scene)
    (admitted : (⟨T, .start a, T.enter .short a⟩ : Turn).Admitted)
    (undisturbed : (⟨T, .start a, T.enter .short a⟩ : Turn).Undisturbed)
    (steady : ∀ {j} {other : Task}, j ≠ T.tasks.length → T.tasks[j]? = some other →
      other.isOver = false → ∀ id ∈ other.errand.names,
        (T.enter .short a).scene.console.profile? id = T.scene.console.profile? id) :
    ∃ seen' duty', (T.enter .short a).Balanced seen' duty' := by
  have idle : duty T.tasks.length = .none := h.idle Nat.le.refl
  let task : Task := ⟨a, T.scene.console, [], (a.program.go .short T.scene.console).1⟩
  have spared : ∀ {j id before}, j ≠ T.tasks.length → duty j = .evict id before →
      id ∉ task.errand.names := by
    intro j id before differs owed named
    rcases h.removes owed with ⟨other, found, under, removes⟩
    -- What the new task names is what its call names where it begins.
    have begun : id ∈ (⟨T, .start a, T.enter .short a⟩ : Turn).begun := by
      cases a with
      | call call => exact named
      | direct | event => cases named
    exact undisturbed.clear other (List.mem_of_getElem? found) under id begun removes
  have relies : task.errand.Relies .none T.scene.console.register T.scene.console.register := by
    rw [← idle]
    exact h.relies (.refl _ _) spared
  have begins : a.program.Begins task.errand (fun _ _ d => d = .none) T.scene.console := by
    cases a with
    | call call => exact call.begins admitted relies
    | direct i call => exact admitted.elim
    | event i session event =>
        have follows : (Connection.react i session event).Follows task.errand
            (fun _ _ d => d = .none) T.scene.console.register .none :=
          follows_of_every Connection.keeps_react fun _ _ _ => rfl
        exact follows.begins relies
  rcases begins.go with ⟨d, s, move, agrees, later⟩
  rw [← idle] at move
  have moves : T.Moves T.tasks.length task (T.enter .short a) :=
    ⟨get?_enter_self T .short a, get?_enter_of_ne .short a, by simp [Traffic.enter], steady⟩
  refine ⟨_, _, h.move moves move agrees later ?_ spared⟩
  intro id before owed
  rw [idle] at owed
  cases owed

/-- Every admitted turn that disturbs no other call keeps the balance. -/
theorem Balanced.step (h : T.Balanced seen duty) {tick : Tick} (step : Step .short T tick T')
    (admitted : (⟨T, tick, T'⟩ : Turn).Admitted)
    (undisturbed : (⟨T, tick, T'⟩ : Turn).Undisturbed) :
    ∃ seen' duty', T'.Balanced seen' duty' := by
  have steady : ∀ {j} {other : Task}, (⟨T, tick, T'⟩ : Turn).mover ≠ some j →
      T.tasks[j]? = some other → other.isOver = false → ∀ id ∈ other.errand.names,
        T'.scene.console.profile? id = T.scene.console.profile? id := by
    intro j other differs there under
    exact undisturbed.steady (other, j) (List.mk_mem_zipIdx_iff_getElem?.2 there) under differs
  cases step with
  | start enabled =>
      refine h.enter enabled admitted undisturbed ?_
      intro j other differs
      exact steady fun same => differs (Option.some.inj same).symm
  | @resume k task change next there left =>
      have under : task.isOver = false := by
        rw [Task.isOver, left]
        rfl
      refine h.advance there under (h.follows there) rfl rfl ?_
      intro j other differs
      exact steady fun same => differs (Option.some.inj same).symm
  | @reply k task r reply next there left permitted =>
      have under : task.isOver = false := by
        rw [Task.isOver, left]
        rfl
      have follows := h.follows there
      rw [left] at follows
      refine h.advance there under (follows reply) rfl rfl ?_
      intro j other differs
      exact steady fun same => differs (Option.some.inj same).symm
  | @outside c outside =>
      refine ⟨seen, duty, h.follows, ?_, h.removes, h.alone, h.idle, ?_⟩
      · intro k task there under
        have same : c.register = T.scene.console.register := outside.keeps
        simp only
        rw [same]
        exact h.agrees there under
      · have same : c.register = T.scene.console.register := outside.keeps
        simp only
        rw [same]
        exact h.account

/-! ## Runs -/

theorem Balanced.fits (h : T.Balanced seen duty) (returned : ∀ task ∈ T.tasks, task.isOver = true) :
    T.scene.console.register.Fits := by
  have none : ∀ k, duty k = .none := by
    intro k
    cases there : T.tasks[k]? with
    | none => exact h.idle (List.getElem?_eq_none_iff.1 there)
    | some task => exact (h.follows there).settled (returned task (List.mem_of_getElem? there))
  have account := h.account
  have same : (fun d => ∃ k, duty k = d) = fun d => d = .none := by
    funext d
    simp [none, eq_comm]
  rwa [same] at account

theorem balanced_quiet {s : Scene} (fits : s.console.register.Fits) :
    (quiet s).Balanced (fun _ => s.console.register) (fun _ => .none) := by
  refine ⟨nofun, nofun, nofun, nofun, fun _ => rfl, ?_⟩
  have same : (fun d => ∃ _ : Nat, Duty.none = d) = fun d => d = .none := by
    funext d
    simp [eq_comm]
  rw [same]
  exact fits

theorem Run.balanced {start T : Traffic} {turns : List Turn} {seen : Nat → Register}
    {duty : Nat → Duty} (run : Run .short start turns T) (first : start.Balanced seen duty)
    (admitted : ∀ t ∈ turns, t.Admitted) (undisturbed : ∀ t ∈ turns, t.Undisturbed) :
    ∃ seen duty, T.Balanced seen duty := by
  induction run with
  | start => exact ⟨seen, duty, first⟩
  | @step turns T T' tick previous step ih =>
      have before : ∃ seen duty, T.Balanced seen duty := by
        refine ih ?_ ?_
        · intro t member
          exact admitted t (List.mem_append_left _ member)
        · intro t member
          exact undisturbed t (List.mem_append_left _ member)
      rcases before with ⟨seen, duty, balanced⟩
      exact balanced.step step (admitted _ (by simp)) (undisturbed _ (by simp))

variable {settings : Settings} {catalog : Catalog} {storage : ProfileStorage}
  {fresh : Nat → ConnectionId} {clock : Int} {turns : List Turn}

/-- If calls overlap and no turn disturbs another call, then the console is coherent as soon as all
of them returned. -/
theorem Run.coherent_of_undisturbed (distinct : ((storage.load fresh).map (·.id)).Nodup)
    (run : Run .short (.quiet (.start settings catalog storage fresh clock)) turns T)
    (admitted : ∀ t ∈ turns, t.Admitted) (undisturbed : ∀ t ∈ turns, t.Undisturbed)
    (returned : ∀ task ∈ T.tasks, task.isOver = true) : T.scene.console.Coherent := by
  have first := balanced_quiet (Scene.fits_start settings catalog storage fresh clock distinct)
  rcases run.balanced first admitted undisturbed with ⟨seen, duty, balanced⟩
  exact Console.coherent_of_fits (balanced.fits returned)

/-- One profile is removed, and the focus moves away from it, while another one connects. -/
theorem Run.coherent_of_undisturbed_removal :
    ∃ turns T, Run .short (.quiet .blank) turns T ∧ (∀ t ∈ turns, t.Admitted) ∧
      (∀ t ∈ turns, t.Undisturbed) ∧ (∀ task ∈ T.tasks, task.isOver = true) ∧
      T.scene.console.profiles.length = 1 ∧ T.scene.console.focus = some ⟨7⟩ ∧
      (T.connection 0).snapshot.status = .connecting ∧ (T.connection 1).destroyed = true ∧
      T.scene.console.Coherent := by
  have playable : (quiet .blank).Playable .short
      [.start (.call (.add ⟨7⟩ (fun _ => "") { (Profile.default ⟨0⟩) with role := .server })),
        .go 0, .go 0,
        .start (.call (.add ⟨8⟩ (fun _ => "") { (Profile.default ⟨0⟩) with role := .server })),
        .go 1, .go 1, .start (.call (.select ⟨8⟩)), .go 2, .go 2,
        .start (.call (.connect ⟨7⟩ none)), .go 3, .go 3, .go 3, .go 3, .go 3,
        .start (.call (.remove ⟨8⟩)), .go 4, .go 4, .go 3, .go 4, .go 4, .go 4, .go 4] := by
    decide
  have run := Run.play .start playable
  have distinct : (((default : ProfileStorage).load fun _ => default).map (·.id)).Nodup := by decide
  have coherent := Run.coherent_of_undisturbed distinct run (by decide) (by decide) (by decide)
  exact ⟨_, _, run, by decide, by decide, by decide, by decide, by decide, by decide, by decide,
    coherent⟩

/-- A connect call goes on with the profile that it read before it closed the old session, though
the profile was changed meanwhile; and a connection is made for a profile that is being removed. -/
theorem Run.incoherent_after_overlap :
    (∃ turns T, Run .short (.quiet .blank) turns T ∧ (∀ t ∈ turns, t.Admitted) ∧
      (∀ task ∈ T.tasks, task.isOver = true) ∧
      (T.scene.console.profile? ⟨7⟩).map (·.host) = some "other" ∧
      T.scene.console.current? ⟨7⟩ = some 0 ∧ (T.connection 0).profile.host = "localhost" ∧
      ¬ T.scene.console.Coherent) ∧
    (∃ turns T, Run .short (.quiet .blank) turns T ∧ (∀ t ∈ turns, t.Admitted) ∧
      (∀ task ∈ T.tasks, task.isOver = true) ∧ T.scene.console.profiles = [] ∧
      T.scene.console.current? ⟨7⟩ = some 1 ∧ T.scene.console.focus = some ⟨7⟩ ∧
      ¬ T.scene.console.Coherent) := by
  constructor
  · have playable : (quiet .blank).Playable .short
        [.start (.call (.add ⟨7⟩ (fun _ => "") { (Profile.default ⟨0⟩) with role := .server })),
          .go 0, .go 0, .start (.call (.connect ⟨7⟩ none)), .go 1, .go 1, .go 1, .go 1, .go 1,
          .go 1, .start (.event 0 0 .connected),
          .start (.call (.connect ⟨7⟩ none)), .go 3, .go 3, .go 3, .go 3,
          .start (.call (.update { (Profile.default ⟨7⟩) with
            role := .server, host := "other" })), .go 4, .go 3, .go 3, .go 3] := by
      decide
    have run := Run.play .start playable
    exact ⟨_, _, run, by decide, by decide, by decide, by decide, by decide,
      Console.not_coherent ⟨7⟩ 0 (by decide) (by decide)⟩
  · have playable : (quiet .blank).Playable .short
        [.start (.call (.add ⟨7⟩ (fun _ => "") { (Profile.default ⟨0⟩) with role := .server })),
          .go 0, .go 0, .start (.call (.select ⟨7⟩)), .start (.call (.remove ⟨7⟩)), .go 2, .go 2,
          .go 2, .go 2, .go 1, .go 1, .go 1] := by
      decide
    have run := Run.play .start playable
    exact ⟨_, _, run, by decide, by decide, by decide, by decide, by decide,
      Console.not_coherent ⟨7⟩ 1 (by decide) (by decide)⟩

end Traffic

end DeviceConsole
