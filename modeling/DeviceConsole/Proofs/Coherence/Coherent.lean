import DeviceConsole.Proofs.Coherence.Account
import DeviceConsole.Proofs.Coherence.Calls
import DeviceConsole.Proofs.Session.Reachable

/-!
# Profiles and connections of a console belong together

A console that makes connections for its profiles only, one call after the other, never loses track
of them.  This file defines:

* `Console.Coherent`, that profiles, connections and the focus fit, as they can be seen;
* `Transition.Admitted`, the steps that are calls of the console, or no calls;
* `Run.coherent`: a console is coherent after every run of such steps.
-/

namespace DeviceConsole

/-! ## Coherence -/

/-- Whether profiles, connections and the focus of a console fit. -/
structure Console.Coherent (c : Console) : Prop where
  ids : (c.profiles.map (·.id)).Nodup
  /-- A connection in use stands under its own id, lives, and has the profile of that id. -/
  used : ∀ {id i}, c.current? id = some i → i < c.connections.length ∧
    (c.connection i).id = id ∧ (c.connection i).destroyed = false ∧
    c.profile? id = some (c.connection i).profile
  /-- There are no other connections that live. -/
  alive : ∀ {i}, i < c.connections.length → (c.connection i).destroyed = false →
    c.current? (c.connection i).id = some i
  /-- Without its profile, a connection was destroyed. -/
  removed : ∀ {i}, i < c.connections.length → c.profile? (c.connection i).id = none →
    (c.connection i).destroyed = true
  focused : c.focus = none ∨ ∃ p ∈ c.profiles, c.focus = some p.id
  /-- Snapshots come in the order of the profiles, one for each connection in use. -/
  listed : c.snapshots.map (·.1) = (c.profiles.map (·.id)).filter fun id => (c.current? id).isSome
  shown : ∀ {id snapshot}, (id, snapshot) ∈ c.snapshots ↔
    ∃ i, c.current? id = some i ∧ snapshot = (c.connection i).snapshot

/-- Whether a register fits: nothing is owed. -/
def Register.Fits (R : Register) : Prop := R.Accounted fun d => d = .none

namespace Console

variable {c : Console}

theorem map_fst_snapshots (c : Console) : c.snapshots.map (·.1) =
    (c.profiles.map (·.id)).filter fun id => (c.current? id).isSome := by
  unfold snapshots
  induction c.profiles with
  | nil => rfl
  | cons p rest ih => cases used : c.current? p.id <;> simpa [used] using ih

/-- A console is coherent if its register fits. -/
theorem coherent_of_fits (fits : c.register.Fits) : c.Coherent := by
  have known : ∀ {id}, (c.profile? id).isSome → ∃ p ∈ c.profiles, p.id = id := by
    intro id known
    exact (Register.profile?_isSome_iff (R := c.register)).1 known
  have used : ∀ {id i}, c.current? id = some i → i < c.connections.length ∧
      (c.connection i).id = id ∧ (c.connection i).destroyed = false ∧
      c.profile? id = some (c.connection i).profile := by
    intro id i used
    have member := mem_current_of_current? used
    rcases fits.tidy.entry member with ⟨card, found, same, alive⟩
    rcases get?_register.1 found with ⟨hi, rfl⟩
    refine ⟨hi, same, alive, ?_⟩
    rcases fits.housed member with housed | ⟨moved, owed⟩
    · rcases Option.isSome_iff_exists.1 housed with ⟨p, asked⟩
      rcases fits.aligned member found asked with aligned | owed
      · exact asked.trans (congrArg some aligned.symm)
      · cases owed
    · cases owed
  have alive : ∀ {i}, i < c.connections.length → (c.connection i).destroyed = false →
      c.current? (c.connection i).id = some i := by
    intro i hi alive
    rcases fits.used (get?_register.2 ⟨hi, rfl⟩) alive with member | owed
    · exact (current?_eq_some_iff fits.tidy.keys).2 member
    · cases owed
  refine ⟨fits.tidy.ids, used, alive, ?_, ?_, c.map_fst_snapshots, ?_⟩
  · intro i hi unknown
    cases flag : (c.connection i).destroyed with
    | true => rfl
    | false =>
        rw [(used (alive hi flag)).2.2.2] at unknown
        cases unknown
  · cases focus : c.focus with
    | none => exact Or.inl rfl
    | some id =>
        right
        rcases fits.focused focus with asked | owed
        · rcases known asked with ⟨p, member, rfl⟩
          exact ⟨p, member, rfl⟩
        · cases owed
  · intro id snapshot
    simp only [snapshots, List.mem_filterMap, Option.map_eq_some_iff, Prod.mk.injEq]
    constructor
    · rintro ⟨p, -, i, found, rfl, rfl⟩
      exact ⟨i, found, rfl⟩
    · rintro ⟨i, found, rfl⟩
      rcases known (Option.isSome_of_eq_some (used found).2.2.2) with ⟨p, member, rfl⟩
      exact ⟨p, member, i, found, rfl, rfl⟩

/-- A console is not coherent if a connection in use has another profile than its id. -/
theorem not_coherent (id : ConnectionId) (i : ConnectionRef) (used : c.current? id = some i)
    (differs : c.profile? id ≠ some (c.connection i).profile) : ¬ c.Coherent := by
  intro coherent
  exact differs (coherent.used used).2.2.2

/-! ## The beginning -/

theorem profile?_of_mem (distinct : (c.profiles.map (·.id)).Nodup) {p : Profile}
    (member : p ∈ c.profiles) : c.profile? p.id = some p := by
  have known : (c.register.profile? p.id).isSome := Register.profile?_isSome_iff.2 ⟨p, member, rfl⟩
  rcases Option.isSome_iff_exists.1 known with ⟨q, asked⟩
  have same : q.id = p.id := Register.id_of_profile? asked
  rw [← List.inj_on_of_nodup_map distinct (List.mem_of_find?_eq_some asked) member same]
  rw [same]
  exact asked

theorem profile?_ensure (p : Profile) (id : ConnectionId) :
    (c.ensure p).2.profile? id = c.profile? id := by
  rw [← profile?_register, register_ensure]
  split <;> rfl

theorem profile?_configure (p : Profile) (id : ConnectionId) :
    (c.configure p).profile? id = c.profile? id := by
  rw [← profile?_register, register_configure]
  split <;> rfl

/-- Making connections for profiles of the console keeps the register in order. -/
theorem fits_addAll {profiles : List Profile} (fits : c.register.Fits)
    (known : ∀ p ∈ profiles, c.profile? p.id = some p) : (c.addAll profiles).register.Fits := by
  induction profiles generalizing c with
  | nil => exact fits
  | cons p rest ih =>
      have asked := known p List.mem_cons_self
      have made : (c.ensure p).2.register.Fits := by
        rw [register_ensure]
        cases used : c.current? p.id with
        | some i => exact fits
        | none => exact fits.create asked (not_mem_current_of_current? used)
      have asked' := (profile?_ensure p p.id).trans asked
      have configured : ((c.ensure p).2.configure p).register.Fits := by
        rw [register_configure]
        cases used : (c.ensure p).2.current? p.id with
        | none => exact made
        | some i =>
            exact made.equip (has_of_current made.tidy (mem_current_of_current? used)) asked'
      refine ih configured ?_
      intro q member
      rw [profile?_configure, profile?_ensure]
      exact known q (List.mem_cons_of_mem _ member)

end Console

/-- A new console over stored profiles with distinct ids. -/
theorem Scene.fits_start (settings : Settings) (catalog : Catalog) (storage : ProfileStorage)
    (fresh : Nat → ConnectionId) (clock : Int)
    (distinct : ((storage.load fresh).map (·.id)).Nodup) :
    (Scene.start settings catalog storage fresh clock).console.register.Fits := by
  let profiles := storage.load fresh
  let empty : Console := ⟨settings, catalog, profiles, [], [], [], false,
    profiles.head?.map (·.id), storage, [], .ofCapacity settings.eventCapacity, clock⟩
  have known : ∀ p ∈ profiles, empty.profile? p.id = some p := by
    intro p member
    exact Console.profile?_of_mem distinct member
  have fits : empty.register.Fits := by
    refine ⟨⟨distinct, List.nodup_nil, nofun⟩, nofun, nofun, nofun, nofun, ?_⟩
    intro id focus
    rcases Option.map_eq_some_iff.1 focus with ⟨p, head, rfl⟩
    left
    rw [Console.profile?_register, known p (List.mem_of_mem_head? head)]
    rfl
  exact Console.fits_addAll fits known

/-! ## Complete calls -/

/-- What a call may rely on, if everything is accounted for and nobody else removes what it
names. -/
theorem Register.Accounted.relies {R seen : Register} {e : Errand} {d : Duty}
    {others : Duty → Prop} (account : R.Accounted (Owes d others)) (agrees : e.Agrees seen R)
    (spared : ∀ id ∈ e.names, ∀ moved, ¬ others (.evict id moved)) : e.Relies d seen R where
  tidy := account.tidy
  agrees := agrees
  housed := by
    intro id i named member
    rcases account.housed member with known | ⟨moved, owed | owed⟩
    · exact Or.inl known
    · exact Or.inr ⟨moved, owed.symm⟩
    · exact absurd owed (spared id named moved)

theorem Register.fits_iff {R : Register} :
    R.Fits ↔ R.Accounted (Register.Owes .none fun _ => False) := by
  have same : (Register.Owes .none fun _ => False) = fun d => d = .none := by
    funext d
    simp [Register.Owes]
  rw [same]
  rfl

/-- An operation that follows an errand, while nothing else happens, accounts for what it leaves. -/
theorem Operation.Follows.runs {α : Type} {e : Errand} {d : Duty} {seen : Register}
    {Q : α → Register → Duty → Prop} {p : Operation α} {s s' : Scene} {a : α}
    (follows : p.Follows e Q seen d) (run : p.Runs s a s')
    (account : s.console.register.Accounted (Register.Owes d fun _ => False))
    (agrees : e.Agrees seen s.console.register) :
    ∃ R d', Q a R d' ∧ s'.console.register.Accounted (Register.Owes d' fun _ => False) := by
  induction run generalizing seen d with
  | done a s => exact ⟨seen, d, follows, account⟩
  | @step change next s s' a rest ih =>
      have relies := account.relies agrees fun _ _ _ => id
      rcases follows s.console relies with ⟨d', move, later⟩
      exact ih later (account.move move) (.refl e _)
  | request permitted rest ih => exact ih (follows _) account agrees

theorem Operation.Begins.runs {α : Type} {e : Errand} {Q : α → Register → Duty → Prop}
    {p : Operation α} {s s' : Scene} {a : α} (begins : p.Begins e Q s.console)
    (run : p.Runs s a s') (fits : s.console.register.Fits) :
    ∃ R d', Q a R d' ∧ s'.console.register.Accounted (Register.Owes d' fun _ => False) := by
  have account := Register.fits_iff.1 fits
  cases p with
  | done a =>
      have follows : Follows e Q (.done a) s.console.register .none := begins
      exact follows.runs run account (.refl e _)
  | request r next =>
      have follows : Follows e Q (.request r next) s.console.register .none := begins
      exact follows.runs run account (.refl e _)
  | step change next =>
      rcases begins with ⟨d', move, later⟩
      exact later.runs (runs_step_iff.1 run) (account.move move) (.refl e _)

/-! ## Runs -/

/-- Whether a step is an admitted call of the console, or no call. -/
def Transition.Admitted (t : Transition) : Prop :=
  match t.label with
  | .call call _ => call.Admitted t.before.console
  | .direct _ _ _ => False
  | .event _ _ _ => True
  | .outside => True

instance : (t : Transition) → Decidable t.Admitted
  | ⟨before, .call call _, _⟩ => inferInstanceAs (Decidable (call.Admitted before.console))
  | ⟨_, .direct _ _ _, _⟩ => inferInstanceAs (Decidable False)
  | ⟨_, .event _ _ _, _⟩ | ⟨_, .outside, _⟩ => inferInstanceAs (Decidable True)

theorem Console.Outside.keeps {c c' : Console} (h : c.Outside c') : c.Keeps c' := by
  cases h <;> rfl

/-- A complete call leaves a register that fits. -/
theorem Step.fits {s s' : Scene} {label : Label} (step : Step s label s')
    (admitted : (⟨s, label, s'⟩ : Transition).Admitted) (fits : s.console.register.Fits) :
    s'.console.register.Fits := by
  cases step with
  | @call call _ _ result run =>
      have account := Register.fits_iff.1 fits
      have relies : (call.errand s.console).Relies .none s.console.register s.console.register :=
        account.relies (.refl _ _) fun _ _ _ => id
      rcases (call.begins admitted relies).runs run fits with ⟨R, d, rfl, after⟩
      exact Register.fits_iff.2 after
  | direct hi run => exact admitted.elim
  | event member alive run =>
      have keeps : s.console.Keeps s'.console :=
        Connection.keeps_react.runs run Console.Keeps.refl Console.Keeps.trans
      have same : s'.console.register = s.console.register := keeps
      rwa [same]
  | outside h =>
      have same := h.keeps
      rw [Console.Keeps] at same
      rwa [same]

namespace Run

variable {settings : Settings} {catalog : Catalog} {storage : ProfileStorage}
  {fresh : Nat → ConnectionId} {clock : Int} {transitions : List Transition} {s : Scene}

theorem fits (distinct : ((storage.load fresh).map (·.id)).Nodup)
    (run : Run (.start settings catalog storage fresh clock) transitions s)
    (admitted : ∀ t ∈ transitions, t.Admitted) : s.console.register.Fits := by
  induction run with
  | start => exact Scene.fits_start _ _ _ _ _ distinct
  | @step ts before s label previous step ih =>
      have earlier : ∀ t ∈ ts, t.Admitted := by
        intro t member
        exact admitted t (List.mem_append_left _ member)
      have last : (⟨before, label, s⟩ : Transition).Admitted := admitted _ (by simp)
      exact step.fits last (ih earlier)

/-- A console is coherent after every run of admitted steps, and shows which connections were
destroyed. -/
theorem coherent (distinct : ((storage.load fresh).map (·.id)).Nodup)
    (run : Run (.start settings catalog storage fresh clock) transitions s)
    (admitted : ∀ t ∈ transitions, t.Admitted) :
    s.console.Coherent ∧ ∀ i < s.console.connections.length,
      ((s.console.connection i).destroyed = true ↔
        (s.console.connection i).snapshot.status = .destroyed) := by
  refine ⟨Console.coherent_of_fits (run.fits distinct admitted), ?_⟩
  intro i hi
  have stands : s.board.vitals[i]? = some (s.console.connection i).vitals :=
    Console.board_get?_iff.2 ⟨hi, rfl⟩
  exact (run.sound.each stands).destroyed_iff.symm

/-- Two profiles are added; one of them is published for, the other one changed and removed, and the
connection of the first one is destroyed and made anew. -/
theorem coherent_after_publishing :
    ∃ transitions s, Run .blank transitions s ∧ (∀ t ∈ transitions, t.Admitted) ∧
      s.console.connections.length = 3 ∧ s.console.profiles.length = 1 ∧
      (s.console.connection 2).profile.publishDefaults.retain = true ∧ s.console.Coherent := by
  have playable : Scene.blank.Playable .obliging
      [.call (.add ⟨7⟩ (fun _ => "") { (Profile.default ⟨0⟩) with role := .server }),
        .call (.add ⟨8⟩ (fun _ => "") { (Profile.default ⟨0⟩) with role := .server }),
        .call (.connect ⟨7⟩ none), .event 0 0 .connected,
        .call (.publish ⟨7⟩ ⟨"t", "", .plaintext, .plain .atMostOnce true⟩ .caller),
        .call (.update { (Profile.default ⟨8⟩) with host := "other" }), .call (.select ⟨8⟩),
        .call (.remove ⟨8⟩), .call (.destroy ⟨7⟩), .call (.clear ⟨7⟩)] := by
    decide
  have run := Run.play Responder.fair_obliging .start playable
  have distinct : (((default : ProfileStorage).load fun _ => default).map (·.id)).Nodup := by decide
  have whole := Run.coherent distinct run (by decide)
  exact ⟨_, _, run, by decide, by decide, by decide, by decide, whole.1⟩

end Run

end DeviceConsole
