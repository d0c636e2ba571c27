import DeviceConsole.Proofs.Coherence.Register

/-!
# Errands

Profiles, connections and the focus change in separate steps, so in between they do not fit.  A call
that is halfway has a duty to put that right.  This file defines:

* `Duty`, what a call has left to put right;
* `Errand`, the ids that a call is about, and `Errand.Agrees`, what other calls leave alone;
* `Errand.Move`, the changes of a register that a call makes, with its duty before and after;
* `Operation.Follows`: every step of an operation is such a move, if others leave alone what the
  errand names.
-/

namespace DeviceConsole

/-- What a call has left to do before the register fits again. -/
inductive Duty where
  | none
  /-- The connection of an id has to get the profile. -/
  | align (id : ConnectionId)
  /-- The profile of an id was removed, so its connection has to be destroyed; whether the focus was
  moved already. -/
  | evict (id : ConnectionId) (moved : Bool)
  /-- A connection was taken out of use and has to be destroyed. -/
  | discard (i : ConnectionRef)
  deriving DecidableEq

def Duty.moved : Duty → Duty
  | evict id _ => evict id true
  | d => d

/-- The ids that a call reads or changes, and the one whose profile it removes. -/
structure Errand where
  names : List ConnectionId
  removes : Option ConnectionId

/-! ## Between the steps of a call -/

namespace Register

/-- Whether a card stands at a place, with an id. -/
def Has (R : Register) (i : ConnectionRef) (id : ConnectionId) : Prop :=
  ∃ card, R.cards[i]? = some card ∧ card.id = id

/-- Whether every card of one register is in the other one, with the same id. -/
def Within (R R' : Register) : Prop := ∀ {i id}, R.Has i id → R'.Has i id

theorem within_refl (R : Register) : R.Within R := fun h => h

theorem within_create {R : Register} (p : Profile) : R.Within (R.create p) := by
  rintro i id ⟨card, found, same⟩
  rcases List.getElem?_eq_some_iff.1 found with ⟨hi, -⟩
  exact ⟨card, by rw [create, List.getElem?_append_left hi, found], same⟩

theorem within_modify {R : Register} {i : ConnectionRef} {f : Card → Card}
    (keeps : ∀ card, (f card).id = card.id) : R.Within (R.modify i f) := by
  rintro j id ⟨card, found, rfl⟩
  by_cases same : i = j
  · exact ⟨f card, by simp [get?_modify, same, found], keeps card⟩
  · exact ⟨card, by simp [get?_modify, same, found], rfl⟩

end Register

namespace Errand

variable {e : Errand} {d : Duty} {seen R R' : Register} {id : ConnectionId} {i : ConnectionRef}

/-- Whether a register is as it was seen, as far as an errand depends on it. -/
structure Agrees (e : Errand) (seen R : Register) : Prop where
  profile? : ∀ id ∈ e.names, R.profile? id = seen.profile? id
  within : seen.Within R

theorem Agrees.refl (e : Errand) (R : Register) : e.Agrees R R := ⟨fun _ _ => rfl, R.within_refl⟩

theorem Agrees.trans {R'' : Register} (first : e.Agrees R R') (second : e.Agrees R' R'') :
    e.Agrees R R'' where
  profile? := by
    intro id named
    exact (second.profile? id named).trans (first.profile? id named)
  within h := second.within (first.within h)

/-- What a call may rely on before each of its steps. -/
structure Relies (e : Errand) (d : Duty) (seen R : Register) : Prop where
  tidy : R.Tidy
  agrees : e.Agrees seen R
  housed : ∀ {id i}, id ∈ e.names → (id, i) ∈ R.current →
    (R.profile? id).isSome ∨ ∃ moved, d = .evict id moved

/-! ## Moves -/

/-- What a step of a call may do to the register, and to the duty of the call. -/
inductive Move (e : Errand) : Duty → Register → Duty → Register → Prop where
  | keep {d : Duty} {R : Register} : Move e d R d R
  /-- A profile gets a connection. -/
  | create {d : Duty} {R : Register} {p : Profile} :
      R.profile? p.id = some p → (∀ i, (p.id, i) ∉ R.current) → Move e d R d (R.create p)
  /-- A connection gets its profile. -/
  | equip {d : Duty} {R : Register} {i : ConnectionRef} {p : Profile} :
      R.Has i p.id → R.profile? p.id = some p →
      Move e d R d (R.modify i (Card.rewrite p))
  /-- A connection is changed before its profile is. -/
  | scribble {R : Register} {i : ConnectionRef} {id : ConnectionId} {f : Card → Card} :
      R.Has i id → (∀ card, (f card).id = card.id ∧ (f card).destroyed = card.destroyed) →
      Move e .none R (.align id) (R.modify i f)
  /-- A profile is changed. -/
  | edit {d : Duty} {R : Register} {id : ConnectionId} {change : Profile → Profile} :
      d = .none ∨ d = .align id → (∀ p, p.id = id → (change p).id = id) →
      Move e d R (.align id) (R.withProfiles (Console.replaceFirst id change R.profiles))
  /-- The connection in use gets the profile. -/
  | settle {R : Register} {i : ConnectionRef} {p : Profile} :
      R.profile? p.id = some p → (p.id, i) ∈ R.current →
      Move e (.align p.id) R .none (R.modify i (Card.rewrite p))
  /-- No connection is in use that would need the profile. -/
  | spare {R : Register} {id : ConnectionId} :
      (∀ i, (id, i) ∉ R.current) → Move e (.align id) R .none R
  /-- A profile is added. -/
  | insert {R : Register} {p : Profile} :
      R.profile? p.id = none → (∀ i, (p.id, i) ∉ R.current) →
      Move e .none R .none (R.withProfiles (R.profiles ++ [p]))
  /-- A profile is removed. -/
  | drop {R : Register} {id : ConnectionId} :
      e.removes = some id → (R.profile? id).isSome →
      Move e .none R (.evict id false)
        (R.withProfiles (Console.removeFirst id R.profiles))
  /-- The focus moves to a profile, or away from all. -/
  | focus {d : Duty} {R : Register} {target : Option ConnectionId} :
      (∀ id, target = some id → (R.profile? id).isSome) → Move e d R d.moved (R.withFocus target)
  /-- A connection is taken out of use. -/
  | retire {d : Duty} {R : Register} {id : ConnectionId} {i : ConnectionRef} :
      d = .none ∨ d = .evict id true → (id, i) ∈ R.current →
      Move e d R (.discard i) (R.retire id)
  /-- No connection is in use that would have to be destroyed. -/
  | vacant {R : Register} {id : ConnectionId} :
      (∀ i, (id, i) ∉ R.current) → Move e (.evict id true) R .none R
  /-- A connection is marked as destroyed. -/
  | mark {R : Register} {i : ConnectionRef} :
      Move e (.discard i) R .none (R.modify i Card.strike)

theorem Move.of_keeps {c c' : Console} (keeps : c.Keeps c') :
    e.Move d c.register d c'.register := by
  have same : c'.register = c.register := keeps
  rw [same]
  exact .keep

/-- A move leaves every card at its place. -/
theorem Move.within {d' : Duty} (move : e.Move d R d' R') : R.Within R' := by
  cases move with
  | keep | spare | vacant => exact R.within_refl
  | edit | insert | drop | focus | retire => exact fun h => h
  | create => exact R.within_create _
  | equip | settle => exact R.within_modify (f := Card.rewrite _) fun _ => rfl
  | mark => exact R.within_modify (f := Card.strike) fun _ => rfl
  | scribble _ keeps => exact R.within_modify fun card => (keeps card).1

end Errand

/-! ## Operations that follow an errand -/

namespace Operation

variable {α β : Type} {e : Errand} {d : Duty} {seen : Register}
  {Q : α → Register → Duty → Prop}

/-- Whether every step of an operation is a move of an errand, from a register as it was seen last
and with a duty.  The last argument says what results and duties may come out. -/
def Follows (e : Errand) (Q : α → Register → Duty → Prop) :
    Operation α → Register → Duty → Prop
  | .done a, seen, d => Q a seen d
  | .step change next, seen, d => ∀ c : Console, e.Relies d seen c.register →
      ∃ d', e.Move d c.register d' (change c).register ∧
        Follows e Q (next c) (change c).register d'
  | .request _ next, seen, d => ∀ reply, Follows e Q (next reply) seen d

theorem Follows.mono {p : Operation α} {Q' : α → Register → Duty → Prop}
    (h : p.Follows e Q seen d) (implies : ∀ a R d, Q a R d → Q' a R d) :
    p.Follows e Q' seen d := by
  induction p generalizing seen d with
  | done a => exact implies _ _ _ h
  | step change next ih =>
      intro c relies
      rcases h c relies with ⟨d', move, later⟩
      exact ⟨d', move, ih c later⟩
  | request r next ih =>
      intro reply
      exact ih reply (h reply)

theorem follows_bind {p : Operation α} {f : α → Operation β}
    {Q' : β → Register → Duty → Prop} (first : p.Follows e Q seen d)
    (rest : ∀ a R d, Q a R d → (f a).Follows e Q' R d) :
    Follows e Q' (p.bind f) seen d := by
  induction p generalizing seen d with
  | done a => exact rest _ _ _ first
  | step change next ih =>
      intro c relies
      rcases first c relies with ⟨d', move, later⟩
      exact ⟨d', move, ih c later⟩
  | request r next ih =>
      intro reply
      exact ih reply (first reply)

/-- An operation that keeps the register has no duty of its own. -/
theorem follows_of_every {p : Operation α} (h : p.Every Console.Keeps)
    (returns : ∀ a R, e.Agrees seen R → Q a R d) : p.Follows e Q seen d := by
  induction p generalizing seen with
  | done a => exact returns a seen (.refl e seen)
  | step change next ih =>
      intro c relies
      refine ⟨d, .of_keeps (h c).1, ih c (h c).2 ?_⟩
      intro a R agrees
      have same : (change c).register = c.register := (h c).1
      rw [same] at agrees
      exact returns a R (relies.agrees.trans agrees)
  | request r next ih =>
      intro reply
      exact ih reply (h reply) returns

/-! ### Step by step -/

variable {Q' : β → Register → Duty → Prop}

theorem follows_atomically_bind {act : Console → α × Console} {f : α → Operation β}
    (h : ∀ c : Console, e.Relies d seen c.register →
      ∃ d', e.Move d c.register d' (act c).2.register ∧
        (f (act c).1).Follows e Q' (act c).2.register d') :
    Follows e Q' ((Program.atomically act).bind f) seen d := h

theorem follows_atomically_bind_of_keeps {act : Console → α × Console} {f : α → Operation β}
    (keeps : ∀ c, Console.Keeps c (act c).2)
    (h : ∀ c : Console, e.Relies d seen c.register →
      (f (act c).1).Follows e Q' c.register d) :
    Follows e Q' ((Program.atomically act).bind f) seen d := by
  intro c relies
  refine ⟨d, .of_keeps (keeps c), ?_⟩
  have same : (act c).2.register = c.register := keeps c
  have later := h c relies
  rw [← same] at later
  exact later

theorem follows_look_bind {view : Console → α} {f : α → Operation β}
    (h : ∀ c : Console, e.Relies d seen c.register →
      (f (view c)).Follows e Q' c.register d) :
    Follows e Q' ((Program.look view).bind f) seen d := by
  intro c relies
  exact ⟨d, .keep, h c relies⟩

theorem follows_change_bind {update : Console → Console} {f : Unit → Operation β}
    (h : ∀ c : Console, e.Relies d seen c.register →
      ∃ d', e.Move d c.register d' (update c).register ∧
        (f ()).Follows e Q' (update c).register d') :
    Follows e Q' ((Program.change update).bind f) seen d := h

theorem follows_change_bind_of_keeps {update : Console → Console} {f : Unit → Operation β}
    (keeps : ∀ c, Console.Keeps c (update c))
    (h : ∀ c : Console, e.Relies d seen c.register → (f ()).Follows e Q' c.register d) :
    Follows e Q' ((Program.change update).bind f) seen d := by
  have step : Follows e Q' ((Program.atomically fun c => ((), update c)).bind f) seen d :=
    follows_atomically_bind_of_keeps keeps h
  exact step

theorem follows_ask_bind {r : Request} {f : r.Reply → Operation β}
    (h : ∀ reply, (f reply).Follows e Q' seen d) :
    Follows e Q' ((Operation.ask r).bind f) seen d := h

/-! ### The first step -/

/-- Whether an operation follows an errand from a console on which it begins.  Unlike later steps,
the first one is taken right there. -/
def Begins (e : Errand) (Q : α → Register → Duty → Prop) : Operation α → Console → Prop
  | .done a, c => Q a c.register .none
  | .step change next, c =>
    ∃ d', e.Move .none c.register d' (change c).register ∧
      Follows e Q (next c) (change c).register d'
  | .request r next, c => Follows e Q (.request r next) c.register .none

theorem Follows.begins {p : Operation α} {c : Console}
    (h : p.Follows e Q c.register .none)
    (relies : e.Relies .none c.register c.register) : p.Begins e Q c := by
  cases p with
  | done a => exact h
  | step change next => exact h c relies
  | request r next => exact h

end Operation

end DeviceConsole
