import Mathlib.Data.List.Nodup
import DeviceConsole.Proofs.Footprint

/-!
# The register of a console

Profiles and connections belong together: who has which profile, who is in use for it, and where the
focus is.  This file defines:

* `Card` and `Register`, the part of a connection and of a console that this depends on;
* `Register.Tidy`, what holds of a register at any time;
* `Console.Keeps`, the changes that leave the register as it is, which most small changes do.
-/

namespace DeviceConsole

/-! ## Registers -/

/-- The part of a connection that ties it to a profile. -/
structure Card where
  id : ConnectionId
  profile : Profile
  destroyed : Bool

namespace Card

def rewrite (p : Profile) (card : Card) : Card := { card with profile := p }

def strike (card : Card) : Card := { card with destroyed := true }

/-- The part of a card on which the use of the connection depends. -/
def use (card : Card) : ConnectionId × Bool := (card.id, card.destroyed)

end Card

def Connection.card (c : Connection) : Card := ⟨c.id, c.profile, c.destroyed⟩

/-- The part of a console that ties profiles and connections together. -/
structure Register where
  profiles : List Profile
  cards : List Card
  current : List (ConnectionId × ConnectionRef)
  focus : Option ConnectionId

def Console.register (c : Console) : Register :=
  ⟨c.profiles, c.connections.map Connection.card, c.current, c.focus⟩

namespace Register

variable {R : Register} {i j : ConnectionRef} {id : ConnectionId} {f : Card → Card}

def profile? (R : Register) (id : ConnectionId) : Option Profile :=
  R.profiles.find? fun p => p.id = id

def modify (R : Register) (i : ConnectionRef) (f : Card → Card) : Register :=
  { R with cards := R.cards.modify i f }

/-- Makes a card for a profile, which is in use from then on. -/
def create (R : Register) (p : Profile) : Register :=
  { R with
    cards := R.cards ++ [⟨p.id, p, false⟩]
    current := R.current ++ [(p.id, R.cards.length)] }

def retire (R : Register) (id : ConnectionId) : Register :=
  { R with current := R.current.filter (·.1 ≠ id) }

def withProfiles (R : Register) (profiles : List Profile) : Register :=
  { R with profiles := profiles }

def withFocus (R : Register) (focus : Option ConnectionId) : Register := { R with focus := focus }

@[simp] theorem profile?_modify : (R.modify i f).profile? id = R.profile? id := rfl

@[simp] theorem profile?_create (p : Profile) : (R.create p).profile? id = R.profile? id := rfl

@[simp] theorem profile?_retire (other : ConnectionId) :
    (R.retire other).profile? id = R.profile? id := rfl

@[simp] theorem profile?_withFocus (focus : Option ConnectionId) :
    (R.withFocus focus).profile? id = R.profile? id := rfl

theorem id_of_profile? {p : Profile} (h : R.profile? id = some p) : p.id = id := by
  simpa using List.find?_some h

theorem get?_modify : (R.modify i f).cards[j]? =
    if i = j then R.cards[j]?.map f else R.cards[j]? := by
  by_cases same : i = j <;> simp [modify, same]

theorem profile?_isSome_iff : (R.profile? id).isSome ↔ ∃ p ∈ R.profiles, p.id = id := by
  simp [profile?]

/-! ### Profiles that change -/

theorem map_id_replaceFirst {change : Profile → Profile} {profiles : List Profile}
    (keeps : ∀ p, p.id = id → (change p).id = id) :
    (Console.replaceFirst id change profiles).map (·.id) = profiles.map (·.id) := by
  induction profiles with
  | nil => rfl
  | cons p rest ih =>
      by_cases same : p.id = id
      · simp [Console.replaceFirst, same, keeps p same]
      · simp [Console.replaceFirst, same, ih]

theorem profile?_replaceFirst {change : Profile → Profile}
    (keeps : ∀ p, p.id = id → (change p).id = id) (other : ConnectionId) :
    (R.withProfiles (Console.replaceFirst id change R.profiles)).profile? other =
      if other = id then (R.profile? id).map change else R.profile? other := by
  simp only [profile?, withProfiles]
  generalize R.profiles = profiles
  induction profiles with
  | nil => simp [Console.replaceFirst]
  | cons p rest ih =>
      by_cases same : p.id = id
      · have kept := keeps p same
        by_cases asked : other = id
        · subst asked
          simp [Console.replaceFirst, same, kept]
        · simp [Console.replaceFirst, same, kept, asked, Ne.symm asked]
      · by_cases asked : other = id
        · subst asked
          simpa [Console.replaceFirst, same] using ih
        · by_cases first : p.id = other
          · simp [Console.replaceFirst, first, asked]
          · simpa [Console.replaceFirst, same, first, asked] using ih

theorem profile?_removeFirst (distinct : (R.profiles.map (·.id)).Nodup) (other : ConnectionId) :
    (R.withProfiles (Console.removeFirst id R.profiles)).profile? other =
      if other = id then none else R.profile? other := by
  simp only [profile?, withProfiles, Console.removeFirst]
  generalize R.profiles = profiles at distinct
  induction profiles with
  | nil => simp
  | cons p rest ih =>
      rw [List.map_cons, List.nodup_cons] at distinct
      by_cases same : p.id = id
      · -- The first profile with the id is the only one.
        have unique : ∀ q ∈ rest, ¬ q.id = id := by
          intro q member match_
          exact distinct.1 (List.mem_map.2 ⟨q, member, match_.trans same.symm⟩)
        by_cases asked : other = id
        · subst asked
          simpa [same] using unique
        · simp [same, asked, Ne.symm asked]
      · have later := ih distinct.2
        by_cases asked : other = id
        · subst asked
          simpa [same] using later
        · by_cases first : p.id = other
          · simp [first, asked]
          · simpa [same, first, asked] using later

theorem profile?_append (p : Profile) (other : ConnectionId) :
    (R.withProfiles (R.profiles ++ [p])).profile? other =
      (R.profile? other).or (if p.id = other then some p else none) := by
  by_cases same : p.id = other <;> simp [profile?, withProfiles, List.find?_append, same]

/-! ## What holds at any time -/

/-- Ids are distinct, and connections in use stand under their own ids and are not destroyed. -/
structure Tidy (R : Register) : Prop where
  ids : (R.profiles.map (·.id)).Nodup
  keys : (R.current.map (·.1)).Nodup
  entry : ∀ {id i}, (id, i) ∈ R.current →
    ∃ card, R.cards[i]? = some card ∧ card.id = id ∧ card.destroyed = false

theorem Tidy.lt (h : R.Tidy) (used : (id, i) ∈ R.current) : i < R.cards.length := by
  rcases h.entry used with ⟨card, found, -, -⟩
  exact (List.getElem?_eq_some_iff.1 found).1

/-- An id has one connection in use. -/
theorem Tidy.ref_unique (h : R.Tidy) (first : (id, i) ∈ R.current) (second : (id, j) ∈ R.current) :
    i = j := by
  have same := List.inj_on_of_nodup_map h.keys first second rfl
  exact congrArg Prod.snd same

/-- A connection is in use for one id. -/
theorem Tidy.id_unique (h : R.Tidy) {other : ConnectionId} (first : (id, i) ∈ R.current)
    (second : (other, i) ∈ R.current) : id = other := by
  rcases h.entry first with ⟨card, found, rfl, -⟩
  rcases h.entry second with ⟨card', found', rfl, -⟩
  rw [found] at found'
  exact congrArg Card.id (Option.some.inj found')

end Register

/-! ## The register of a console that changes -/

namespace Console

variable {c : Console} {i : ConnectionRef}

@[simp] theorem profile?_register (id : ConnectionId) :
    c.register.profile? id = c.profile? id := rfl

theorem get?_register {card : Card} : c.register.cards[i]? = some card ↔
    i < c.connections.length ∧ card = (c.connection i).card := by
  by_cases hi : i < c.connections.length
  · simp [register, connection, hi, eq_comm]
  · simp [register, hi]

theorem mem_current_of_current? {id : ConnectionId} (used : c.current? id = some i) :
    (id, i) ∈ c.register.current := by
  rcases List.lookup_eq_some_iff.1 used with ⟨earlier, later, split, -⟩
  rw [register, split]
  simp

theorem not_mem_current_of_current? {id : ConnectionId} (unused : c.current? id = none)
    (i : ConnectionRef) : (id, i) ∉ c.register.current := by
  intro member
  have absent := List.lookup_eq_none_iff.1 unused (id, i) member
  simp at absent

theorem current?_eq_some_iff {id : ConnectionId} (keys : (c.current.map (·.1)).Nodup) :
    c.current? id = some i ↔ (id, i) ∈ c.current := by
  constructor
  · exact mem_current_of_current?
  · intro member
    cases used : c.current? id with
    | none => exact absurd member (not_mem_current_of_current? used i)
    | some j =>
        have same := List.inj_on_of_nodup_map keys member (mem_current_of_current? used) rfl
        exact congrArg some (congrArg Prod.snd same).symm

/-- A change of a connection is a change of its card. -/
theorem register_update {change : Connection → Connection} {f : Card → Card}
    (h : ∀ connection, (change connection).card = f connection.card) :
    (c.update i change).register = c.register.modify i f := by
  have mapped : (c.connections.modify i change).map Connection.card =
      (c.connections.map Connection.card).modify i f := by
    apply List.ext_getElem?
    intro j
    by_cases hj : i = j
    · subst hj
      by_cases hi : i < c.connections.length
      · simp [hi, h]
      · -- A reference to no connection changes nothing.
        simp [hi]
    · simp [hj]
  simp [register, update, Register.modify, mapped]

/-- The changes that leave the register as it is. -/
def Keeps (c c' : Console) : Prop := c'.register = c.register

namespace Keeps

theorem refl (c : Console) : Keeps c c := rfl

theorem trans {a b c : Console} (first : Keeps a b) (second : Keeps b c) : Keeps a c :=
  Eq.trans second first

theorem update {change : Connection → Connection}
    (h : ∀ connection, (change connection).card = connection.card) :
    Keeps c (c.update i change) := by
  have unchanged := register_update (c := c) (i := i) (f := fun card => card) h
  refine unchanged.trans ?_
  have same : c.register.cards.modify i (fun card => card) = c.register.cards :=
    List.modify_id i c.register.cards
  rw [Register.modify, same]

theorem present (change : Snapshot → Snapshot) : Keeps c (c.present i change) :=
  update fun _ => rfl

theorem report (audience : Audience) (text : String) : Keeps c (c.report audience text) := by
  cases audience <;> rfl

theorem confirm (audience : Audience) (text : String) : Keeps c (c.confirm audience text) := by
  cases audience <;> rfl

end Keeps

end Console

namespace Connection

open Console

variable {i : ConnectionRef} {c : Console} {session : SessionId}

/-! ### Opening and closing -/

theorem keeps_beginConnect : Keeps c (beginConnect i c).2 := by
  unfold beginConnect
  dsimp only
  split
  · rfl
  · split
    · rfl
    · exact Keeps.update (c := c.holdGate) fun _ => rfl

theorem keeps_restoreSession : Keeps c (restoreSession i session c) :=
  Keeps.update (c := c) fun _ => rfl

theorem register_prepare {p : Profile} {token : Option String} :
    (prepare i p token c).2.register = c.register.modify i (Card.rewrite p) :=
  register_update fun _ => rfl

theorem keeps_adopt : Keeps c (adopt i session c).2 := by
  unfold adopt
  split
  · rfl
  · exact Keeps.update (c := c) fun _ => rfl

theorem keeps_failOpen {error : TransportError} : Keeps c (failOpen i error c) :=
  Keeps.present (c := c) _

theorem keeps_beginDisconnect : Keeps c (beginDisconnect i c).2 := by
  unfold beginDisconnect
  dsimp only
  split
  · rfl
  · dsimp only
    split
    · exact Keeps.present _
    · rfl

theorem keeps_failDisconnect {previous : ConnectionStatus} {error : TransportError} :
    Keeps c (failDisconnect i previous error c) := Keeps.present (c := c) _

theorem register_beginDestroy :
    (beginDestroy i c).2.register = c.register.modify i Card.strike := by
  unfold beginDestroy
  dsimp only
  split
  · next dead =>
      -- The card of a destroyed connection is marked already.
      have marked : c.register.cards.modify i Card.strike = c.register.cards := by
        apply List.ext_getElem?
        intro j
        by_cases same : i = j
        · subst same
          by_cases hi : i < c.connections.length
          · have struck : Card.strike (c.connection i).card = (c.connection i).card := by
              rw [Card.strike, Connection.card, dead]
            have found := (get?_register (c := c)).2 ⟨hi, rfl⟩
            simp [found, struck]
          · simp [register, hi]
        · simp [same]
      rw [Register.modify, marked]
  · exact register_update fun _ => rfl

theorem keeps_finishDestroy {previous : ConnectionStatus} :
    Keeps c (finishDestroy i previous c) := by
  unfold finishDestroy
  split
  · exact Keeps.present (c := c.releaseGate) _
  · exact Keeps.present _

/-! ### Messages and filters -/

theorem keeps_logMessage {m : Message} : Keeps c (logMessage i m c) := Keeps.present _

theorem keeps_beginPublish {d : Draft} {audience : Audience} :
    Keeps c (beginPublish i d audience c).2 := by
  simp only [beginPublish]
  split
  · rfl
  · split
    · rfl
    · split
      · rfl
      · split
        · rfl
        · split
          · exact Keeps.report (c := c.notifyAll _) _ _
          · rfl

def Draft.defaults (d : Draft) : PublishDefaults := ⟨d.options.qos, d.options.retain⟩

theorem register_finishPublish {d : Draft} :
    (finishPublish i d c).register = c.register.modify i fun card =>
      Card.rewrite { card.profile with publishDefaults := d.defaults } card := by
  have logged : ∀ m c, (logMessage i m c).register = c.register := fun m c => keeps_logMessage
  have raised : ∀ c kind, (Console.raiseFor c i kind).register = c.register := fun _ _ => rfl
  simp only [finishPublish, raised, logged]
  exact register_update fun _ => rfl

theorem keeps_beginRequest {count : Nat} : Keeps c (beginRequest i count c).2 := by
  simp only [beginRequest]
  split
  · rfl
  · split
    · rfl
    · split <;> rfl

theorem keeps_forget {filter : String} : Keeps c (forget i filter c) := by
  unfold forget
  split
  · exact Keeps.present _
  · rfl

/-! ### Events -/

theorem keeps_acceptConnected : Keeps c (acceptConnected i session c).2 := by
  have up : Keeps c (c.update i fun connection =>
      { connection with token := none }.present fun s =>
        { s with status := .connected, retryCount := 0 }) := Keeps.update fun _ => rfl
  simp only [acceptConnected]
  split
  · split
    · exact up
    · exact up
  · rfl

theorem keeps_countAttempt : Keeps c (countAttempt i session c).2 := by
  simp only [countAttempt]
  split
  · split
    · exact Keeps.present (c := c) _
    · rfl
  · rfl

theorem keeps_onError {reason : String} : Keeps c (onError i session reason c) := by
  unfold onError
  split
  · exact Keeps.present (c := c) _
  · rfl

theorem keeps_onClose {reason : Option String} : Keeps c (onClose i session reason c) := by
  unfold onClose
  split
  · have closed : Keeps c (c.present i fun s =>
        { s with status := if s.status.isConnected then .disconnected else s.status }) :=
      Keeps.present _
    cases reason with
    | some reason => exact closed
    | none => exact closed
  · rfl

theorem keeps_onEnded : Keeps c (onEnded i session c) := by
  have ended : Keeps c (c.update i fun connection =>
      { connection with session := none }.present fun s =>
        { s with status := .disconnected, live := .empty }) := Keeps.update fun _ => rfl
  simp only [onEnded]
  split
  · split
    · exact ended
    · exact ended
  · rfl

theorem keeps_onMessage {packet : Packet} : Keeps c (onMessage i session packet c) := by
  simp only [onMessage]
  split
  · exact keeps_logMessage (c := c.notifyAll _)
  · rfl

end Connection

/-! ### The console itself -/

namespace Console

variable {c : Console}

theorem register_ensure (p : Profile) : (c.ensure p).2.register =
    match c.current? p.id with
    | some _ => c.register
    | none => c.register.create p := by
  cases used : c.current? p.id with
  | some i => simp [ensure, used]
  | none => simp [ensure, used, register, Register.create, Connection.card, Connection.ofProfile]

theorem register_saveProfiles (profiles : List Profile) :
    (c.saveProfiles profiles).2.register = c.register.withProfiles profiles := rfl

theorem register_configure (p : Profile) : (c.configure p).register =
    match c.current? p.id with
    | some i => c.register.modify i (Card.rewrite p)
    | none => c.register := by
  cases used : c.current? p.id with
  | some i =>
      simp only [configure, used]
      exact register_update fun _ => rfl
  | none => simp only [configure, used]

end Console

end DeviceConsole
