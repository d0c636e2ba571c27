import DeviceConsole.Proofs.Coherence.Errand
import DeviceConsole.Proofs.Session.Run

/-!
# The errands of the calls

This file proves for each call of a console that it follows its errand and ends without a duty:

* `Connection.keeps_*`, the operations of one connection that keep the register;
* `Console.follows_*`, the ways in which calls find a connection, change a profile or destroy;
* `Console.Call.Admitted`, what a call may assume where it begins, and `Console.Call.errand`;
* `Console.Call.begins`, the statement for every call.
-/

namespace DeviceConsole

open Operation

variable {α : Type} {e : Errand} {d : Duty} {seen : Register} {id : ConnectionId}
  {i : ConnectionRef}

theorem Errand.agrees_modify {f : Card → Card} (keeps : ∀ card, (f card).id = card.id) :
    e.Agrees seen (seen.modify i f) := ⟨fun _ _ => rfl, Register.within_modify keeps⟩

namespace Connection

/-! ## Operations that keep the register -/

theorem keeps_closePrevious {previous : Option SessionId} {replaced : Option ThingScope} :
    (closePrevious i previous replaced).Every Console.Keeps :=
  every_closePrevious .refl (fun _ _ => keeps_restoreSession) fun c _ => .refl c

theorem keeps_takeOver {options : ClientOptions} : (takeOver i options).Every Console.Keeps :=
  every_takeOver (fun _ _ => keeps_failOpen) fun _ _ => keeps_adopt

theorem keeps_disconnect : (disconnect i).Every Console.Keeps :=
  every_disconnect (fun _ => keeps_beginDisconnect) (fun _ => .present _) fun _ _ _ =>
    keeps_failDisconnect

theorem keeps_subscribe {filters : List FilterRequest} {audience : Audience} :
    (subscribe i filters audience).Every Console.Keeps :=
  every_subscribe (fun _ => keeps_beginRequest) (fun _ _ => .report _ _) fun _ _ =>
    (Console.Keeps.present _).trans (.confirm _ _)

theorem keeps_unsubscribe {filters : List String} {audience : Audience} :
    (unsubscribe i filters audience).Every Console.Keeps :=
  every_unsubscribe (fun _ => keeps_beginRequest) (fun _ _ => .report _ _) fun _ _ =>
    (Console.Keeps.present _).trans (.confirm _ _)

theorem keeps_react {session : SessionId} {event : TransportEvent} :
    (react i session event).Every Console.Keeps :=
  every_react (fun _ => keeps_acceptConnected) (fun _ => keeps_countAttempt) keeps_disconnect
    (fun _ => .present _) (fun _ _ => keeps_onError) (fun _ _ => keeps_onClose)
    (fun _ _ => keeps_onMessage) fun _ _ => keeps_onEnded

/-! ## Operations that change a card -/

theorem follows_openSession {p : Profile} {token : Option String}
    {Q : Except ConsoleError Bool → Register → Duty → Prop} (named : p.id ∈ e.names)
    (has : seen.Has i p.id) (known : seen.profile? p.id = some p)
    (returns : ∀ a R, e.Agrees seen R → Q a R d) :
    (openSession i p token).Follows e Q seen d := by
  refine follows_atomically_bind fun c relies => ⟨d, ?_, ?_⟩
  · rw [register_prepare]
    exact .equip (relies.agrees.within has) ((relies.agrees.profile? _ named).trans known)
  · rw [register_prepare]
    refine follows_of_every keeps_takeOver ?_
    intro a R agrees
    have equipped : e.Agrees c.register (c.register.modify i (Card.rewrite p)) :=
      Errand.agrees_modify fun _ => rfl
    exact returns a R (relies.agrees.trans (equipped.trans agrees))

theorem follows_connect {p : Profile} {token : Option String}
    {Q : Except ConsoleError Bool → Register → Duty → Prop} (named : p.id ∈ e.names)
    (has : seen.Has i p.id) (known : seen.profile? p.id = some p)
    (returns : ∀ a R, e.Agrees seen R → Q a R d) :
    (connect i p token).Follows e Q seen d := by
  refine follows_atomically_bind_of_keeps (fun c => keeps_beginConnect) fun c relies => ?_
  split
  · exact returns _ _ relies.agrees
  · exact returns _ _ relies.agrees
  · refine follows_bind (Q := fun _ R d' => d' = d ∧ e.Agrees seen R)
      (follows_of_every keeps_closePrevious ?_) ?_
    · intro a R agrees
      exact ⟨rfl, relies.agrees.trans agrees⟩
    · rintro (error | _) R _ ⟨rfl, agrees⟩
      · exact returns _ _ agrees
      · refine follows_openSession named (agrees.within has)
          ((agrees.profile? _ named).trans known) ?_
        intro a R' later
        exact returns a R' (agrees.trans later)

/-- A message that was sent changes the publish defaults of the connection alone. -/
theorem follows_publish {draft : Draft} {audience : Audience}
    {Q : Except ConsoleError Unit → Register → Duty → Prop} (has : seen.Has i id)
    (fails : ∀ error R, e.Agrees seen R → Q (.error error) R .none)
    (sent : ∀ R, e.Agrees seen R → Q (.ok ()) R (.align id)) :
    (publish i draft audience).Follows e Q seen .none := by
  refine follows_atomically_bind_of_keeps (fun c => keeps_beginPublish) fun c relies => ?_
  split
  · exact fails _ _ relies.agrees
  · refine follows_ask_bind fun reply => ?_
    cases reply with
    | error error =>
        refine follows_change_bind_of_keeps (fun c => .report _ _) fun c' relies' => ?_
        exact fails _ _ (relies.agrees.trans relies'.agrees)
    | ok _ =>
        refine follows_change_bind fun c' relies' => ⟨.align id, ?_, ?_⟩
        · rw [register_finishPublish]
          refine .scribble (relies'.agrees.within (relies.agrees.within has)) ?_
          intro card
          exact ⟨rfl, rfl⟩
        · rw [register_finishPublish]
          refine sent _ (relies.agrees.trans (relies'.agrees.trans ?_))
          exact Errand.agrees_modify fun _ => rfl

theorem follows_destroy {Q : Unit → Register → Duty → Prop}
    (returns : ∀ R, Q () R .none) : (destroy i).Follows e Q seen (.discard i) := by
  refine follows_atomically_bind fun c relies => ⟨.none, ?_, ?_⟩
  · rw [register_beginDestroy]
    exact .mark
  · refine follows_of_every ?_ fun _ R _ => returns R
    split
    · trivial
    · next session previous _ =>
        cases session with
        | none => exact every_change fun c => keeps_finishDestroy
        | some session =>
            exact every_ask_bind fun _ => every_change fun c => keeps_finishDestroy

end Connection

namespace Console

/-! ## Finding connections -/

theorem has_of_current {R : Register} (tidy : R.Tidy) (member : (id, i) ∈ R.current) :
    R.Has i id := by
  rcases tidy.entry member with ⟨card, found, same, -⟩
  exact ⟨card, found, same⟩

/-- A profile gets a connection, unless it has one. -/
theorem move_ensure {c : Console} {p : Profile} (known : c.profile? p.id = some p) :
    e.Move d c.register d (c.ensure p).2.register := by
  rw [register_ensure]
  cases used : c.current? p.id with
  | some i => exact .keep
  | none => exact .create known (not_mem_current_of_current? used)

theorem agrees_ensure {c : Console} {p : Profile} :
    e.Agrees c.register (c.ensure p).2.register := by
  rw [register_ensure]
  split
  · exact .refl _ _
  · exact ⟨fun _ _ => rfl, Register.within_create p⟩

theorem has_ensure {c : Console} {p : Profile} (tidy : c.register.Tidy) :
    (c.ensure p).2.register.Has (c.ensure p).1 p.id := by
  unfold ensure
  split
  · next i used => exact has_of_current tidy (mem_current_of_current? used)
  · exact ⟨⟨p.id, p, false⟩, by simp [register, Connection.card, Connection.ofProfile], rfl⟩

theorem follows_getOrCreate {p : Profile}
    {Q : Option ConnectionRef → Register → Duty → Prop} (named : p.id ∈ e.names)
    (known : seen.profile? p.id = some p)
    (found : ∀ i R, e.Agrees seen R → R.Has i p.id → Q (some i) R d) :
    (getOrCreate p.id (some p)).Follows e Q seen d := by
  refine follows_look_bind fun c relies => ?_
  split
  · next i used =>
      exact found i _ relies.agrees (has_of_current relies.tidy (mem_current_of_current? used))
  · refine follows_atomically_bind fun c' relies' => ⟨d, ?_, ?_⟩
    · have agrees := relies.agrees.trans relies'.agrees
      exact move_ensure ((agrees.profile? _ named).trans known)
    · have agrees := relies.agrees.trans relies'.agrees
      exact found _ _ (agrees.trans agrees_ensure) (has_ensure relies'.tidy)

/-- What the search for a connection of an id says about the profile. -/
def Found (id : ConnectionId) (R : Register) : Option ConnectionRef → Prop
  | none => R.profile? id = none
  | some i => ∃ p, R.profile? id = some p ∧ R.Has i id

/-- A call goes on with a connection of the id it names, if there is a profile. -/
theorem follows_withConnection {act : ConnectionRef → Operation (Result α)}
    {Q : Result α → Register → Duty → Prop} (named : id ∈ e.names)
    (stays : ∀ moved, d ≠ .evict id moved)
    (absent : ∀ R, e.Agrees seen R → R.profile? id = none →
      Q (.error (.connectionNotFound id)) R d)
    (acts : ∀ i p R, e.Agrees seen R → R.profile? id = some p → R.Has i id →
      (act i).Follows e Q R d) :
    (withConnection id act).Follows e Q seen d := by
  refine follows_bind (Q := fun i? R d' => d' = d ∧ e.Agrees seen R ∧ Found id R i?) ?_ ?_
  · refine follows_look_bind fun c relies => ?_
    cases asked : c.profile? id with
    | none =>
        -- Without a profile there is no connection either, since the errand names the id.
        refine follows_look_bind fun c' relies' => ?_
        have unknown : c'.register.profile? id = none :=
          (relies'.agrees.profile? id named).trans asked
        have agrees := relies.agrees.trans relies'.agrees
        split
        · next i used =>
            rcases relies'.housed named (mem_current_of_current? used) with known | ⟨moved, mine⟩
            · rw [unknown] at known
              cases known
            · exact absurd mine (stays moved)
        · exact ⟨rfl, agrees, unknown⟩
    | some p =>
        obtain rfl : p.id = id := Register.id_of_profile? (R := c.register) asked
        refine follows_getOrCreate named asked ?_
        intro i R agrees has
        exact ⟨rfl, relies.agrees.trans agrees, p, (agrees.profile? _ named).trans asked, has⟩
  · rintro (_ | i) R _ ⟨rfl, agrees, rest⟩
    · exact absent R agrees rest
    · rcases rest with ⟨p, known, has⟩
      exact acts i p R agrees known has

/-- Calls that keep the register once they have a connection have no duty at all. -/
theorem follows_withConnection_of_every {act : ConnectionRef → Operation (Result α)}
    (named : id ∈ e.names) (keeps : ∀ i, (act i).Every Keeps) :
    (withConnection id act).Follows e (fun _ _ d => d = .none) seen .none := by
  refine follows_withConnection named nofun (fun _ _ _ => rfl) ?_
  intro i p R _ _ _
  exact follows_of_every (keeps i) fun _ _ _ => rfl

/-! ## Changing profiles -/

/-- The connection in use gets the profile that was stored. -/
theorem move_configure {c : Console} {p : Profile} (known : c.profile? p.id = some p) :
    e.Move (.align p.id) c.register .none (c.configure p).register := by
  rw [register_configure]
  cases used : c.current? p.id with
  | some i => exact .settle known (mem_current_of_current? used)
  | none => exact .spare (not_mem_current_of_current? used)

theorem follows_modifyProfile {change : Profile → Profile}
    {Q : Result Unit → Register → Duty → Prop} (named : id ∈ e.names)
    (keeps : ∀ p, p.id = id → (change p).id = id) (mine : d = .none ∨ d = .align id)
    (absent : ∀ R, e.Agrees seen R → R.profile? id = none →
      Q (.error (.connectionNotFound id)) R d)
    (stored : ∀ saved R, Q (afterSaving saved ()) R .none) :
    (modifyProfile id change).Follows e Q seen d := by
  refine follows_atomically_bind fun c relies => ?_
  cases asked : c.profile? id with
  | none =>
      simp only [changeProfile, asked]
      exact ⟨d, .keep, absent _ relies.agrees asked⟩
  | some p =>
      simp only [changeProfile, asked]
      have edited := Register.profile?_replaceFirst (R := c.register) keeps id
      refine ⟨.align id, .edit mine keeps, follows_change_bind fun c' relies' => ⟨.none, ?_, ?_⟩⟩
      · have same : (change p).id = id := keeps p (Register.id_of_profile? (R := c.register) asked)
        have known : c'.profile? (change p).id = some (change p) := by
          rw [same]
          refine (relies'.agrees.profile? id named).trans (edited.trans ?_)
          rw [if_pos rfl, profile?_register, asked]
          rfl
        have move := move_configure (e := e) known
        rwa [same] at move
      · exact stored _ _

/-! ## Destroying -/

theorem follows_destroy {Q : Bool → Register → Duty → Prop}
    (mine : d = .none ∨ d = .evict id true) (returns : ∀ a R, Q a R .none) :
    (destroy id).Follows e Q seen d := by
  refine follows_atomically_bind fun c relies => ?_
  cases used : c.current? id with
  | none =>
      have unused := not_mem_current_of_current? used
      have same : (c.retire id).register = c.register := by
        have all : c.current.filter (·.1 ≠ id) = c.current := by
          rw [List.filter_eq_self]
          rintro ⟨other, i⟩ member
          have differs : other ≠ id := by
            rintro rfl
            exact unused i member
          simpa using differs
        rw [retire, all]
      refine ⟨.none, ?_, returns _ _⟩
      rw [same]
      rcases mine with rfl | rfl
      · exact .keep
      · exact .vacant unused
  | some i =>
      refine ⟨.discard i, .retire mine (mem_current_of_current? used), ?_⟩
      exact follows_bind (Q := fun _ _ d' => d' = .none)
        (Connection.follows_destroy fun _ => rfl) (by rintro _ R _ rfl; exact returns _ _)

/-! ## The calls -/

theorem follows_select {Q : Result Unit → Register → Duty → Prop} (named : id ∈ e.names)
    (stays : ∀ moved, d ≠ .evict id moved)
    (absent : ∀ R, e.Agrees seen R → R.profile? id = none →
      Q (.error (.connectionNotFound id)) R d)
    (moved : ∀ R, Q (.ok ()) R d.moved) : (select id).Follows e Q seen d := by
  refine follows_withConnection named stays absent ?_
  intro i p R agrees known has
  refine follows_change_bind fun c relies => ⟨d.moved, ?_, moved _⟩
  have shown : (Connection.read i (c.setFocus (some id))).register =
      c.register.withFocus (some id) := Keeps.present (c := c.setFocus (some id)) _
  rw [shown]
  refine .focus ?_
  rintro _ ⟨⟩
  rw [relies.agrees.profile? id named, known]
  rfl

theorem follows_connect {token : Option String} (named : id ∈ e.names) :
    (connect id token).Follows e (fun _ _ d => d = .none) seen .none := by
  refine follows_look_bind fun c relies => ?_
  split
  · exact rfl
  · refine follows_look_bind fun c' relies' => ?_
    cases asked : c'.profile? id with
    | none => exact rfl
    | some p =>
        obtain rfl : p.id = id := Register.id_of_profile? (R := c'.register) asked
        refine follows_withConnection named nofun (fun _ _ _ => rfl) ?_
        intro i q R agrees known has
        -- The profile that was read first is still the one with the id.
        have same : R.profile? p.id = some p := (agrees.profile? _ named).trans asked
        exact Connection.follows_connect named has same fun _ _ _ => rfl

/-- What is left to do when a connection published a message or failed to. -/
def Published (id : ConnectionId) (e : Errand) (seen : Register) :
    Except ConsoleError Unit → Register → Duty → Prop
  | .error _, _, d => d = .none
  | .ok (), R, d => d = .align id ∧ e.Agrees seen R

theorem follows_publish {draft : Connection.Draft} {audience : Audience} (named : id ∈ e.names) :
    (publish id draft audience).Follows e (fun _ _ d => d = .none) seen .none := by
  refine follows_withConnection named nofun (fun _ _ _ => rfl) ?_
  intro i p R agrees known has
  refine follows_bind (Q := Published id e R) (Connection.follows_publish has ?_ ?_) ?_
  · intro error R' _
    rfl
  · intro R' agrees'
    exact ⟨rfl, agrees'⟩
  · rintro (error | _) R' d owed
    · exact owed
    · rcases owed with ⟨rfl, agrees'⟩
      refine follows_modifyProfile named (fun _ same => same) (Or.inr rfl) ?_ fun _ _ => rfl
      intro R'' later unknown
      -- The profile does not go away while its connection publishes.
      rw [later.profile? id named, agrees'.profile? id named, known] at unknown
      cases unknown

theorem id_declare (catalog : Catalog) (fresh : Nat → String) (thing : String)
    (filters : List FilterRequest) (p : Profile) :
    (declare catalog fresh thing filters p).id = p.id := by
  unfold declare
  generalize filters.zipIdx = numbered
  induction numbered generalizing p with
  | nil => rfl
  | cons first rest ih => exact ih _

theorem follows_subscribe {fresh : Nat → String} {filters : List FilterRequest}
    {audience : Audience} (named : id ∈ e.names) :
    (subscribe id fresh filters audience).Follows e (fun _ _ d => d = .none) seen .none := by
  refine follows_withConnection named nofun (fun _ _ _ => rfl) ?_
  intro i p R agrees known has
  refine follows_bind (Q := fun _ _ d => d = .none)
    (follows_of_every Connection.keeps_subscribe fun _ _ _ => rfl) ?_
  rintro (error | _) R' _ rfl
  · exact rfl
  · refine follows_look_bind fun c relies => ?_
    refine follows_modifyProfile named ?_ (Or.inl rfl) (fun _ _ _ => rfl) fun _ _ => rfl
    intro p same
    rw [id_declare, same]

theorem keeps_reportAll {success failure : String} {result : Result Unit} :
    (reportAll success failure result).Every Keeps :=
  every_reportAll (fun c => .refl c) fun c _ _ => .refl c

theorem follows_subscribeAll {fresh : Nat → String} (named : id ∈ e.names) :
    (subscribeAll id fresh).Follows e (fun _ _ d => d = .none) seen .none := by
  refine follows_withConnection named nofun (fun _ _ _ => rfl) ?_
  intro i p R agrees known has
  refine follows_look_bind fun c relies => ?_
  split
  · exact rfl
  · refine follows_look_bind fun c' relies' => ?_
    dsimp only
    split
    · exact follows_of_every (every_change_bind (fun c => .refl c) trivial) fun _ _ _ => rfl
    · refine follows_bind (follows_subscribe named) ?_
      rintro result R' _ rfl
      exact follows_of_every keeps_reportAll fun _ _ _ => rfl

theorem follows_unsubscribeAll (named : id ∈ e.names) :
    (unsubscribeAll id).Follows e (fun _ _ d => d = .none) seen .none := by
  refine follows_withConnection_of_every named fun i => ?_
  refine every_look_bind (fun c => .refl c) fun filters => ?_
  split
  · exact every_change_bind (fun c => .refl c) trivial
  · exact every_bind Connection.keeps_unsubscribe fun _ => keeps_reportAll

theorem follows_disconnect (named : id ∈ e.names) :
    (disconnect id).Follows e (fun _ _ d => d = .none) seen .none := by
  refine follows_look_bind fun c relies => ?_
  split
  · exact rfl
  · refine follows_withConnection_of_every named fun i => ?_
    refine every_bind Connection.keeps_disconnect ?_
    rintro (error | _) <;> trivial

theorem follows_locally {change : ConnectionRef → Console → Console} (named : id ∈ e.names)
    (keeps : ∀ i c, Keeps c (change i c)) :
    (locally id change).Follows e (fun _ _ d => d = .none) seen .none :=
  follows_withConnection_of_every named fun i => every_change_bind (keeps i) trivial

/-! ### Calls that depend on where they begin -/

/-- A profile as it is added to a console under an id. -/
def suggested (id : ConnectionId) (fresh : Nat → String) (p : Profile) (c : Console) : Profile :=
  let p := { p with id := id }
  if p.role = .thing ∧ p.subscriptions = [] then
    { p with subscriptions := c.catalog.suggestedFor fresh p.username }
  else p

theorem id_suggested {fresh : Nat → String} {p : Profile} {c : Console} :
    (suggested id fresh p c).id = id := by
  unfold suggested
  dsimp only
  split <;> rfl

variable {c : Console}

/-- The profile that gets the focus when another one is removed. -/
def successor? (id : ConnectionId) (c : Console) : Option ConnectionId :=
  (removeFirst id c.profiles).head?.map (·.id)

/-- The profile that gets the focus is another one, and is among those left. -/
theorem successor?_spec {first : ConnectionId} (tidy : c.register.Tidy)
    (h : successor? id c = some first) :
    first ≠ id ∧
      ((c.register.withProfiles (removeFirst id c.profiles)).profile? first).isSome := by
  rcases Option.map_eq_some_iff.1 h with ⟨p, head, rfl⟩
  have known : ((c.register.withProfiles (removeFirst id c.profiles)).profile? p.id).isSome :=
    Register.profile?_isSome_iff.2 ⟨p, List.mem_of_mem_head? head, rfl⟩
  refine ⟨?_, known⟩
  intro same
  have left : (c.register.withProfiles (removeFirst id c.profiles)).profile? p.id = none :=
    (Register.profile?_removeFirst tidy.ids p.id).trans (if_pos same)
  rw [left] at known
  cases known

theorem begins_addProfile {fresh : Nat → String} {p : Profile} (named : id ∈ e.names)
    (relies : e.Relies .none c.register c.register) (unknown : c.profile? id = none) :
    (addProfile id fresh p).Begins e (fun _ _ d => d = .none) c := by
  have unused : ∀ i, (id, i) ∉ c.register.current := by
    intro i member
    rcases relies.housed named member with known | ⟨moved, mine⟩
    · rw [profile?_register, unknown] at known
      cases known
    · cases mine
  let q := suggested id fresh p c
  have same : q.id = id := id_suggested
  have added : e.Move .none c.register .none
      (c.register.withProfiles (c.register.profiles ++ [q])) := by
    refine .insert ?_ ?_
    · rw [same]
      exact unknown
    · rw [same]
      exact unused
  refine ⟨.none, added, ?_⟩
  have known : (c.register.withProfiles (c.register.profiles ++ [q])).profile? q.id = some q := by
    rw [Register.profile?_append, if_pos rfl, same, profile?_register, unknown]
    rfl
  have made : (getOrCreate q.id (some q)).Follows e (fun _ _ d => d = .none)
      (c.register.withProfiles (c.register.profiles ++ [q])) .none := by
    refine follows_getOrCreate ?_ known fun _ _ _ _ => rfl
    rw [same]
    exact named
  rw [same] at made
  refine follows_bind (f := fun _ => Program.done (afterSaving _ id)) made ?_
  rintro _ R _ rfl
  exact rfl

theorem begins_removeProfile {id : ConnectionId} (relies : e.Relies .none c.register c.register)
    (names : e.names = id :: (successor? id c).toList) (removes : e.removes = some id) :
    (removeProfile id).Begins e (fun _ _ d => d = .none) c := by
  cases asked : c.profile? id with
  | none =>
      refine ⟨.none, ?_, ?_⟩
      · simp only [dropProfile, asked]
        exact .keep
      · simp only [dropProfile, asked]
        exact rfl
  | some p =>
      refine ⟨.evict id false, ?_, ?_⟩
      · simp only [dropProfile, asked]
        exact .drop removes (by rw [profile?_register, asked]; rfl)
      · simp only [dropProfile, asked]
        -- The focus moves first, and then the connection is destroyed.
        refine follows_bind
          (Q := fun (a : Result Unit) _ d => a = .ok () ∧ d = .evict id true) ?_ ?_
        · have rest : (c.saveProfiles (removeFirst id c.profiles)).2.profiles.head?.map (·.id) =
              successor? id c := rfl
          rw [rest, register_saveProfiles]
          cases next : successor? id c with
          | none =>
              refine follows_change_bind fun c' _ => ⟨.evict id true, ?_, rfl, rfl⟩
              exact Errand.Move.focus (d := .evict id false) nofun
          | some first =>
              rcases successor?_spec relies.tidy next with ⟨differs, known⟩
              have named : first ∈ e.names := by simp [names, next]
              refine follows_select named ?_ ?_ fun _ => ⟨rfl, rfl⟩
              · intro moved same
                exact differs (Duty.evict.inj same).1.symm
              · intro R agrees unknown
                rw [agrees.profile? first named] at unknown
                rw [unknown] at known
                cases known
        · rintro _ R _ ⟨rfl, rfl⟩
          refine follows_bind (Q := fun _ _ d => d = .none)
            (follows_destroy (Or.inr rfl) fun _ _ => rfl) ?_
          rintro _ R' _ rfl
          exact rfl

namespace Call

def subject : Call → ConnectionId
  | getOrCreate id _ => id
  | destroy id => id
  | add id _ _ => id
  | update p => p.id
  | remove id => id
  | select id => id
  | connect id _ => id
  | disconnect id => id
  | publish id _ _ => id
  | subscribe id _ _ _ => id
  | unsubscribe id _ _ => id
  | subscribeAll id _ => id
  | unsubscribeAll id => id
  | clear id => id
  | setRenderMode id _ => id
  | forget id _ => id

def removed? : Call → Option ConnectionId
  | remove id => some id
  | _ => none

/-- What a call is about, if it begins on a console.  A removal is also about the profile that gets
the focus. -/
def errand (call : Call) (c : Console) : Errand where
  names := call.subject :: (call.removed?.bind fun id => successor? id c).toList
  removes := call.removed?

/-- Connections are made for profiles of the console only, and profiles are added under new ids. -/
def Admitted (c : Console) : Call → Prop
  | getOrCreate _ p => p = none
  | add id _ _ => c.profile? id = none
  | _ => True

instance (c : Console) : (call : Call) → Decidable (call.Admitted c)
  | getOrCreate _ p => inferInstanceAs (Decidable (p = none))
  | add id _ _ => inferInstanceAs (Decidable (c.profile? id = none))
  | destroy _ | update _ | remove _ | select _ | connect _ _ | disconnect _ | publish _ _ _
  | subscribe _ _ _ _ | unsubscribe _ _ _ | subscribeAll _ _ | unsubscribeAll _ | clear _
  | setRenderMode _ _ | forget _ _ => inferInstanceAs (Decidable True)

/-- Every call follows its errand and ends without a duty. -/
theorem begins (call : Call) (admitted : call.Admitted c)
    (relies : (call.errand c).Relies .none c.register c.register) :
    call.program.Begins (call.errand c) (fun _ _ d => d = .none) c := by
  have named : call.subject ∈ (call.errand c).names := List.mem_cons_self
  cases call with
  | add id fresh p => exact begins_addProfile named relies admitted
  | remove id => exact begins_removeProfile relies rfl rfl
  | getOrCreate id p =>
      obtain rfl : p = none := admitted
      refine Follows.begins (follows_look_bind fun c' _ => ?_) relies
      split <;> exact rfl
  | destroy id =>
      have follows : (Console.destroy id).Follows ((destroy id).errand c)
          (fun _ _ d => d = .none) c.register .none :=
        follows_destroy (Or.inl rfl) fun _ _ => rfl
      exact follows.begins relies
  | update p =>
      refine (follows_modifyProfile named (fun _ _ => rfl) (Or.inl rfl) ?_ ?_).begins relies
      · exact fun _ _ _ => rfl
      · exact fun _ _ => rfl
  | select id =>
      have follows : (Console.select id).Follows ((select id).errand c)
          (fun _ _ d => d = .none) c.register .none :=
        follows_select named nofun (fun _ _ _ => rfl) fun _ => rfl
      exact follows.begins relies
  | connect id token => exact (Console.follows_connect named).begins relies
  | disconnect id => exact (follows_disconnect named).begins relies
  | publish id draft audience => exact (follows_publish named).begins relies
  | subscribe id fresh filters audience => exact (follows_subscribe named).begins relies
  | unsubscribe id filters audience =>
      refine (follows_withConnection_of_every named fun i => ?_).begins relies
      exact Connection.keeps_unsubscribe
  | subscribeAll id fresh => exact (follows_subscribeAll named).begins relies
  | unsubscribeAll id => exact (follows_unsubscribeAll named).begins relies
  | clear id => exact (follows_locally named fun _ _ => .present _).begins relies
  | setRenderMode id mode => exact (follows_locally named fun _ _ => .present _).begins relies
  | forget id filter =>
      exact (follows_locally named fun _ _ => Connection.keeps_forget).begins relies

end Call

end Console

end DeviceConsole
