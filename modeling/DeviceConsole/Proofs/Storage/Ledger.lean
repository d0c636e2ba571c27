import DeviceConsole.Proofs.Coherence.Calls
import DeviceConsole.Proofs.Session.Delegation

/-!
# The ledger of a console

The profiles, the place where they are stored and the catalog that proposes filters for them are
changed by few operations.  This file defines:

* `Ledger`, this part of a console;
* `Console.Spares`, the changes that leave it as it is, which those of connections do;
* `Console.found`, the connection that a call finds for an id, and `Console.withConnection_found`.
-/

namespace DeviceConsole

/-- The part of a console that is stored, with the catalog by which it grows. -/
structure Ledger where
  profiles : List Profile
  storage : ProfileStorage
  catalog : Catalog

def Console.ledger (c : Console) : Ledger := ⟨c.profiles, c.storage, c.catalog⟩

/-- The changes that leave the ledger as it is. -/
def Console.Spares (c c' : Console) : Prop := c'.ledger = c.ledger

namespace Console.Spares

theorem refl (c : Console) : Spares c c := rfl

theorem trans {a b c : Console} (first : Spares a b) (second : Spares b c) : Spares a c :=
  Eq.trans second first

variable {c c' : Console}

theorem profiles (h : Spares c c') : c'.profiles = c.profiles := congrArg Ledger.profiles h

theorem storage (h : Spares c c') : c'.storage = c.storage := congrArg Ledger.storage h

theorem catalog (h : Spares c c') : c'.catalog = c.catalog := congrArg Ledger.catalog h

theorem report (audience : Audience) (text : String) : Spares c (c.report audience text) := by
  cases audience <;> rfl

theorem confirm (audience : Audience) (text : String) : Spares c (c.confirm audience text) := by
  cases audience <;> rfl

end Console.Spares

open Operation Console

/-! ## Connections -/

namespace Connection

variable {i : ConnectionRef} {c : Console} {session : SessionId}

theorem spares_beginConnect : Spares c (beginConnect i c).2 := by
  simp only [beginConnect]
  split
  · rfl
  · split <;> rfl

theorem spares_adopt : Spares c (adopt i session c).2 := by
  unfold adopt
  split <;> rfl

theorem spares_beginDisconnect : Spares c (beginDisconnect i c).2 := by
  simp only [beginDisconnect]
  split
  · rfl
  · dsimp only
    split <;> rfl

theorem spares_beginDestroy : Spares c (beginDestroy i c).2 := by
  simp only [beginDestroy]
  split <;> rfl

theorem spares_finishDestroy {previous : ConnectionStatus} :
    Spares c (finishDestroy i previous c) := by
  unfold finishDestroy
  split <;> rfl

theorem spares_beginPublish {d : Draft} {audience : Audience} :
    Spares c (beginPublish i d audience c).2 := by
  simp only [beginPublish]
  split
  · rfl
  · split
    · rfl
    · split
      · rfl
      · split
        · rfl
        · split
          · exact Spares.report (c := c.notifyAll _) _ _
          · rfl

theorem spares_beginRequest {count : Nat} : Spares c (beginRequest i count c).2 := by
  simp only [beginRequest]
  split
  · rfl
  · split
    · rfl
    · split <;> rfl

theorem spares_acceptConnected : Spares c (acceptConnected i session c).2 := by
  simp only [acceptConnected]
  split
  · split <;> rfl
  · rfl

theorem spares_countAttempt : Spares c (countAttempt i session c).2 := by
  simp only [countAttempt]
  split
  · split <;> rfl
  · rfl

theorem spares_onError {reason : String} : Spares c (onError i session reason c) := by
  unfold onError
  split <;> rfl

theorem spares_onClose {reason : Option String} : Spares c (onClose i session reason c) := by
  unfold onClose
  split
  · cases reason <;> rfl
  · rfl

theorem spares_onEnded : Spares c (onEnded i session c) := by
  simp only [onEnded]
  split
  · split <;> rfl
  · rfl

theorem spares_onMessage {packet : Packet} : Spares c (onMessage i session packet c) := by
  simp only [onMessage]
  split <;> rfl

theorem spares_forget {filter : String} : Spares c (forget i filter c) := by
  unfold forget
  split <;> rfl

theorem spares_disconnect : (disconnect i).Every Spares :=
  every_disconnect (fun _ => spares_beginDisconnect) (fun _ => rfl) fun _ _ _ => rfl

theorem spares_destroy : (destroy i).Every Spares :=
  every_destroy (fun _ => spares_beginDestroy) fun _ _ => spares_finishDestroy

theorem spares_publish {d : Draft} {audience : Audience} : (publish i d audience).Every Spares :=
  every_publish (fun _ => spares_beginPublish) (fun _ _ => .report _ _) fun _ => rfl

theorem spares_subscribe {filters : List FilterRequest} {audience : Audience} :
    (subscribe i filters audience).Every Spares :=
  every_subscribe (fun _ => spares_beginRequest) (fun _ _ => .report _ _) fun c text =>
    Spares.confirm (c := c.present i _) audience text

theorem spares_unsubscribe {filters : List String} {audience : Audience} :
    (unsubscribe i filters audience).Every Spares :=
  every_unsubscribe (fun _ => spares_beginRequest) (fun _ _ => .report _ _) fun c text =>
    Spares.confirm (c := c.present i _) audience text

theorem spares_connect {p : Profile} {token : Option String} : (connect i p token).Every Spares :=
  every_connect .refl (fun _ => spares_beginConnect) (fun _ _ => rfl) (fun _ _ => rfl)
    (fun _ => rfl) (fun _ _ => rfl) fun _ _ => spares_adopt

theorem spares_react {event : TransportEvent} : (react i session event).Every Spares :=
  every_react (fun _ => spares_acceptConnected) (fun _ => spares_countAttempt) spares_disconnect
    (fun _ => rfl) (fun _ _ => spares_onError) (fun _ _ => spares_onClose)
    (fun _ _ => spares_onMessage) fun _ _ => spares_onEnded

/-- No call of a connection touches the ledger. -/
theorem Call.spares (call : Connection.Call) : (call.program i).Every Spares := by
  cases call with
  | connect p token => exact spares_connect
  | disconnect => exact spares_disconnect
  | destroy => exact spares_destroy
  | publish d audience => exact spares_publish
  | subscribe filters audience => exact spares_subscribe
  | unsubscribe filters audience => exact spares_unsubscribe
  | clear | read | setRenderMode mode => exact every_change fun _ => rfl
  | forget filter => exact every_change fun _ => spares_forget

end Connection

/-! ## Finding connections -/

namespace Console

variable {id : ConnectionId} {α : Type}

theorem spares_ensure (c : Console) (p : Profile) : Spares c (c.ensure p).2 := by
  unfold ensure
  split <;> rfl

theorem spares_configure (c : Console) (p : Profile) : Spares c (c.configure p) := by
  unfold configure
  split <;> rfl

theorem spares_getOrCreate {p : Option Profile} : (getOrCreate id p).Every Spares :=
  every_getOrCreate .refl fun p c => spares_ensure c p

theorem spares_withConnection {act : ConnectionRef → Operation (Result α)}
    (acts : ∀ i, (act i).Every Spares) : (withConnection id act).Every Spares :=
  every_withConnection .refl (fun p c => spares_ensure c p) acts

theorem spares_destroy : (destroy id).Every Spares :=
  every_destroy (fun _ => rfl) fun _ => Connection.spares_destroy

theorem spares_select : (select id).Every Spares :=
  every_select .refl (fun p c => spares_ensure c p) fun _ _ => rfl

theorem spares_connect {token : Option String} : (connect id token).Every Spares := by
  refine every_look_bind .refl fun held => ?_
  split
  · trivial
  · refine every_look_bind .refl fun p => ?_
    cases p with
    | none => trivial
    | some p => exact spares_withConnection fun _ => Connection.spares_connect

theorem spares_disconnect : (disconnect id).Every Spares :=
  every_disconnect .refl (fun p c => spares_ensure c p) fun _ => Connection.spares_disconnect

theorem spares_unsubscribe {filters : List String} {audience : Audience} :
    (unsubscribe id filters audience).Every Spares :=
  spares_withConnection fun _ => Connection.spares_unsubscribe

theorem spares_reportAll {success failure : String} {result : Result Unit} :
    (reportAll success failure result).Every Spares := every_reportAll .refl fun _ _ _ => rfl

theorem spares_unsubscribeAll : (unsubscribeAll id).Every Spares :=
  every_unsubscribeAll .refl (fun p c => spares_ensure c p) (fun _ _ _ => rfl) fun _ _ =>
    Connection.spares_unsubscribe

theorem spares_locally {change : ConnectionRef → Console → Console}
    (h : ∀ i c, Spares c (change i c)) : (locally id change).Every Spares :=
  every_locally .refl (fun p c => spares_ensure c p) h

/-! ## The connection that is found -/

/-- The connection that a call finds for an id: the one in use, or a new one for its profile. -/
def found (c : Console) (id : ConnectionId) : Connection :=
  match c.current? id with
  | some i => c.connection i
  | none => .ofProfile ((c.profile? id).getD default)

/-- A call that needs a connection finds it, and nothing else has happened until then. -/
theorem withConnection_found {s s' : Scene} {act : ConnectionRef → Operation (Result α)}
    {a : Result α} (h : (withConnection id act).Runs s a s') :
    (a = .error (.connectionNotFound id) ∧ s' = s) ∨
    ∃ i middle, s.console.Spares middle.console ∧ middle.exchanges = s.exchanges ∧
      middle.console.current? id = some i ∧ middle.console.connection i = s.console.found id ∧
      (act i).Runs middle a s' := by
  rcases withConnection_cases h with ⟨rfl, -, -, rfl⟩ | ⟨i, middle, run, finds, h⟩
  · exact Or.inl ⟨rfl, rfl⟩
  · have spared : s.console.Spares middle.console := spares_getOrCreate.runs run .refl .trans
    have silent : middle.exchanges = s.exchanges := silent_getOrCreate.exchanges run
    refine Or.inr ⟨i, middle, spared, silent, finds.used, ?_, h⟩
    simp only [getOrCreate, Program.bind_eq, runs_look_bind_iff] at run
    split at run
    · next j used =>
        rcases runs_done_iff.1 run with ⟨⟨⟩, rfl⟩
        rw [found, used]
    · next unused =>
        cases known : s.console.profile? id with
        | none =>
            rw [known] at run
            cases (runs_done_iff.1 run).1
        | some p =>
            have named : p.id = id := Register.id_of_profile? (R := s.console.register) known
            rw [known] at run
            simp only [runs_bind_iff, runs_atomically_iff, Program.pure_eq, runs_done_iff] at run
            rcases run with ⟨_, _, ⟨rfl, rfl⟩, ⟨⟩, rfl⟩
            subst named
            -- The new connection is the last one.
            simp [found, unused, known, ensure, connection]

theorem profile_connection_of_keeps {c c' : Console} (h : Keeps c c') (i : ConnectionRef) :
    (c'.connection i).profile = (c.connection i).profile := by
  have card : ∀ c : Console,
      (c.connection i).card = c.register.cards.getD i (Connection.card default) := by
    intro c
    simp only [register, connection, List.getD_eq_getElem?_getD, List.getElem?_map]
    cases c.connections[i]? <;> rfl
  have same : (c'.connection i).card = (c.connection i).card := by
    rw [card, card, h]
  exact congrArg Card.profile same

end Console

end DeviceConsole
