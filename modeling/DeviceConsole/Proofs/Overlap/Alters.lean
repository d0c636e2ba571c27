import DeviceConsole.Proofs.Footprint
import DeviceConsole.Proofs.Shadow.Lookup

/-!
# The connection that an operation is about

The operations of a connection leave all other connections alone, and most of them leave its session
alone as well.  This file defines:

* `Console.Alters i rel`, the changes that alter at most one connection, and that one by `rel`;
* `Connection.Lasting`, `Connection.Steady`, `Connection.Fading` and `Connection.Calm`, such
  relations: a destroyed connection stays so; the session stays; no filter becomes live; what is
  over stays over;
* one lemma for each small change and for each operation, with the strongest of them that holds.
-/

namespace DeviceConsole

open Operation

/-! ## Changes of one connection -/

/-- Whether two lists differ in at most one place, and there in a given way. -/
structure AltersAt {α : Type} [Inhabited α] (i : Nat) (rel : α → α → Prop) (xs ys : List α) :
    Prop where
  length : ys.length = xs.length
  others : ∀ j, j ≠ i → ys.getD j default = xs.getD j default
  own : rel (xs.getD i default) (ys.getD i default)

/-- Whether a change alters at most one connection, in a given way. -/
def Console.Alters (i : ConnectionRef) (rel : Connection → Connection → Prop) (c c' : Console) :
    Prop := AltersAt i rel c.connections c'.connections

namespace Console

variable {i j : ConnectionRef} {c : Console} {change : Connection → Connection}

theorem connection_update_self (hi : i < c.connections.length) :
    (c.update i change).connection i = change (c.connection i) := by
  simp [connection, update, hi]

theorem connection_update_of_ne (differs : j ≠ i) :
    (c.update i change).connection j = c.connection j := by
  simp [connection, update, List.getD_eq_getElem?_getD, Ne.symm differs]

/-- A reference to no connection stands for a new one. -/
theorem lt_of_ne_default (known : c.connection i ≠ default) : i < c.connections.length := by
  rcases Nat.lt_or_ge i c.connections.length with inside | beyond
  · exact inside
  · exact absurd (by simp [connection, beyond]) known

/-- A reference to no connection stands for a new one, before and after every change. -/
theorem connection_update_induction {P : Connection → Prop} (fresh : P default)
    (changed : ∀ x, P (change x)) : P ((c.update i change).connection i) := by
  by_cases hi : i < c.connections.length
  · rw [connection_update_self hi]
    exact changed _
  · have absent : (c.update i change).connection i = default := by
      simp [connection, update, Nat.not_lt.1 hi]
    rw [absent]
    exact fresh

namespace Alters

variable {rel wider : Connection → Connection → Prop} {c' c'' : Console}

theorem length (h : Alters i rel c c') : c'.connections.length = c.connections.length :=
  AltersAt.length h

theorem others (h : Alters i rel c c') (differs : j ≠ i) : c'.connection j = c.connection j :=
  AltersAt.others h j differs

theorem own (h : Alters i rel c c') : rel (c.connection i) (c'.connection i) := AltersAt.own h

theorem refl (still : ∀ x, rel x x) (c : Console) : Alters i rel c c :=
  ⟨rfl, fun _ _ => rfl, still _⟩

theorem trans (further : ∀ {x y z}, rel x y → rel y z → rel x z) (first : Alters i rel c c')
    (second : Alters i rel c' c'') : Alters i rel c c'' where
  length := second.length.trans first.length
  others _ differs := (second.others differs).trans (first.others differs)
  own := further first.own second.own

theorem mono (implies : ∀ {x y}, rel x y → wider x y) (h : Alters i rel c c') :
    Alters i wider c c' := ⟨h.length, AltersAt.others h, implies h.own⟩

theorem update (still : ∀ x, rel x x) (h : rel (c.connection i) (change (c.connection i))) :
    Alters i rel c (c.update i change) := by
  refine ⟨List.length_modify .., fun j differs => connection_update_of_ne differs, ?_⟩
  by_cases hi : i < c.connections.length
  · have own : rel (c.connection i) ((c.update i change).connection i) := by
      rw [connection_update_self hi]
      exact h
    exact own
  · -- A reference to no connection changes nothing.
    have same : (c.update i change).connection i = c.connection i := by
      simp [connection, Console.update, hi]
    have own : rel (c.connection i) ((c.update i change).connection i) := by
      rw [same]
      exact still _
    exact own

end Alters

end Console

theorem Console.Outside.length {c c' : Console} (h : c.Outside c') :
    c'.connections.length = c.connections.length := by
  cases h <;> rfl

theorem Console.Outside.connection {i : ConnectionRef} {c c' : Console} (h : c.Outside c') :
    c'.connection i = c.connection i := by
  cases h <;> rfl

/-! ## Live filters -/

/-- Whether a connection is over, as observers see it: destroyed, and without live filters. -/
structure Snapshot.Spent (s : Snapshot) : Prop where
  status : s.status = .destroyed
  bare : s.active = []

namespace Snapshot

variable {s : Snapshot} {live : KeyMap Bool}

theorem active_eq_nil_iff : s.active = [] ↔ ∀ entry ∈ s.live.entries, entry.2 = false := by
  simp [active, List.filter_eq_nil_iff]

theorem mem_active_iff {filter : String} : filter ∈ s.active ↔ (filter, true) ∈ s.live.entries := by
  simp [active]

theorem active_erase (filter : String) :
    ({ s with live := s.live.erase filter } : Snapshot).active ⊆ s.active := by
  intro other member
  rw [mem_active_iff] at member ⊢
  exact (List.mem_filter.1 member).1

/-- A mark is all that becomes of a filter. -/
theorem mem_mark {mark : Bool} {filters : List String} {entry : String × Bool}
    (member : entry ∈ (s.mark mark filters).live.entries) :
    entry ∈ s.live.entries ∨ entry.1 ∈ filters ∧ entry.2 = mark := by
  simp only [Snapshot.mark] at member
  generalize s.live = live at member ⊢
  induction filters generalizing live with
  | nil => exact Or.inl member
  | cons filter rest ih =>
      rcases ih (live.insert filter mark) member with before | ⟨later, same⟩
      · rcases KeyList.mem_insert before with rfl | before
        · exact Or.inr ⟨List.mem_cons_self, rfl⟩
        · exact Or.inl before
      · exact Or.inr ⟨List.mem_cons_of_mem _ later, same⟩

theorem active_mark_false (filters : List String) : (s.mark false filters).active ⊆ s.active := by
  intro filter member
  rw [mem_active_iff] at member ⊢
  rcases mem_mark member with before | ⟨-, revoked⟩
  · exact before
  · cases revoked

/-- Only the filters that were granted become live. -/
theorem mem_active_mark_true {filters : List String} {filter : String}
    (member : filter ∈ (s.mark true filters).active) : filter ∈ filters ∨ filter ∈ s.active := by
  rw [mem_active_iff] at member ⊢
  exact (mem_mark member).symm.imp_left And.left

/-- A filter that was granted is live. -/
theorem active_mark_true (filters : List String) (nonempty : filters ≠ []) :
    (s.mark true filters).active ≠ [] := by
  -- By the last filter: no later one takes it back.
  have live : ∀ (filters : List String) (live : KeyMap Bool) key, live.get? key = some true →
      (filters.foldl (fun live filter => live.insert filter true) live).get? key = some true := by
    intro filters
    induction filters with
    | nil => exact fun _ _ h => h
    | cons filter rest ih =>
        intro live key h
        refine ih _ key ?_
        rw [KeyMap.get?_insert]
        split
        · rfl
        · exact h
  cases filters with
  | nil => exact absurd rfl nonempty
  | cons filter rest =>
      have granted := live rest (s.live.insert filter true) filter (by simp)
      intro bare
      rw [active_eq_nil_iff] at bare
      have revoked := bare (filter, true) (KeyList.mem_of_get? granted)
      cases revoked

end Snapshot

/-! ## Ways to alter a connection -/

namespace Connection

def Lasting (x y : Connection) : Prop := x.destroyed = true → y.destroyed = true

/-- The session stays, too. -/
structure Steady (x y : Connection) : Prop where
  lasting : x.Lasting y
  session : y.session = x.session

/-- No filter becomes live, either. -/
structure Fading (x y : Connection) : Prop extends Steady x y where
  active : y.snapshot.active ⊆ x.snapshot.active

/-- The state of a connection that is over stays, too. -/
structure Calm (x y : Connection) : Prop extends Fading x y where
  status : x.snapshot.status = .destroyed → y.snapshot.status = .destroyed

theorem Lasting.refl (x : Connection) : x.Lasting x := fun h => h

theorem Steady.refl (x : Connection) : x.Steady x := ⟨.refl x, rfl⟩

theorem Fading.refl (x : Connection) : x.Fading x := ⟨.refl x, List.Subset.refl _⟩

theorem Calm.refl (x : Connection) : x.Calm x := ⟨.refl x, fun h => h⟩

variable {x y z : Connection}

theorem Lasting.trans (first : x.Lasting y) (second : y.Lasting z) : x.Lasting z :=
  fun h => second (first h)

theorem Steady.trans (first : x.Steady y) (second : y.Steady z) : x.Steady z :=
  ⟨first.lasting.trans second.lasting, second.session.trans first.session⟩

theorem Fading.trans (first : x.Fading y) (second : y.Fading z) : x.Fading z :=
  ⟨first.toSteady.trans second.toSteady, List.Subset.trans second.active first.active⟩

theorem Calm.trans (first : x.Calm y) (second : y.Calm z) : x.Calm z :=
  ⟨first.toFading.trans second.toFading, fun h => second.status (first.status h)⟩

/-- What is over stays over. -/
theorem Calm.spent (h : x.Calm y) (spent : x.snapshot.Spent) : y.snapshot.Spent where
  status := h.status spent.status
  bare := List.subset_nil.1 (spent.bare ▸ h.active)

/-! ### Up to the next request -/

section

variable {α : Type} {i : ConnectionRef} {p : Operation α}

theorem settle_lasting (h : p.Every (Console.Alters i Lasting)) (c : Console) :
    c.Alters i Lasting (p.settle c).2 ∧ (p.settle c).1.Every (Console.Alters i Lasting) :=
  h.settle (.refl Lasting.refl) (.trans Lasting.trans) c

theorem settle_steady (h : p.Every (Console.Alters i Steady)) (c : Console) :
    c.Alters i Steady (p.settle c).2 ∧ (p.settle c).1.Every (Console.Alters i Steady) :=
  h.settle (.refl Steady.refl) (.trans Steady.trans) c

theorem settle_fading (h : p.Every (Console.Alters i Fading)) (c : Console) :
    c.Alters i Fading (p.settle c).2 ∧ (p.settle c).1.Every (Console.Alters i Fading) :=
  h.settle (.refl Fading.refl) (.trans Fading.trans) c

theorem settle_calm (h : p.Every (Console.Alters i Calm)) (c : Console) :
    c.Alters i Calm (p.settle c).2 ∧ (p.settle c).1.Every (Console.Alters i Calm) :=
  h.settle (.refl Calm.refl) (.trans Calm.trans) c

end

/-! ### Small changes -/

variable {i : ConnectionRef} {c : Console} {session : SessionId}

theorem steady_present {change : Snapshot → Snapshot} : c.Alters i Steady (c.present i change) :=
  .update Steady.refl ⟨.refl _, rfl⟩

theorem fading_present {change : Snapshot → Snapshot}
    (active : (change (c.connection i).snapshot).active ⊆ (c.connection i).snapshot.active) :
    c.Alters i Fading (c.present i change) := .update Fading.refl ⟨⟨.refl _, rfl⟩, active⟩

theorem calm_present {change : Snapshot → Snapshot}
    (status : (c.connection i).snapshot.status = .destroyed →
      (change (c.connection i).snapshot).status = .destroyed)
    (active : (change (c.connection i).snapshot).active ⊆ (c.connection i).snapshot.active) :
    c.Alters i Calm (c.present i change) :=
  .update Calm.refl ⟨⟨⟨.refl _, rfl⟩, active⟩, status⟩

/-- Most of what observers see has nothing to do with whether a connection is over. -/
theorem calm_present_aside {change : Snapshot → Snapshot}
    (status : ∀ s, (change s).status = s.status) (live : ∀ s, (change s).live = s.live) :
    c.Alters i Calm (c.present i change) := by
  refine calm_present (fun gone => (status _).trans gone) ?_
  rw [Snapshot.active, live]
  exact List.Subset.refl _

theorem calm_report (audience : Audience) (text : String) :
    c.Alters i Calm (c.report audience text) := by
  cases audience <;> exact .refl Calm.refl c

theorem lasting_beginConnect : c.Alters i Lasting (beginConnect i c).2 := by
  unfold beginConnect
  dsimp only
  split
  · exact .refl Lasting.refl c
  · split
    · exact .refl Lasting.refl c
    · exact .update (c := c.holdGate) Lasting.refl (.refl _)

theorem lasting_restoreSession : c.Alters i Lasting (restoreSession i session c) :=
  .update (c := c) Lasting.refl (.refl _)

theorem fading_prepare {p : Profile} {token : Option String} :
    c.Alters i Fading (prepare i p token c).2 :=
  .update (c := c) Fading.refl ⟨⟨.refl _, rfl⟩, List.nil_subset _⟩

theorem fading_failOpen {error : TransportError} : c.Alters i Fading (failOpen i error c) :=
  fading_present (c := c) (List.Subset.refl _)

theorem lasting_adopt : c.Alters i Lasting (adopt i session c).2 := by
  unfold adopt
  split
  · exact .refl Lasting.refl c
  · exact .update (c := c) Lasting.refl (.refl _)

theorem calm_beginDisconnect : c.Alters i Calm (beginDisconnect i c).2 := by
  unfold beginDisconnect
  dsimp only
  split
  · exact .refl Calm.refl c
  · dsimp only
    split
    · next active =>
        -- Only an active state is announced, and a connection that is over has none.
        refine calm_present (fun gone => ?_) (List.Subset.refl _)
        rw [gone] at active
        cases active
    · exact .refl Calm.refl c

theorem calm_emptied :
    c.Alters i Calm (c.present i fun s => { s with retryCount := 0, live := .empty }) :=
  calm_present (fun gone => gone) (List.nil_subset _)

theorem calm_failDisconnect {previous : ConnectionStatus} {error : TransportError} :
    c.Alters i Calm (failDisconnect i previous error c) := by
  refine calm_present (c := c) (fun gone => ?_) (List.Subset.refl _)
  simp [gone]

theorem lasting_beginDestroy : c.Alters i Lasting (beginDestroy i c).2 := by
  unfold beginDestroy
  dsimp only
  split
  · exact .refl Lasting.refl c
  · exact .update Lasting.refl fun _ => rfl

theorem calm_finishDestroy {previous : ConnectionStatus} :
    c.Alters i Calm (finishDestroy i previous c) := by
  unfold finishDestroy
  split
  · exact calm_present (c := c.releaseGate) (fun _ => rfl) (List.nil_subset _)
  · exact calm_present (fun _ => rfl) (List.nil_subset _)

theorem calm_logMessage {m : Message} : c.Alters i Calm (logMessage i m c) :=
  calm_present_aside (fun _ => rfl) fun _ => rfl

theorem calm_beginPublish {d : Draft} {audience : Audience} :
    c.Alters i Calm (beginPublish i d audience c).2 := by
  simp only [beginPublish]
  split
  · exact .refl Calm.refl c
  · split
    · exact .refl Calm.refl c
    · split
      · exact .refl Calm.refl c
      · split
        · exact .refl Calm.refl c
        · split
          · exact calm_report (c := c.notifyAll _) _ _
          · exact .refl Calm.refl c

theorem calm_finishPublish {d : Draft} : c.Alters i Calm (finishPublish i d c) := by
  have edited : ∀ defaults, c.Alters i Calm
      (c.update i fun connection => { connection with profile.publishDefaults := defaults }) :=
    fun _ => .update Calm.refl ⟨⟨⟨.refl _, rfl⟩, List.Subset.refl _⟩, fun gone => gone⟩
  exact (edited _).trans Calm.trans calm_logMessage

theorem calm_beginRequest {count : Nat} : c.Alters i Calm (beginRequest i count c).2 := by
  simp only [beginRequest]
  split
  · exact .refl Calm.refl c
  · split
    · exact .refl Calm.refl c
    · split <;> exact .refl Calm.refl c

theorem fading_acceptConnected : c.Alters i Fading (acceptConnected i session c).2 := by
  have up : c.Alters i Fading (c.update i fun connection =>
      { connection with token := none }.present fun s =>
        { s with status := .connected, retryCount := 0 }) :=
    .update Fading.refl ⟨⟨.refl _, rfl⟩, List.Subset.refl _⟩
  simp only [acceptConnected]
  split
  · split
    · exact up
    · exact up
  · exact .refl Fading.refl c

theorem fading_countAttempt : c.Alters i Fading (countAttempt i session c).2 := by
  simp only [countAttempt]
  split
  · split
    · exact fading_present (c := c) (List.Subset.refl _)
    · exact .refl Fading.refl c
  · exact .refl Fading.refl c

theorem calm_reset : c.Alters i Calm (c.present i fun s => { s with retryCount := 0 }) :=
  calm_present_aside (fun _ => rfl) fun _ => rfl

theorem fading_onError {reason : String} : c.Alters i Fading (onError i session reason c) := by
  unfold onError
  split
  · exact fading_present (c := c) (List.Subset.refl _)
  · exact .refl Fading.refl c

theorem fading_onClose {reason : Option String} :
    c.Alters i Fading (onClose i session reason c) := by
  unfold onClose
  split
  · cases reason with
    | some reason => exact fading_present (c := c) (List.Subset.refl _)
    | none => exact fading_present (c := c) (List.Subset.refl _)
  · exact .refl Fading.refl c

theorem calm_onMessage {packet : Packet} : c.Alters i Calm (onMessage i session packet c) := by
  simp only [onMessage]
  split
  · exact calm_logMessage (c := c.notifyAll _)
  · exact .refl Calm.refl c

theorem lasting_onEnded : c.Alters i Lasting (onEnded i session c) := by
  have ended : c.Alters i Lasting (c.update i fun connection =>
      { connection with session := none }.present fun s =>
        { s with status := .disconnected, live := .empty }) := .update Lasting.refl (.refl _)
  simp only [onEnded]
  split
  · split
    · exact ended
    · exact ended
  · exact .refl Lasting.refl c

theorem calm_forget {filter : String} : c.Alters i Calm (forget i filter c) := by
  unfold forget
  split
  · exact calm_present (fun gone => gone) (Snapshot.active_erase filter)
  · exact .refl Calm.refl c

/-! ### Operations -/

theorem lasting_connect {p : Profile} {token : Option String} :
    (connect i p token).Every (Console.Alters i Lasting) :=
  every_connect (.refl Lasting.refl) (fun _ => lasting_beginConnect)
    (fun _ _ => lasting_restoreSession) (fun c _ => .refl Lasting.refl c)
    (fun _ => fading_prepare.mono fun fading => fading.lasting)
    (fun _ _ => fading_failOpen.mono fun fading => fading.lasting) fun _ _ => lasting_adopt

theorem calm_disconnect : (disconnect i).Every (Console.Alters i Calm) :=
  every_disconnect (fun _ => calm_beginDisconnect) (fun _ => calm_emptied) fun _ _ _ =>
    calm_failDisconnect

theorem lasting_destroy : (destroy i).Every (Console.Alters i Lasting) :=
  every_destroy (fun _ => lasting_beginDestroy) fun _ _ =>
    calm_finishDestroy.mono fun calm => calm.lasting

theorem calm_publish {d : Draft} {audience : Audience} :
    (publish i d audience).Every (Console.Alters i Calm) :=
  every_publish (fun _ => calm_beginPublish) (fun _ _ => calm_report _ _) fun _ =>
    calm_finishPublish

theorem steady_subscribe {filters : List FilterRequest} {audience : Audience} :
    (subscribe i filters audience).Every (Console.Alters i Steady) := by
  refine every_subscribe (fun _ => calm_beginRequest.mono fun calm => calm.toSteady)
    (fun _ _ => (calm_report _ _).mono fun calm => calm.toSteady) fun c text => ?_
  cases audience <;> exact steady_present (c := c)

theorem calm_unsubscribe {filters : List String} {audience : Audience} :
    (unsubscribe i filters audience).Every (Console.Alters i Calm) := by
  refine every_unsubscribe (fun _ => calm_beginRequest) (fun _ _ => calm_report _ _) ?_
  intro c text
  have revoked : c.Alters i Calm (c.present i (Snapshot.mark false filters)) :=
    calm_present (fun gone => gone) (Snapshot.active_mark_false filters)
  cases audience <;> exact revoked

/-- Whether a call changes no more of a connection that is over than its log. -/
def Call.Plain : Connection.Call → Prop
  | connect _ _ => False
  | destroy => False
  | subscribe _ _ => False
  | _ => True

theorem Call.calm_program {call : Connection.Call} (plain : call.Plain) :
    (call.program i).Every (Console.Alters i Calm) := by
  cases call with
  | connect | destroy | subscribe => exact plain.elim
  | disconnect => exact calm_disconnect
  | publish => exact calm_publish
  | unsubscribe => exact calm_unsubscribe
  | clear | read | setRenderMode =>
      exact every_change fun _ => calm_present_aside (fun _ => rfl) fun _ => rfl
  | forget => exact every_change fun _ => calm_forget

/-- Every call leaves a destroyed connection destroyed. -/
theorem Call.lasting_program (call : Connection.Call) :
    (call.program i).Every (Console.Alters i Lasting) := by
  by_cases plain : call.Plain
  · exact (calm_program plain).mono fun _ _ => .mono fun calm => calm.lasting
  · cases call with
    | connect => exact lasting_connect
    | destroy => exact lasting_destroy
    | subscribe => exact steady_subscribe.mono fun _ _ => .mono Steady.lasting
    | _ => exact absurd trivial plain

/-- Only the end of a session takes it from the connection, and no event makes a filter live. -/
theorem fading_react {event : TransportEvent} (going : event ≠ .ended) :
    (react i session event).Every (Console.Alters i Fading) :=
  every_react (fun _ => fading_acceptConnected) (fun _ => fading_countAttempt)
    (calm_disconnect.mono fun _ _ => .mono Calm.toFading) (fun _ => calm_reset.mono Calm.toFading)
    (fun _ _ => fading_onError) (fun _ _ => fading_onClose)
    (fun _ _ => calm_onMessage.mono Calm.toFading) fun ended => absurd ended going

theorem lasting_react {event : TransportEvent} :
    (react i session event).Every (Console.Alters i Lasting) := by
  by_cases ended : event = .ended
  · subst ended
    exact every_change fun _ => lasting_onEnded
  · exact (fading_react ended).mono fun _ _ => .mono fun fading => fading.lasting

/-- Once an event was taken note of, what is left to do about it is calm. -/
theorem calm_settle_react {event : TransportEvent} :
    ((react i session event).settle c).1.Every (Console.Alters i Calm) := by
  have still := Console.Alters.refl (i := i) Calm.refl
  cases event with
  | connected =>
      refine every_settle_atomically_bind ?_ still (.trans Calm.trans) c
      rintro (_ | ⟨filter, rest⟩)
      · trivial
      · exact every_ask_bind fun _ => trivial
  | reconnecting =>
      refine every_settle_atomically_bind ?_ still (.trans Calm.trans) c
      rintro (_ | _)
      · trivial
      · refine every_bind calm_disconnect ?_
        rintro (error | _)
        · trivial
        · exact every_change fun _ => calm_reset
  | error | close | message | ended => trivial

end Connection

end DeviceConsole
