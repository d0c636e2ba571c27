import Mathlib.Logic.Function.Basic
import DeviceConsole.Mqtt.Call

/-!
# The waits and the events of a link

Whatever a link does, its waits are kept, or dropped all together, or the oldest of one kind is
ended by an acknowledgement; and the end is the last thing it says.  This file defines:

* `Link.Keeps` and `Link.Drops`, what becomes of the waits when nothing is acknowledged;
* `Link.attend_cases` and `Link.resume_cases`, which of them it is;
* `Link.Acknowledged`, and `Link.Thins`, the changes in which waits only end;
* `Link.Unended` and `Link.Ended`, where the end stands among the events.
-/

namespace DeviceConsole

namespace Mqtt

namespace Link

variable {l l' : Link} {kind : AckKind} {outcome : Outcome}

/-! ## Waits of a kind -/

theorem waits_setWaits (l : Link) (kind : AckKind) (ids : List WaitId) :
    (l.setWaits kind ids).waits = Function.update l.waits kind ids := by
  funext other
  cases kind <;> cases other <;> rfl

theorem setWaits_eq (l : Link) (kind : AckKind) (ids : List WaitId) :
    (l.setWaits kind ids).registered = l.registered ∧
      (l.setWaits kind ids).registering = l.registering ∧
      (l.setWaits kind ids).ended = l.ended ∧ (l.setWaits kind ids).phase = l.phase ∧
      (l.setWaits kind ids).history = l.history := by
  cases kind <;> exact ⟨rfl, rfl, rfl, rfl, rfl⟩

theorem isOver_setWaits (l : Link) (kind : AckKind) (ids : List WaitId) :
    (l.setWaits kind ids).isOver = l.isOver := by
  cases kind <;> rfl

/-! ## Keeping and dropping waits -/

/-- The changes that leave the waits, and how waits ended, as they are. -/
structure Keeps (l l' : Link) : Prop where
  waits : l'.waits = l.waits
  registered : l'.registered = l.registered
  registering : l'.registering = l.registering
  ended : l'.ended = l.ended

/-- The changes that end all waits without an acknowledgement. -/
structure Drops (l l' : Link) : Prop where
  waits : ∀ kind, l'.waits kind = []
  registered : l'.registered = l.registered
  registering : l'.registering = l.registering
  ended : ∃ ids : List WaitId, (∀ id ∈ ids, ∃ kind, id ∈ l.waits kind) ∧
    l'.ended = ids.map (·, .abandoned) ++ l.ended

namespace Keeps

theorem refl (l : Link) : Keeps l l := ⟨rfl, rfl, rfl, rfl⟩

theorem trans {a b c : Link} (first : Keeps a b) (second : Keeps b c) : Keeps a c :=
  ⟨second.waits.trans first.waits, second.registered.trans first.registered,
    second.registering.trans first.registering, second.ended.trans first.ended⟩

theorem drops {a b c : Link} (first : Keeps a b) (second : Drops b c) : Drops a c where
  waits := second.waits
  registered := second.registered.trans first.registered
  registering := second.registering.trans first.registering
  ended := by
    obtain ⟨ids, waiting, ended⟩ := second.ended
    rw [first.waits] at waiting
    rw [first.ended] at ended
    exact ⟨ids, waiting, ended⟩

end Keeps

theorem Drops.keeps {a b c : Link} (first : Drops a b) (second : Keeps b c) : Drops a c where
  waits kind := by rw [second.waits, first.waits]
  registered := second.registered.trans first.registered
  registering := second.registering.trans first.registering
  ended := by rw [second.ended]; exact first.ended

/-- Where nothing waits any more, nothing else is dropped. -/
theorem Drops.trans {a b c : Link} (first : Drops a b) (second : Drops b c) : Drops a c where
  waits := second.waits
  registered := second.registered.trans first.registered
  registering := second.registering.trans first.registering
  ended := by
    obtain ⟨ids, waiting, ended⟩ := second.ended
    have none : ids = [] := by
      refine List.eq_nil_iff_forall_not_mem.2 fun id member => ?_
      obtain ⟨kind, inside⟩ := waiting id member
      rw [first.waits] at inside
      cases inside
    rw [ended, none]
    exact first.ended

theorem keeps_raise (l : Link) (event : TransportEvent) : l.Keeps (l.raise event) :=
  ⟨rfl, rfl, rfl, rfl⟩

theorem drops_abandon (l : Link) : l.Drops l.abandon where
  waits kind := by cases kind <;> rfl
  registered := rfl
  registering := rfl
  ended := by
    refine ⟨l.subscriptions ++ l.unsubscriptions, fun id member => ?_, rfl⟩
    rcases List.mem_append.1 member with member | member
    · exact ⟨.subscription, member⟩
    · exact ⟨.unsubscription, member⟩

theorem drops_stop (l : Link) : l.Drops l.stop :=
  l.drops_abandon.keeps ⟨rfl, rfl, rfl, rfl⟩

theorem goOn_cases (l : Link) :
    l.Keeps l.goOn ∧ l.goOn.isOver = false ∨ l.Drops l.goOn ∧ l.goOn.isOver = true := by
  unfold goOn
  split
  · exact Or.inl ⟨⟨rfl, rfl, rfl, rfl⟩, rfl⟩
  · exact Or.inr ⟨l.drops_stop, rfl⟩

/-- Without a failure or an acknowledgement waits are kept, or the link is over. -/
theorem attend_cases (unfailed : ∀ reason, outcome ≠ .failed reason)
    (unacknowledged : ∀ kind codes, outcome ≠ .acknowledged kind codes) :
    l.Keeps (l.attend outcome) ∧ (l.attend outcome).isOver = false ∨
      l.Drops (l.attend outcome) ∧ (l.attend outcome).isOver = true := by
  have said : ∀ event, l.Keeps (l.raise event).goOn ∧ (l.raise event).goOn.isOver = false ∨
      l.Drops (l.raise event).goOn ∧ (l.raise event).goOn.isOver = true := by
    intro event
    exact (l.raise event).goOn_cases.imp (And.imp_left (l.keeps_raise event).trans)
      (And.imp_left (l.keeps_raise event).drops)
  cases outcome with
  | connected => exact said _
  | refused code => exact said _
  | message packet => exact said _
  | acknowledged kind codes => exact absurd rfl (unacknowledged kind codes)
  | closedByBroker reason => exact said _
  | closedByClient =>
      exact Or.inr ⟨(l.keeps_raise _).drops (drops_stop _), rfl⟩
  | quiet => exact l.goOn_cases
  | failed reason => exact absurd rfl (unfailed reason)

theorem drops_lose (l : Link) (reason : String) : l.Drops (l.lose reason) := by
  have said : l.Drops ((l.abandon.raise (.error reason)).raise (.close none)) :=
    l.drops_abandon.keeps ⟨rfl, rfl, rfl, rfl⟩
  unfold lose
  split
  · exact l.drops_stop
  · -- A link that never connects again stops right after it said what happened.
    dsimp only
    split
    · exact said.trans (drops_stop _)
    · exact said.keeps ⟨rfl, rfl, rfl, rfl⟩

theorem resume_cases (l : Link) :
    l.Keeps l.resume ∧ l.resume.isOver = false ∨ l.Drops l.resume ∧ l.resume.isOver = true := by
  unfold resume
  split
  · exact Or.inr ⟨l.drops_stop, rfl⟩
  · exact (l.raise .reconnecting).goOn_cases.imp (And.imp_left (l.keeps_raise _).trans)
      (And.imp_left (l.keeps_raise _).drops)

/-- An acknowledgement ends the oldest wait of its kind. -/
theorem acknowledge_of_cons {wait : WaitId} {later : List WaitId} (codes : List UInt8)
    (waiting : l.waits kind = wait :: later) :
    (l.acknowledge kind codes).waits = Function.update l.waits kind later ∧
      (l.acknowledge kind codes).registered = l.registered ∧
      (l.acknowledge kind codes).registering = l.registering ∧
      (l.acknowledge kind codes).ended = (wait, .acknowledged codes) :: l.ended := by
  have same := l.setWaits_eq kind later
  rw [acknowledge, waiting]
  exact ⟨l.waits_setWaits kind later, same.1, same.2.1, rfl⟩

theorem isOver_acknowledge (l : Link) (kind : AckKind) (codes : List UInt8) :
    (l.acknowledge kind codes).isOver = l.isOver := by
  rw [acknowledge]
  split
  · rfl
  · exact l.isOver_setWaits kind _

/-! ## How waits ended -/

/-- Whether a wait was ended by an acknowledgement with these codes. -/
def Acknowledged (l : Link) (wait : WaitId) (codes : List UInt8) : Prop :=
  (wait, .acknowledged codes) ∈ l.ended

/-- What a call takes for an acknowledgement is one. -/
theorem acknowledged_of_heard {what : String} {wait : WaitId} {codes : List UInt8}
    (heard : Call.acknowledgement what (l.end? wait) = .ok codes) : l.Acknowledged wait codes := by
  have found : l.end? wait = some (.acknowledged codes) := by
    unfold Call.acknowledgement at heard
    split at heard
    · next codes' found => rw [found, Except.ok.inj heard]
    · cases heard
    · cases heard
  obtain ⟨earlier, later, parted, -⟩ := List.lookup_eq_some_iff.1 found
  rw [Acknowledged, parted]
  exact List.mem_append_right _ List.mem_cons_self

theorem Keeps.acknowledged_iff (h : Keeps l l') {wait : WaitId} {codes : List UInt8} :
    l'.Acknowledged wait codes ↔ l.Acknowledged wait codes := by
  rw [Acknowledged, h.ended, Acknowledged]

/-- Waits that are dropped are not acknowledged. -/
theorem Drops.acknowledged_iff (h : Drops l l') {wait : WaitId} {codes : List UInt8} :
    l'.Acknowledged wait codes ↔ l.Acknowledged wait codes := by
  obtain ⟨ids, -, ended⟩ := h.ended
  rw [Acknowledged, ended, Acknowledged, List.mem_append, List.mem_map]
  constructor
  · rintro (⟨id, -, same⟩ | member)
    · cases same
    · exact member
  · exact Or.inr

/-! ## Waits only end -/

/-- The changes in which no wait is registered, and only what waits is acknowledged. -/
structure Thins (l l' : Link) : Prop where
  registered : l'.registered = l.registered
  registering : l'.registering = l.registering
  stays : ∀ wait codes, l.Acknowledged wait codes → l'.Acknowledged wait codes
  waits : ∀ kind, ∀ wait ∈ l'.waits kind, wait ∈ l.waits kind
  acknowledged : ∀ wait codes, l'.Acknowledged wait codes →
    l.Acknowledged wait codes ∨ ∃ kind, wait ∈ l.waits kind

theorem Keeps.thins (h : Keeps l l') : Thins l l' where
  registered := h.registered
  registering := h.registering
  stays _ _ := h.acknowledged_iff.2
  waits _ _ := h.waits ▸ id
  acknowledged _ _ found := Or.inl (h.acknowledged_iff.1 found)

theorem Drops.thins (h : Drops l l') : Thins l l' where
  registered := h.registered
  registering := h.registering
  stays _ _ := h.acknowledged_iff.2
  waits kind wait member := by
    rw [h.waits] at member
    cases member
  acknowledged _ _ found := Or.inl (h.acknowledged_iff.1 found)

theorem Thins.trans {a b c : Link} (first : Thins a b) (second : Thins b c) : Thins a c where
  registered := second.registered.trans first.registered
  registering := second.registering.trans first.registering
  stays wait codes found := second.stays wait codes (first.stays wait codes found)
  waits kind wait member := first.waits kind wait (second.waits kind wait member)
  acknowledged wait codes found := by
    rcases second.acknowledged wait codes found with before | ⟨kind, waiting⟩
    · exact first.acknowledged wait codes before
    · exact Or.inr ⟨kind, first.waits kind wait waiting⟩

theorem thins_acknowledge (l : Link) (kind : AckKind) (codes : List UInt8) :
    l.Thins (l.acknowledge kind codes) := by
  cases waiting : l.waits kind with
  | nil =>
      rw [acknowledge, waiting]
      exact (Keeps.refl l).thins
  | cons first later =>
      obtain ⟨waits, registered, registering, ended⟩ := acknowledge_of_cons codes waiting
      refine ⟨registered, registering, fun wait other found => ?_, fun other wait member => ?_,
        fun wait other found => ?_⟩
      · rw [Acknowledged, ended]
        exact List.mem_cons_of_mem _ found
      · rw [waits] at member
        by_cases same : other = kind
        · subst same
          rw [Function.update_self] at member
          exact waiting ▸ List.mem_cons_of_mem first member
        · rwa [Function.update_of_ne same] at member
      · rw [Acknowledged, ended] at found
        rcases List.mem_cons.1 found with same | before
        · cases same
          exact Or.inr ⟨kind, waiting ▸ List.mem_cons_self⟩
        · exact Or.inl before

/-- What a link sees ends at most one wait, before the waits are kept or dropped. -/
theorem exists_thins_attend (l : Link) (outcome : Outcome) :
    ∃ first, l.Thins first ∧
      (first.Keeps (l.attend outcome) ∧ (l.attend outcome).isOver = false ∧
          (∀ reason, outcome ≠ .failed reason) ∨ first.Drops (l.attend outcome)) := by
  by_cases failed : ∃ reason, outcome = .failed reason
  · obtain ⟨reason, rfl⟩ := failed
    exact ⟨l, (Keeps.refl l).thins, Or.inr (l.drops_lose reason)⟩
  have unfailed := not_exists.1 failed
  by_cases acknowledged : ∃ kind codes, outcome = .acknowledged kind codes
  · obtain ⟨kind, codes, rfl⟩ := acknowledged
    exact ⟨l.acknowledge kind codes, l.thins_acknowledge kind codes,
      (goOn_cases _).imp (fun ⟨keeps, going⟩ => ⟨keeps, going, unfailed⟩) And.left⟩
  · have unacknowledged : ∀ kind codes, outcome ≠ .acknowledged kind codes :=
      fun kind codes same => acknowledged ⟨kind, codes, same⟩
    exact ⟨l, (Keeps.refl l).thins, (attend_cases unfailed unacknowledged).imp
      (fun ⟨keeps, going⟩ => ⟨keeps, going, unfailed⟩) And.left⟩

theorem thins_attend (l : Link) (outcome : Outcome) : l.Thins (l.attend outcome) := by
  obtain ⟨first, thins, ⟨keeps, -⟩ | drops⟩ := l.exists_thins_attend outcome
  · exact thins.trans keeps.thins
  · exact thins.trans drops.thins

theorem thins_resume (l : Link) : l.Thins l.resume := by
  rcases l.resume_cases with ⟨keeps, -⟩ | ⟨drops, -⟩
  · exact keeps.thins
  · exact drops.thins

/-- Nothing waits any more when the connection fails, or the link comes to its end. -/
theorem attend_waits_eq_nil
    (interrupted : (∃ reason, outcome = .failed reason) ∨ (l.attend outcome).isOver = true)
    (kind : AckKind) : (l.attend outcome).waits kind = [] := by
  obtain ⟨first, -, ⟨-, going, unfailed⟩ | drops⟩ := l.exists_thins_attend outcome
  · rcases interrupted with ⟨reason, failed⟩ | finished
    · exact absurd failed (unfailed reason)
    · exact Bool.noConfusion (going.symm.trans finished)
  · exact drops.waits kind

theorem resume_waits_eq_nil (finished : l.resume.isOver = true) (kind : AckKind) :
    l.resume.waits kind = [] := by
  rcases l.resume_cases with ⟨-, going⟩ | ⟨drops, -⟩
  · exact Bool.noConfusion (going.symm.trans finished)
  · exact drops.waits kind

/-! ## Events -/

/-- Whether the end was not said yet. -/
def Unended (l : Link) : Prop := l.isOver = false ∧ .ended ∉ l.history

/-- Whether the end was said once, after everything else. -/
def Ended (l : Link) : Prop :=
  l.isOver = true ∧ ∃ earlier, l.events = earlier ++ [.ended] ∧ .ended ∉ earlier

theorem Unended.raise (h : Unended l) {event : TransportEvent} (other : event ≠ .ended) :
    Unended (l.raise event) :=
  ⟨h.1, fun member => (List.mem_cons.1 member).elim (fun same => other same.symm) h.2⟩

theorem Unended.stop (h : Unended l) : Ended l.stop := by
  refine ⟨rfl, l.events, ?_, fun member => h.2 (List.mem_reverse.1 member)⟩
  exact List.reverse_cons

theorem Unended.goOn (h : Unended l) : Unended l.goOn ∨ Ended l.goOn := by
  unfold Link.goOn
  split
  · exact Or.inl ⟨rfl, h.2⟩
  · exact Or.inr h.stop

theorem Unended.lose (h : Unended l) (reason : String) :
    Unended (l.lose reason) ∨ Ended (l.lose reason) := by
  have said : Unended ((l.abandon.raise (.error reason)).raise (.close none)) := by
    have abandoned : Unended l.abandon := h
    exact (abandoned.raise (by simp)).raise (by decide)
  unfold Link.lose
  split
  · exact Or.inr h.stop
  · dsimp only
    split
    · exact Or.inr said.stop
    · exact Or.inl ⟨rfl, said.2⟩

/-- Whatever it sees, a link says its end at most once, and then nothing more. -/
theorem Unended.attend (h : Unended l) (outcome : Outcome) :
    Unended (l.attend outcome) ∨ Ended (l.attend outcome) := by
  cases outcome with
  | connected => exact (h.raise (by decide)).goOn
  | refused code => exact (h.raise (by simp)).goOn
  | message packet => exact (h.raise (by simp)).goOn
  | acknowledged kind codes =>
      refine Unended.goOn ⟨(l.isOver_acknowledge kind codes).trans h.1, ?_⟩
      rw [acknowledge]
      split
      · exact h.2
      · exact (l.setWaits_eq kind _).2.2.2.2 ▸ h.2
  | closedByBroker reason => exact (h.raise (by simp)).goOn
  | closedByClient => exact Or.inr (h.raise (by simp)).stop
  | quiet => exact h.goOn
  | failed reason => exact h.lose reason

theorem Unended.resume (h : Unended l) : Unended l.resume ∨ Ended l.resume := by
  unfold Link.resume
  split
  · exact Or.inr h.stop
  · exact (h.raise (by decide)).goOn

end Link

end Mqtt

end DeviceConsole
