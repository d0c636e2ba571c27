import DeviceConsole.Proofs.Mqtt.Wire

/-!
# Where callers stand

A call that waits for acknowledgements waits first for its turn, then for the client to take each of
its requests, then for each acknowledgement.  This file defines:

* `Form.Stands`, at which of these places a call can be, and what has happened by then;
* `Apart`, the calls that have nothing to do with waits, and `Caller.Stands`, for any call;
* `Caller.Turned` and `Caller.Goes`, what a turn of a call does to the waits of the link;
* one theorem for each happening that lets a call go on: `Caller.turned_turn`, `Caller.turned_hear`
  and `Caller.turned_wake`.
-/

namespace DeviceConsole

namespace Mqtt

/-! ## What calls leave alone -/

/-- The changes that calls make: how the link is doing, what it said and how waits ended stay. -/
structure Link.Remains (l l' : Link) : Prop where
  phase : l'.phase = l.phase
  history : l'.history = l.history
  ended : l'.ended = l.ended

theorem Link.Remains.acknowledged_iff {l l' : Link} (h : l.Remains l') {wait : WaitId}
    {codes : List UInt8} : l'.Acknowledged wait codes ↔ l.Acknowledged wait codes := by
  rw [Acknowledged, h.ended, Acknowledged]

namespace Link

variable {l l' : Link}

theorem between_of_registered (same : l'.registered = l.registered) :
    l.between l' = [] := by
  rw [between, same, Nat.sub_self, List.range'_zero]

theorem between_of_registered_succ (one : l'.registered = l.registered + 1) :
    l.between l' = [l.registered] := by
  rw [between, one, Nat.add_sub_cancel_left, List.range'_one]

theorem registered_yieldTurn (l : Link) : (Call.yieldTurn l).registered = l.registered := rfl

theorem registered_register (l : Link) (kind : AckKind) :
    (l.register kind).2.registered = l.registered + 1 := rfl

end Link

theorem Link.Remains.isOver {l l' : Link} (h : l.Remains l') : l'.isOver = l.isOver := by
  rw [Link.isOver, h.phase, Link.isOver]

theorem Link.Remains.unended {l l' : Link} (h : l.Remains l') (unended : l.Unended) :
    l'.Unended :=
  ⟨h.isOver.trans unended.1, h.history ▸ unended.2⟩

theorem Link.Remains.ended_of {l l' : Link} (h : l.Remains l') (ended : l.Ended) : l'.Ended := by
  obtain ⟨finished, earlier, events, before⟩ := ended
  refine ⟨h.isOver.trans finished, earlier, ?_, before⟩
  rw [Link.events, h.history]
  exact events

/-- The calls that hand over no request that is acknowledged and leave the waits alone. -/
def Apart {α : Type} : Call α → Prop
  | .done _ => True
  | .step change next => ∀ l, l.Keeps (change l) ∧ l.Remains (change l) ∧ Apart (next l)
  | .request (.submit request) next => request.kind? = none ∧ ∀ reply, Apart (next reply)
  | .request _ _ => False

theorem Apart.settle {α : Type} {p : Call α} (h : Apart p) (l : Link) :
    l.Keeps (p.settle l).2 ∧ l.Remains (p.settle l).2 ∧ Apart (p.settle l).1 := by
  induction p generalizing l with
  | done | request => exact ⟨.refl l, ⟨rfl, rfl, rfl⟩, h⟩
  | step change next ih =>
      rcases h l with ⟨keeps, remains, later⟩
      rcases ih l later (change l) with ⟨keeps', remains', last⟩
      exact ⟨keeps.trans keeps', ⟨remains'.phase.trans remains.phase,
        remains'.history.trans remains.history, remains'.ended.trans remains.ended⟩, last⟩

theorem apart_publish (topic : String) (payload : Bytes) (options : PublishOptions) :
    Apart (Call.publish topic payload options) := by
  intro l
  refine ⟨.refl l, ⟨rfl, rfl, rfl⟩, ?_⟩
  change Apart (if l.isOver then .done _ else .request (.submit (.publish _ _ _)) .done)
  split
  · trivial
  · exact ⟨rfl, fun _ => trivial⟩

theorem apart_close : Apart Call.close := by
  intro l
  refine ⟨⟨rfl, rfl, rfl, rfl⟩, ⟨rfl, rfl, rfl⟩, ?_⟩
  change Apart (if l.isOver then .done _ else _)
  split
  · trivial
  · refine ⟨rfl, fun reply => ?_⟩
    cases reply with
    | ok => trivial
    | error error =>
        intro l
        refine ⟨.refl l, ⟨rfl, rfl, rfl⟩, ?_⟩
        change Apart (if l.isOver then .done _ else .done _)
        split <;> trivial

/-- The kind of the request that a call hands over, if it is acknowledged. -/
def Call.submits? {α : Type} : Call α → Option AckKind
  | .request (.submit request) _ => request.kind?
  | _ => none

theorem Apart.submits? {α : Type} {p : Call α} (h : Apart p) : Call.submits? p = none := by
  cases p with
  | done | step => rfl
  | request r next =>
      cases r with
      | submit request => exact h.1
      | turn | await => exact h.elim

/-! ## Places -/

/-- What is handed over and waited for by a call, if it waits for acknowledgements. -/
def Job.form? : (job : Job) → Option (Form job.Value)
  | publish _ _ _ => none
  | subscribe filters => some (subscribing filters)
  | unsubscribe filters => some (unsubscribing filters)
  | close => none

/-- The requests of a call that are acknowledged, in their order. -/
def Job.requests (job : Job) : List ClientRequest := (job.form?.map (·.requests)).getD []

theorem Job.program_of_form {job : Job} {F : Form job.Value} (formed : job.form? = some F) :
    job.program = F.program ∧ job.requests = F.requests ∧
      ∀ request ∈ F.requests, request.kind? = some F.kind := by
  cases job with
  | publish topic payload options => cases formed
  | close => cases formed
  | subscribe filters =>
      obtain rfl := Option.some.inj formed
      refine ⟨Call.subscribe_eq filters, rfl, fun request member => ?_⟩
      obtain rfl := List.mem_singleton.1 member
      rfl
  | unsubscribe filters =>
      obtain rfl := Option.some.inj formed
      refine ⟨Call.unsubscribe_eq filters, rfl, fun request member => ?_⟩
      obtain ⟨filter, -, rfl⟩ := List.mem_map.1 member
      rfl

theorem Job.apart_of_form {job : Job} (formless : job.form? = none) : Apart job.program := by
  cases job with
  | publish topic payload options => exact apart_publish topic payload options
  | close => exact apart_close
  | subscribe filters => cases formless
  | unsubscribe filters => cases formless

/-- Where a call of a form can stand: with which waits, what it has not heard yet, and what is left
of it. -/
inductive Form.Stands {α : Type} (F : Form α) (l : Link) :
    List WaitId → Option (Except TransportError Unit) → Call (Result α) → Prop where
  | turn {rest : Call (Result α)} : rest = .request .turn (fun _ => F.handOver [] F.requests) →
      Stands F l [] none rest
  | submitting {earlier : List WaitId} {wait : WaitId} {request : ClientRequest}
      {later : List ClientRequest} {answer : Option (Except TransportError Unit)}
      {rest : Call (Result α)} :
      F.requests.drop earlier.length = request :: later →
      rest = F.submitting (earlier ++ [wait]) request later →
      Stands F l (earlier ++ [wait]) answer rest
  /-- The first waits ended with acknowledgements. -/
  | awaiting {passed later : List WaitId} {wait : WaitId} {codes : List UInt8}
      {rest : Call (Result α)} :
      (passed ++ wait :: later).length = F.requests.length →
      (∀ wait ∈ passed, ∃ codes, l.Acknowledged wait codes) →
      rest = F.awaitAll codes (wait :: later) → Stands F l (passed ++ wait :: later) none rest
  | returned {waits : List WaitId} {codes : List UInt8} {rest : Call (Result α)} :
      waits.length = F.requests.length →
      (∀ wait ∈ waits, ∃ codes, l.Acknowledged wait codes) →
      (∀ wait, waits.getLast? = some wait → l.Acknowledged wait codes) →
      rest = .done (.ok (F.finish codes)) → Stands F l waits none rest
  | failed {waits : List WaitId} {error : TransportError} {rest : Call (Result α)} :
      rest = .done (.error error) → Stands F l waits none rest

/-- A call stays where it is when other waits are acknowledged. -/
theorem Form.Stands.mono {α : Type} {F : Form α} {l l' : Link} {waits : List WaitId}
    {answer : Option (Except TransportError Unit)} {rest : Call (Result α)}
    (h : F.Stands l waits answer rest)
    (more : ∀ wait codes, l.Acknowledged wait codes → l'.Acknowledged wait codes) :
    F.Stands l' waits answer rest := by
  cases h with
  | turn left => exact .turn left
  | submitting next left => exact .submitting next left
  | awaiting count passed left =>
      exact .awaiting count (fun wait member => (passed wait member).imp (more wait)) left
  | returned count passed last left =>
      exact .returned count (fun wait member => (passed wait member).imp (more wait))
        (fun wait found => more wait _ (last wait found)) left
  | failed left => exact .failed left

namespace Form.Stands

variable {α : Type} {F : Form α} {l : Link} {waits : List WaitId}
  {answer : Option (Except TransportError Unit)}

theorem of_turn {next : Ask.Reply .turn → Call (Result α)}
    (h : F.Stands l waits answer (.request .turn next)) :
    waits = [] ∧ next () = F.handOver [] F.requests := by
  generalize whole : Program.request Ask.turn next = rest at h
  cases h <;> rename_i left <;> rw [left] at whole <;> cases whole
  case turn => exact ⟨rfl, rfl⟩

theorem of_submit {request : ClientRequest} {next : Ask.Reply (.submit request) → Call (Result α)}
    (h : F.Stands l waits answer (.request (.submit request) next)) :
    ∃ earlier wait later, waits = earlier ++ [wait] ∧
      F.requests.drop earlier.length = request :: later ∧
      next = F.afterSubmit waits later := by
  generalize whole : Program.request (Ask.submit request) next = rest at h
  cases h <;> rename_i left <;> rw [left] at whole <;> cases whole
  case submitting earlier wait later here => exact ⟨earlier, wait, later, rfl, here, rfl⟩

theorem of_await {wait : WaitId} {next : Ask.Reply (.await wait) → Call (Result α)}
    (h : F.Stands l waits answer (.request (.await wait) next)) :
    ∃ passed later, waits = passed ++ wait :: later ∧ waits.length = F.requests.length ∧
      (∀ wait ∈ passed, ∃ codes, l.Acknowledged wait codes) ∧
      ∀ reply, next reply = match Call.acknowledgement F.what reply with
        | .error error => .done (.error error)
        | .ok codes => F.awaitAll codes later := by
  generalize whole : Program.request (Ask.await wait) next = rest at h
  cases h <;> rename_i left <;> rw [left] at whole <;> cases whole
  case awaiting passed later codes seen count =>
    exact ⟨passed, later, rfl, count, seen, fun _ => rfl⟩

theorem of_done {value : α} (h : F.Stands l waits answer (.done (.ok value))) :
    ∃ codes, value = F.finish codes ∧ waits.length = F.requests.length ∧
      (∀ wait ∈ waits, ∃ codes, l.Acknowledged wait codes) ∧
      ∀ wait, waits.getLast? = some wait → l.Acknowledged wait codes := by
  generalize whole : Program.done (Except.ok value) = rest at h
  cases h <;> rename_i left <;> rw [left] at whole <;> cases whole
  case returned codes count seen last => exact ⟨codes, rfl, count, seen, last⟩

/-- A call that waits, or is through. -/
theorem awaitAll (passed : List WaitId) {later : List WaitId} {codes : List UInt8}
    (count : (passed ++ later).length = F.requests.length)
    (seen : ∀ wait ∈ passed, ∃ codes, l.Acknowledged wait codes)
    (last : ∀ wait, passed.getLast? = some wait → l.Acknowledged wait codes) :
    F.Stands l (passed ++ later) none (F.awaitAll codes later) := by
  cases later with
  | nil =>
      rw [List.append_nil] at count ⊢
      exact .returned count seen last rfl
  | cons wait later => exact .awaiting count seen rfl

end Form.Stands

namespace Form

variable {α : Type} {F : Form α}

theorem submits?_awaitAll (codes : List UInt8) (waits : List WaitId) :
    Call.submits? (F.awaitAll codes waits) = none := by
  cases waits <;> rfl

/-- A call hands over what it has left, or waits. -/
theorem stands_handOver (l : Link) {waits : List WaitId} (fits : waits.length ≤ F.requests.length) :
    let settled := (F.handOver waits (F.requests.drop waits.length)).settle l
    F.Stands settled.2 (waits ++ l.between settled.2) none settled.1 ∧ l.Remains settled.2 ∧
      (settled.2 = Call.yieldTurn l ∧ Call.submits? settled.1 = none ∨
        settled.2 = (l.register F.kind).2 ∧
          ∃ request ∈ F.requests, Call.submits? settled.1 = request.kind?) := by
  intro settled
  cases left : F.requests.drop waits.length with
  | nil =>
      have at_end : settled = (F.awaitAll [] waits, Call.yieldTurn l) := by
        rw [← settle_handOver_nil, ← left]
      have through : waits.length = F.requests.length :=
        Nat.le_antisymm fits (List.drop_eq_nil_iff.1 left)
      rw [at_end, Link.between_of_registered l.registered_yieldTurn, List.append_nil]
      refine ⟨?_, ⟨rfl, rfl, rfl⟩, Or.inl ⟨rfl, F.submits?_awaitAll [] waits⟩⟩
      refine .awaitAll [] through ?_ ?_
      · exact fun wait member => absurd member List.not_mem_nil
      · exact fun wait found => nomatch found
  | cons request later =>
      have at_next : settled =
          (F.submitting (waits ++ [l.registered]) request later, (l.register F.kind).2) := by
        rw [← settle_handOver_cons, ← left]
      rw [at_next, Link.between_of_registered_succ (l.registered_register F.kind)]
      have settled := l.setWaits_eq F.kind (l.waits F.kind ++ [l.registered])
      refine ⟨.submitting left rfl, ⟨settled.2.2.2.1, settled.2.2.2.2, settled.2.2.1⟩,
        Or.inr ⟨rfl, request, ?_, rfl⟩⟩
      exact List.mem_of_mem_drop (left ▸ List.mem_cons_self)

end Form

/-! ## Callers -/

namespace Caller

def Stands (caller : Caller) (l : Link) : Prop :=
  match caller.job.form? with
  | some F => F.Stands l caller.waits caller.answer caller.rest
  | none => caller.waits = [] ∧ Apart caller.rest

theorem stands_iff_of_form (caller : Caller) {l : Link} {F : Form caller.job.Value}
    (formed : caller.job.form? = some F) :
    caller.Stands l ↔ F.Stands l caller.waits caller.answer caller.rest := by
  rw [Stands, formed]

theorem stands_iff_of_apart (caller : Caller) {l : Link} (formless : caller.job.form? = none) :
    caller.Stands l ↔ caller.waits = [] ∧ Apart caller.rest := by
  rw [Stands, formless]

theorem Stands.mono {caller : Caller} {l l' : Link} (h : caller.Stands l)
    (more : ∀ wait codes, l.Acknowledged wait codes → l'.Acknowledged wait codes) :
    caller.Stands l' := by
  cases formed : caller.job.form? with
  | some F =>
      have there := (caller.stands_iff_of_form formed).1 h
      exact (caller.stands_iff_of_form formed).2 (there.mono more)
  | none => exact (caller.stands_iff_of_apart formed).2 ((caller.stands_iff_of_apart formed).1 h)

/-- The kind of the request that a caller hands over, if it is acknowledged. -/
def submits? (caller : Caller) : Option AckKind := Call.submits? caller.rest

theorem submits?_eq_some {caller : Caller} {kind : AckKind} (h : caller.submits? = some kind) :
    ∃ request next, caller.rest = .request (.submit request) next ∧ request.kind? = some kind := by
  unfold submits? Call.submits? at h
  split at h
  · next request next left => exact ⟨request, next, left, h⟩
  · cases h

def isTaken (caller : Caller) : Bool :=
  match caller.answer with
  | some (.ok ()) => true
  | _ => false

/-- What a turn of a call does to the waits of a link.  Where it does something, no other call hands
over a request that is acknowledged. -/
inductive Turned (l l' : Link) (before after : Caller) : Prop where
  | aside : l.Keeps l' → before.submits? = none → after.submits? = none →
      after.waits = before.waits → Turned l l' before after
  /-- It hands over its next request, with a wait for it. -/
  | registers (kind : AckKind) :
      l'.waits = Function.update l.waits kind (l.waits kind ++ [l.registered]) →
      l'.registered = l.registered + 1 → l'.registering = true →
      (l.registering = false ∨ before.submits? ≠ none) →
      (before.submits? ≠ none → before.isTaken = true) →
      after.submits? = some kind → after.isTaken = false →
      after.waits = before.waits ++ [l.registered] → Turned l l' before after
  /-- Its last request was taken. -/
  | settles : l'.waits = l.waits → l'.registered = l.registered → before.submits? ≠ none →
      before.isTaken = true → after.submits? = none → after.waits = before.waits →
      Turned l l' before after
  /-- The request was refused. -/
  | withdraws (kind : AckKind) :
      l'.waits = Function.update l.waits kind (l.waits kind).dropLast →
      l'.registered = l.registered → before.submits? = some kind → before.isTaken = false →
      after.submits? = none → after.waits = before.waits → Turned l l' before after

/-- What comes of a turn of a call. -/
structure Goes (l l' : Link) (before after : Caller) : Prop where
  stands : after.Stands l'
  remains : l.Remains l'
  turned : Turned l l' before after

variable {caller before after : Caller} {l l' : Link}

theorem Turned.registered_le (h : Turned l l' before after) : l.registered ≤ l'.registered := by
  cases h with
  | aside keeps => exact Nat.le_of_eq keeps.registered.symm
  | registers kind waits registered => exact registered ▸ Nat.le_succ _
  | settles waits registered => exact Nat.le_of_eq registered.symm
  | withdraws kind waits registered => exact Nat.le_of_eq registered.symm

/-- A call has the waits that are registered in its turns. -/
theorem Turned.waits_eq (h : Turned l l' before after) :
    after.waits = before.waits ++ l.between l' := by
  cases h with
  | aside keeps silent silent' own =>
      rw [own, Link.between_of_registered keeps.registered, List.append_nil]
  | registers kind waits registered registering free taken submits untaken own =>
      rw [own, Link.between_of_registered_succ registered]
  | settles waits registered submits taken silent own =>
      rw [own, Link.between_of_registered registered, List.append_nil]
  | withdraws kind waits registered submits untaken silent own =>
      rw [own, Link.between_of_registered registered, List.append_nil]

/-- A turn brings no waits to a link but new ones. -/
theorem Turned.mem_waits (h : Turned l l' before after) {kind : AckKind} {wait : WaitId}
    (member : wait ∈ l'.waits kind) : wait ∈ l.waits kind ∨ l.registered ≤ wait := by
  cases h with
  | aside keeps => exact Or.inl (keeps.waits ▸ member)
  | registers new waits =>
      rw [waits] at member
      by_cases same : kind = new
      · subst same
        rw [Function.update_self, List.mem_append, List.mem_singleton] at member
        exact member.imp_right fun newest => Nat.le_of_eq newest.symm
      · rw [Function.update_of_ne same] at member
        exact Or.inl member
  | settles waits => exact Or.inl (waits ▸ member)
  | withdraws old waits =>
      rw [waits] at member
      by_cases same : kind = old
      · subst same
        rw [Function.update_self] at member
        exact Or.inl (List.dropLast_subset _ member)
      · rw [Function.update_of_ne same] at member
        exact Or.inl member

/-- A call that hands over a request which is acknowledged has registered its wait. -/
theorem Stands.submits {request : ClientRequest} {kind : AckKind}
    {next : Ask.Reply (.submit request) → Call (Result caller.job.Value)}
    (stands : caller.Stands l) (left : caller.rest = .request (.submit request) next)
    (acknowledged : request.kind? = some kind) :
    ∃ earlier wait, caller.waits = earlier ++ [wait] ∧
      caller.job.requests[earlier.length]? = some request := by
  cases formed : caller.job.form? with
  | none =>
      have apart := ((caller.stands_iff_of_apart formed).1 stands).2
      rw [left] at apart
      exact absurd (acknowledged.symm.trans apart.1) (Option.some_ne_none kind)
  | some F =>
      rw [caller.stands_iff_of_form formed, left] at stands
      obtain ⟨earlier, wait, later, waits, here, -⟩ := stands.of_submit
      refine ⟨earlier, wait, waits, ?_⟩
      rw [(Job.program_of_form formed).2.1, ← Nat.add_zero earlier.length, ← List.getElem?_drop,
        here]
      rfl

/-- A call that begins waits for its turn, if it waits for acknowledgements. -/
theorem stands_settle (job : Job) (l : Link) (failures : Nat) :
    let settled := job.program.settle l
    let caller : Caller := ⟨job, settled.1, [], none, failures⟩
    l.Keeps settled.2 ∧ l.Remains settled.2 ∧ caller.Stands settled.2 ∧ caller.submits? = none := by
  intro settled caller
  cases formed : job.form? with
  | none =>
      obtain ⟨keeps, remains, apart⟩ := (Job.apart_of_form formed).settle l
      exact ⟨keeps, remains, (caller.stands_iff_of_apart formed).2 ⟨rfl, apart⟩, apart.submits?⟩
  | some F =>
      have begun : settled =
          (if l.isOver then .done (.error .notOpen)
            else .request .turn fun _ => F.handOver [] F.requests, l) := by
        change job.program.settle l = _
        rw [(Job.program_of_form formed).1, F.settle_program]
      have rest := congrArg Prod.fst begun
      have link := congrArg Prod.snd begun
      rw [link, caller.stands_iff_of_form formed]
      refine ⟨.refl l, ⟨rfl, rfl, rfl⟩, ?_⟩
      by_cases finished : l.isOver = true
      · rw [if_pos finished] at rest
        exact ⟨.failed rest, congrArg Call.submits? rest⟩
      · rw [if_neg finished] at rest
        exact ⟨.turn rest, congrArg Call.submits? rest⟩

/-- What the client says to a request does not move the call. -/
theorem Stands.answered {request : ClientRequest}
    {next : Ask.Reply (.submit request) → Call (Result caller.job.Value)}
    (stands : caller.Stands l) (left : caller.rest = .request (.submit request) next)
    (answer : Option (Except TransportError Unit)) :
    Stands { caller with answer := answer } l := by
  cases formed : caller.job.form? with
  | none =>
      exact (stands_iff_of_apart { caller with answer := answer } formed).2
        ((caller.stands_iff_of_apart formed).1 stands)
  | some F =>
      refine (stands_iff_of_form { caller with answer := answer } formed).2 ?_
      rw [caller.stands_iff_of_form formed, left] at stands
      obtain ⟨earlier, wait, later, waits, here, next_eq⟩ := stands.of_submit
      change F.Stands l caller.waits answer caller.rest
      rw [waits]
      exact .submitting here (by rw [left, next_eq, waits]; rfl)

/-- A call that goes on in its turn registers a wait, or has nothing left to hand over. -/
theorem advance_handOver (failures : Nat) {F : Form caller.job.Value}
    (formed : caller.job.form? = some F)
    {p : Call (Result caller.job.Value)}
    (left : p = F.handOver caller.waits (F.requests.drop caller.waits.length))
    (fits : caller.waits.length ≤ F.requests.length) (held : l.registering = true) :
    let after := caller.advance l p failures
    let l' := (p.settle l).2
    after.Stands l' ∧ l.Remains l' ∧
      (l' = Call.yieldTurn l ∧ after.submits? = none ∧ after.waits = caller.waits ∨
        l'.waits = Function.update l.waits F.kind (l.waits F.kind ++ [l.registered]) ∧
          l'.registered = l.registered + 1 ∧ l'.registering = true ∧
          after.submits? = some F.kind ∧ after.waits = caller.waits ++ [l.registered]) := by
  intro after l'
  obtain ⟨stands, remains, through | ⟨registered, request, member, submits⟩⟩ :=
    F.stands_handOver l fits
  · rw [← left] at stands remains through
    have waits : after.waits = caller.waits := by
      change caller.waits ++ l.between (p.settle l).2 = _
      rw [through.1, Link.between_of_registered l.registered_yieldTurn, List.append_nil]
    exact ⟨(after.stands_iff_of_form formed).2 stands, remains,
      Or.inl ⟨through.1, through.2, waits⟩⟩
  · rw [← left] at stands remains registered submits
    have waits : after.waits = caller.waits ++ [l.registered] := by
      change caller.waits ++ l.between (p.settle l).2 = _
      rw [registered, Link.between_of_registered_succ (l.registered_register F.kind)]
    refine ⟨(after.stands_iff_of_form formed).2 stands, remains, Or.inr ⟨?_, ?_, ?_, ?_, waits⟩⟩
    · exact (congrArg Link.waits registered).trans (l.waits_setWaits _ _)
    · exact congrArg Link.registered registered
    · have kept := (l.setWaits_eq F.kind (l.waits F.kind ++ [l.registered])).2.1
      exact (congrArg Link.registering registered).trans (kept.trans held)
    · exact submits.trans ((Job.program_of_form formed).2.2 request member)

/-- A call whose turn it is. -/
theorem turned_turn (failures : Nat) {next : Ask.Reply .turn → Call (Result caller.job.Value)}
    (stands : caller.Stands l) (left : caller.rest = .request .turn next)
    (free : l.registering = false) :
    let begun := { l with registering := true }
    Goes l ((next ()).settle begun).2 caller (caller.advance begun (next ()) failures) := by
  intro begun
  have silent : caller.submits? = none := congrArg Call.submits? left
  cases formed : caller.job.form? with
  | none =>
      have apart := ((caller.stands_iff_of_apart formed).1 stands).2
      rw [left] at apart
      exact apart.elim
  | some F =>
      rw [caller.stands_iff_of_form formed, left] at stands
      obtain ⟨waits, next_eq⟩ := stands.of_turn
      have here : next () = F.handOver caller.waits (F.requests.drop caller.waits.length) := by
        rw [next_eq, waits]
        rfl
      have fits : caller.waits.length ≤ F.requests.length := waits ▸ Nat.zero_le _
      have begun_held : begun.registering = true := rfl
      obtain ⟨stands', remains, through | handed⟩ :=
        advance_handOver failures formed here fits begun_held
      · refine ⟨stands', ⟨remains.phase, remains.history, remains.ended⟩, .aside ?_ silent ?_ ?_⟩
        · rw [through.1]
          exact ⟨rfl, rfl, free.symm, rfl⟩
        · exact through.2.1
        · exact through.2.2
      · obtain ⟨link_waits, registered, registering, submits, own⟩ := handed
        exact ⟨stands', ⟨remains.phase, remains.history, remains.ended⟩,
          .registers F.kind link_waits registered registering (Or.inl free)
            (fun some => absurd silent some) submits rfl own⟩

/-- A call whose request is refused withdraws its newest wait, and others have their turn. -/
theorem turned_refused (failures : Nat) {F : Form caller.job.Value}
    (formed : caller.job.form? = some F) {later : List ClientRequest} {error : TransportError}
    {p : Call (Result caller.job.Value)}
    (left : p = F.afterSubmit caller.waits later (.error error))
    (submits : caller.submits? = some F.kind) (untaken : caller.isTaken = false) :
    Goes l (p.settle l).2 caller (caller.advance l p failures) := by
  have gone : p.settle l = (.done (.error error), Call.yieldTurn (l.withdraw F.kind)) := by
    rw [left]
    rfl
  have link : (p.settle l).2 = Call.yieldTurn (l.withdraw F.kind) := congrArg Prod.snd gone
  have rest : (caller.advance l p failures).rest = .done (.error error) := congrArg Prod.fst gone
  have same := l.setWaits_eq F.kind (l.waits F.kind).dropLast
  have registered : (p.settle l).2.registered = l.registered :=
    (congrArg Link.registered link).trans same.1
  refine ⟨((caller.advance l p failures).stands_iff_of_form formed).2 (.failed rest), ?_,
    .withdraws F.kind ?_ registered submits untaken (congrArg Call.submits? rest) ?_⟩
  · rw [link]
    exact ⟨same.2.2.2.1, same.2.2.2.2, same.2.2.1⟩
  · exact (congrArg Link.waits link).trans (l.waits_setWaits _ _)
  · change caller.waits ++ l.between (p.settle l).2 = _
    rw [Link.between_of_registered registered, List.append_nil]

/-- A call whose request is taken goes on to its next request in the same turn, if there is one. -/
theorem turned_taken (failures : Nat) {F : Form caller.job.Value}
    (formed : caller.job.form? = some F) {p : Call (Result caller.job.Value)}
    (left : p = F.handOver caller.waits (F.requests.drop caller.waits.length))
    (fits : caller.waits.length ≤ F.requests.length) (submits : caller.submits? ≠ none)
    (taken : caller.isTaken = true) (held : l.registering = true) :
    Goes l (p.settle l).2 caller (caller.advance l p failures) := by
  obtain ⟨stands, remains, through | handed⟩ := advance_handOver failures formed left fits held
  · obtain ⟨link, silent, own⟩ := through
    exact ⟨stands, remains, .settles (congrArg Link.waits link :) (congrArg Link.registered link :)
      submits taken silent own⟩
  · obtain ⟨waits, registered, registering, submits', own⟩ := handed
    exact ⟨stands, remains, .registers F.kind waits registered registering (Or.inr submits)
      (fun _ => taken) submits' rfl own⟩

/-- A call that hears what became of its request. -/
theorem turned_hear (failures : Nat) {request : ClientRequest} {answer : Except TransportError Unit}
    {next : Ask.Reply (.submit request) → Call (Result caller.job.Value)}
    (stands : caller.Stands l) (left : caller.rest = .request (.submit request) next)
    (heard : caller.answer = some answer)
    (held : caller.submits? ≠ none → l.registering = true) :
    Goes l ((next answer).settle l).2 caller (caller.advance l (next answer) failures) := by
  have submits : caller.submits? = request.kind? := congrArg Call.submits? left
  cases formed : caller.job.form? with
  | none =>
      obtain ⟨waits, apart⟩ := (caller.stands_iff_of_apart formed).1 stands
      rw [left] at apart
      obtain ⟨keeps, remains, apart'⟩ := (apart.2 answer).settle l
      let after := caller.advance l (next answer) failures
      have own : after.waits = caller.waits := by
        change caller.waits ++ l.between ((next answer).settle l).2 = _
        rw [Link.between_of_registered keeps.registered, List.append_nil]
      exact ⟨(after.stands_iff_of_apart formed).2 ⟨own.trans waits, apart'⟩, remains,
        .aside keeps (submits.trans apart.1) apart'.submits? own⟩
  | some F =>
      rw [caller.stands_iff_of_form formed, left] at stands
      obtain ⟨earlier, wait, later, waits, here, next_eq⟩ := stands.of_submit
      have kind : request.kind? = some F.kind :=
        (Job.program_of_form formed).2.2 request (List.mem_of_mem_drop (here ▸ List.mem_cons_self))
      have submits' : caller.submits? ≠ none := (submits.trans kind) ▸ Option.some_ne_none _
      cases answer with
      | error error =>
          have untaken : caller.isTaken = false := by rw [isTaken, heard]
          exact turned_refused failures formed (congrFun next_eq _) (submits.trans kind) untaken
      | ok =>
          have drop : F.requests.drop caller.waits.length = later := by
            rw [waits, List.length_append, List.length_singleton, ← List.drop_drop, here]
            rfl
          have fits : caller.waits.length ≤ F.requests.length := by
            have bound := congrArg List.length here
            rw [List.length_drop, List.length_cons] at bound
            rw [waits, List.length_append, List.length_singleton]
            omega
          have goes : next (.ok ()) =
              F.handOver caller.waits (F.requests.drop caller.waits.length) := by
            rw [next_eq, drop]
            rfl
          have taken : caller.isTaken = true := by rw [isTaken, heard]
          exact turned_taken failures formed goes fits submits' taken (held submits')

/-- A call that sees how its wait ended, or gives up. -/
theorem turned_wake (failures : Nat) {wait : WaitId}
    {next : Ask.Reply (.await wait) → Call (Result caller.job.Value)}
    (stands : caller.Stands l) (left : caller.rest = .request (.await wait) next) :
    Goes l ((next (l.end? wait)).settle l).2 caller
      (caller.advance l (next (l.end? wait)) failures) := by
  have silent : caller.submits? = none := congrArg Call.submits? left
  cases formed : caller.job.form? with
  | none =>
      have apart := ((caller.stands_iff_of_apart formed).1 stands).2
      rw [left] at apart
      exact apart.elim
  | some F =>
      rw [caller.stands_iff_of_form formed, left] at stands
      obtain ⟨passed, later, waits, count, seen, next_eq⟩ := stands.of_await
      -- Wherever the call goes, it only waits, so the link stays the same.
      suffices settled : ∃ rest, (next (l.end? wait)).settle l = (rest, l) ∧
          F.Stands l caller.waits none rest ∧ Call.submits? rest = none by
        obtain ⟨rest, settled, stands', silent'⟩ := settled
        let after := caller.advance l (next (l.end? wait)) failures
        have link : ((next (l.end? wait)).settle l).2 = l := congrArg Prod.snd settled
        have own : after.waits = caller.waits := by
          change caller.waits ++ l.between ((next (l.end? wait)).settle l).2 = _
          rw [Link.between_of_registered (congrArg Link.registered link), List.append_nil]
        have same : after.rest = rest := congrArg Prod.fst settled
        have silent'' : after.submits? = none := (congrArg Call.submits? same).trans silent'
        rw [link]
        refine ⟨(after.stands_iff_of_form formed).2 ?_, ⟨rfl, rfl, rfl⟩,
          .aside (.refl l) silent silent'' own⟩
        rw [own, same]
        exact stands'
      cases heard : Call.acknowledgement F.what (l.end? wait) with
      | error error =>
          refine ⟨.done (.error error), ?_, .failed rfl, rfl⟩
          have goes := next_eq (l.end? wait)
          rw [heard] at goes
          exact congrArg (Program.settle · l) goes
      | ok codes =>
          have ended : l.Acknowledged wait codes := Link.acknowledged_of_heard heard
          refine ⟨F.awaitAll codes later, ?_, ?_, F.submits?_awaitAll codes later⟩
          · have goes := next_eq (l.end? wait)
            rw [heard] at goes
            exact (congrArg (Program.settle · l) goes).trans (F.settle_awaitAll codes later l)
          · have parted : caller.waits = (passed ++ [wait]) ++ later := by rw [waits]; simp
            rw [parted] at count ⊢
            refine .awaitAll (passed ++ [wait]) count (fun other member => ?_) fun other found => ?_
            · rcases List.mem_append.1 member with member | member
              · exact seen other member
              · exact ⟨codes, List.mem_singleton.1 member ▸ ended⟩
            · rw [List.getLast?_concat] at found
              exact Option.some.inj found ▸ ended

end Caller

end Mqtt

end DeviceConsole
