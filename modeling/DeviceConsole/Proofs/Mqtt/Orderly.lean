import DeviceConsole.Proofs.Mqtt.Seats

/-!
# Waits in the order of requests

A wait carries no name of its request: that an acknowledgement ends the wait of the request that it
is for rests on waits and requests standing in the same order.  This file defines:

* `Wire.Recorded`, that requests belong to their calls, and acknowledged waits to requests;
* `Wire.Queued`, that the waits of a link are those of the unanswered requests, and then that of the
  request that is handed over, where a failure did not take them away;
* `Wire.Orderly`, both of it, which everything keeps in which no acknowledgement strays:
  `Wire.Orderly.next?`.
-/

namespace DeviceConsole

namespace Mqtt

/-! ## Lists in which one item counts -/

section Lists

variable {α β : Type} {items : List α} {k : Nat} {item new : α} {f : α → List β}

theorem flatMap_set_of_eq (there : items[k]? = some item) (same : f new = f item) :
    (items.set k new).flatMap f = items.flatMap f := by
  induction items generalizing k with
  | nil => rfl
  | cons head rest ih =>
      cases k with
      | zero =>
          obtain rfl := Option.some.inj there
          rw [List.set_cons_zero, List.flatMap_cons, List.flatMap_cons, same]
      | succ k => rw [List.set_cons_succ, List.flatMap_cons, List.flatMap_cons, ih there]

/-- If no other item gives anything, there is what this one gives. -/
theorem flatMap_of_alone (there : items[k]? = some item)
    (alone : ∀ j other, items[j]? = some other → j ≠ k → f other = []) :
    items.flatMap f = f item := by
  induction items generalizing k with
  | nil => cases there
  | cons head rest ih =>
      rw [List.flatMap_cons]
      cases k with
      | zero =>
          obtain rfl := Option.some.inj there
          have nothing : rest.flatMap f = [] := by
            refine List.flatMap_eq_nil_iff.2 fun other member => ?_
            obtain ⟨j, found⟩ := List.mem_iff_getElem?.1 member
            exact alone (j + 1) other found (Nat.succ_ne_zero j)
          rw [nothing, List.append_nil]
      | succ k =>
          rw [alone 0 head rfl (Nat.succ_ne_zero k).symm, List.nil_append]
          exact ih there fun j other found differs =>
            alone (j + 1) other found fun same => differs (Nat.succ.inj same)

end Lists

/-! ## What the callers have to do with a wire -/

/-- The wait of the request that a caller hands over, as long as the client did not take it and no
failure discarded it. -/
def Caller.offered (failures : Nat) (kind : AckKind) (caller : Caller) : List WaitId :=
  if caller.submits? = some kind ∧ caller.isTaken = false ∧ caller.since = failures
  then caller.waits.getLast?.toList else []

section Offered

variable {failures : Nat} {kind other : AckKind} {caller : Caller}

theorem Caller.offered_of_silent (silent : caller.submits? = none) :
    caller.offered failures kind = [] := by
  rw [offered, if_neg]
  rintro ⟨submits, -⟩
  exact Option.some_ne_none kind (submits.symm.trans silent)

theorem Caller.offered_of_taken (taken : caller.isTaken = true) :
    caller.offered failures kind = [] := by
  rw [offered, if_neg]
  rintro ⟨-, untaken, -⟩
  exact Bool.noConfusion (untaken.symm.trans taken)

theorem Caller.offered_of_past (past : caller.since ≠ failures) :
    caller.offered failures kind = [] := by
  rw [offered, if_neg]
  rintro ⟨-, -, current⟩
  exact past current

theorem Caller.offered_of_ne (submits : caller.submits? = some other) (differs : kind ≠ other) :
    caller.offered failures kind = [] := by
  rw [offered, if_neg]
  rintro ⟨submits', -⟩
  exact differs (Option.some.inj (submits'.symm.trans submits))

theorem Caller.offered_of_submits {earlier : List WaitId} {wait : WaitId}
    (submits : caller.submits? = some kind) (untaken : caller.isTaken = false)
    (current : caller.since = failures) (own : caller.waits = earlier ++ [wait]) :
    caller.offered failures kind = [wait] := by
  rw [offered, if_pos ⟨submits, untaken, current⟩, own, List.getLast?_concat]
  rfl

end Offered

namespace Wire

variable {w w' : Wire} {happening : Happening}

/-- Requests belong to their calls, and acknowledged waits to requests. -/
structure Recorded (w : Wire) : Prop where
  unanswered : ∀ kind, ∀ sent ∈ w.unanswered kind, w.Placed sent
  answered : ∀ sent codes, (sent, codes) ∈ w.answered → w.Placed sent
  acknowledged : ∀ wait codes, w.link.Acknowledged wait codes →
    ∃ sent, (sent, codes) ∈ w.answered ∧ sent.wait = wait ∧ sent.belated = false

/-- The waits of requests, without those that a failure took away. -/
def awaited (requests : List Sent) : List WaitId :=
  (requests.filter fun request => !request.belated).map Sent.wait

theorem awaited_cons_of_belated {request : Sent} {later : List Sent}
    (belated : request.belated = true) : awaited (request :: later) = awaited later := by
  simp [awaited, belated]

theorem awaited_cons_of_timely {request : Sent} {later : List Sent}
    (timely : request.belated = false) :
    awaited (request :: later) = request.wait :: awaited later := by
  simp [awaited, timely]

theorem awaited_append (first second : List Sent) :
    awaited (first ++ second) = awaited first ++ awaited second := by
  rw [awaited, List.filter_append, List.map_append, awaited, awaited]

/-- The waits of a link stand in the order of the requests. -/
structure Queued (w : Wire) : Prop where
  waits : w.link.isOver = false → ∀ kind, w.link.waits kind =
    awaited (w.unanswered kind) ++ w.callers.flatMap (Caller.offered w.failures kind)
  /-- While a request is handed over since before a failure, no other is on its way. -/
  stale : ∀ {k : Nat} {caller : Caller}, w.callers[k]? = some caller → caller.submits? ≠ none →
    caller.isTaken = false → caller.since ≠ w.failures → ∀ kind, w.unanswered kind = []

/-- Everything is where it has to be. -/
structure Orderly (w : Wire) : Prop where
  recorded : w.Recorded
  queued : w.Queued

theorem Recorded.put {k : Nat} {after : Caller} (h : w.Recorded) (puts : w.Puts w' k after)
    (unanswered : ∀ kind, ∀ sent ∈ w'.unanswered kind, sent ∈ w.unanswered kind ∨ w'.Placed sent)
    (answered : w'.answered = w.answered)
    (same : ∀ wait codes, w'.link.Acknowledged wait codes → w.link.Acknowledged wait codes) :
    w'.Recorded where
  unanswered kind sent member := (unanswered kind sent member).elim
    (fun member => puts.placed (h.unanswered kind sent member)) id
  answered sent codes member := puts.placed (h.answered sent codes (answered ▸ member))
  acknowledged wait codes acknowledged := by
    rw [answered]
    exact h.acknowledged wait codes (same wait codes acknowledged)

/-! ## Calls go on -/

/-- If it is the turn of a caller, only it offers anything, before and after. -/
theorem Seated.offered {k : Nat} {caller after : Caller} (h : w.Seated)
    (there : w.callers[k]? = some caller) (puts : w.Puts w' k after)
    (free : w.link.registering = false ∨ caller.submits? ≠ none) (failures : Nat)
    (kind : AckKind) :
    w.callers.flatMap (Caller.offered failures kind) = caller.offered failures kind ∧
      w'.callers.flatMap (Caller.offered failures kind) = after.offered failures kind := by
  have silent := h.others_silent there free
  refine ⟨flatMap_of_alone there fun j other found differs => ?_,
    flatMap_of_alone puts.here fun j other found differs => ?_⟩
  · exact Caller.offered_of_silent (silent j other found differs)
  · have before : w.callers[j]? = some other := (puts.there j differs).symm.trans found
    exact Caller.offered_of_silent (silent j other before differs)

section Goes

variable {k : Nat} {caller after : Caller} {l' : Link}

theorem Queued.goes (h : w.Queued) (seated : w.Seated) (there : w.callers[k]? = some caller)
    (puts : w.Puts { w with link := l', callers := w.callers.set k after } k after)
    (goes : Caller.Goes w.link l' caller after) (since : after.since = w.failures) :
    Queued { w with link := l', callers := w.callers.set k after } where
  stale := by
    intro j other found submits untaken past
    rcases puts.cases found with ⟨-, rfl⟩ | ⟨-, found⟩
    · exact absurd since past
    · exact h.stale found submits untaken past
  waits going kind := by
    have queue := h.waits (goes.remains.isOver.symm.trans going) kind
    -- As long as the caller offers nothing before and after, the queue stays.
    have still : l'.waits kind = w.link.waits kind → caller.offered w.failures kind = [] →
        after.offered w.failures kind = [] → l'.waits kind = awaited (w.unanswered kind) ++
          (w.callers.set k after).flatMap (Caller.offered w.failures kind) := by
      intro same nothing nothing'
      rw [same, queue, flatMap_set_of_eq there (nothing'.trans nothing.symm)]
    have ends := fun free => seated.offered there puts free w.failures kind
    cases goes.turned with
    | aside keeps silent silent' =>
        exact still (congrFun keeps.waits kind) (Caller.offered_of_silent silent)
          (Caller.offered_of_silent silent')
    | registers new waits registered registering free taken submits untaken own =>
        have nothing : caller.offered w.failures kind = [] := by
          by_cases silent : caller.submits? = none
          · exact Caller.offered_of_silent silent
          · exact Caller.offered_of_taken (taken silent)
        change l'.waits kind = _
        rw [(ends free).1, nothing, List.append_nil] at queue
        rw [(ends free).2, waits]
        by_cases same : kind = new
        · subst same
          rw [Function.update_self, queue, Caller.offered_of_submits submits untaken since own]
        · rw [Function.update_of_ne same, queue, Caller.offered_of_ne submits same,
            List.append_nil]
    | settles waits registered submits taken silent =>
        exact still (congrFun waits kind) (Caller.offered_of_taken taken)
          (Caller.offered_of_silent silent)
    | withdraws old waits registered submits untaken silent =>
        have submits' : caller.submits? ≠ none := submits ▸ Option.some_ne_none old
        obtain ⟨request, next, left, acknowledged⟩ := Caller.submits?_eq_some submits
        obtain ⟨earlier, wait, own, -⟩ := (seated.stands there).submits left acknowledged
        change l'.waits kind = _
        rw [(ends (Or.inr submits')).1] at queue
        rw [(ends (Or.inr submits')).2, Caller.offered_of_silent silent, List.append_nil, waits]
        by_cases same : kind = old
        · subst same
          rw [Function.update_self, queue]
          by_cases current : caller.since = w.failures
          · -- The newest wait of the kind is the one of the refused request.
            rw [Caller.offered_of_submits submits untaken current own]
            exact List.dropLast_concat
          · -- A failure took it away before, and no other wait can have come since.
            rw [Caller.offered_of_past current, h.stale there submits' untaken current kind]
            rfl
        · rw [Function.update_of_ne same, queue, Caller.offered_of_ne submits same,
            List.append_nil]

theorem Orderly.goes (h : w.Orderly) (seated : w.Seated) (there : w.callers[k]? = some caller)
    (goes : Caller.Goes w.link l' caller after) (job : after.job = caller.job)
    (since : after.since = w.failures) :
    Orderly { w with link := l', callers := w.callers.set k after } := by
  have puts : w.Puts { w with link := l', callers := w.callers.set k after } k after :=
    puts_set there rfl goes.turned.waits_eq job
  exact ⟨h.recorded.put puts (fun _ _ => Or.inl) rfl fun _ _ => goes.remains.acknowledged_iff.1,
    h.queued.goes seated there puts goes since⟩

end Goes

/-! ## Requests are refused and taken -/

section Take

variable {k : Nat} {caller : Caller} {request : ClientRequest}
  {next : Ask.Reply (.submit request) → Call (Result caller.job.Value)}

/-- A request that is refused, or that is not acknowledged, does not come behind the others. -/
theorem Orderly.unsent (h : w.Orderly) (there : w.callers[k]? = some caller)
    (left : caller.rest = .request (.submit request) next) (unheard : caller.answer = none)
    {answer : Except TransportError Unit} (unsent : answer = .ok () → request.kind? = none) :
    Orderly { w with callers := w.callers.set k { caller with answer := some answer } } := by
  have puts : w.Puts { w with callers := w.callers.set k { caller with answer := some answer } } k
      { caller with answer := some answer } := puts_answer there rfl rfl
  have untaken : caller.isTaken = false := by rw [Caller.isTaken, unheard]
  have offers : ∀ kind, Caller.offered w.failures kind { caller with answer := some answer } =
      caller.offered w.failures kind := by
    intro kind
    cases answer with
    | error error =>
        rw [Caller.offered, Caller.offered, untaken]
        rfl
    | ok =>
        have silent : caller.submits? = none := (congrArg Call.submits? left).trans (unsent rfl)
        rw [Caller.offered_of_silent silent, Caller.offered_of_silent]
        exact silent
  refine ⟨h.recorded.put puts (fun _ _ => Or.inl) rfl fun _ _ => id, fun going kind => ?_, ?_⟩
  · change w.link.waits kind = awaited (w.unanswered kind) ++
      (w.callers.set k { caller with answer := some answer }).flatMap
        (Caller.offered w.failures kind)
    rw [flatMap_set_of_eq there (offers kind)]
    exact h.queued.waits going kind
  · intro j other found submits untaken' past
    rcases puts.cases found with ⟨-, rfl⟩ | ⟨-, found⟩
    · exact h.queued.stale there submits untaken past
    · exact h.queued.stale found submits untaken' past

/-- A caller offers the wait of its request until the client took the request, unless a failure took
the wait away before. -/
theorem Seated.offered_eq_awaited (h : w.Seated) (there : w.callers[k]? = some caller)
    (left : caller.rest = .request (.submit request) next) (unheard : caller.answer = none)
    {kind : AckKind} (acknowledged : request.kind? = some kind) :
    caller.offered w.failures kind = awaited [w.sent k caller request] := by
  obtain ⟨earlier, wait, own, same, -⟩ := h.sent_eq there left acknowledged
  have submits : caller.submits? = some kind := (congrArg Call.submits? left).trans acknowledged
  have untaken : caller.isTaken = false := by rw [Caller.isTaken, unheard]
  rw [same]
  by_cases current : caller.since = w.failures
  · rw [Caller.offered_of_submits submits untaken current own,
      awaited_cons_of_timely (decide_eq_false (not_not_intro current))]
    rfl
  · rw [Caller.offered_of_past current, awaited_cons_of_belated (decide_eq_true current)]
    rfl

/-- A request that is taken comes behind the others of its kind, with its wait if it still has it. -/
theorem Orderly.behind (h : w.Orderly) (seated : w.Seated) (there : w.callers[k]? = some caller)
    (left : caller.rest = .request (.submit request) next) (unheard : caller.answer = none)
    {kind : AckKind} (acknowledged : request.kind? = some kind) :
    Orderly (send { w with callers := w.callers.set k { caller with answer := some (.ok ()) } }
      (w.sent k caller request)) := by
  obtain ⟨link, callers, failures, answered⟩ := send_eq { w with
    callers := w.callers.set k { caller with answer := some (.ok ()) } } (w.sent k caller request)
  have submits : caller.submits? = some kind := (congrArg Call.submits? left).trans acknowledged
  have submits' : caller.submits? ≠ none := submits ▸ Option.some_ne_none kind
  have puts := puts_answer there callers link
  obtain ⟨-, -, -, -, placed⟩ := seated.sent_eq there left acknowledged
  refine ⟨h.recorded.put puts ?_ answered ?_, fun going other => ?_, ?_⟩
  · intro other sent member
    refine (mem_unanswered_send member).imp_right fun new => ?_
    rw [new.1]
    exact puts.placed placed
  · intro wait codes
    rw [link]
    exact id
  · rw [link] at going
    have ends := seated.offered there puts (Or.inr submits') w.failures other
    have taken : Caller.isTaken { caller with answer := some (.ok ()) } = true := rfl
    rw [failures, ends.2, Caller.offered_of_taken taken, List.append_nil, link,
      h.queued.waits going other, ends.1, unanswered_send acknowledged]
    by_cases here : other = kind
    · subst here
      rw [seated.offered_eq_awaited there left unheard acknowledged, Function.update_self,
        awaited_append]
    · rw [Caller.offered_of_ne submits here, List.append_nil, Function.update_of_ne here]
  · intro j other found submitting untaken past
    rcases puts.cases found with ⟨-, rfl⟩ | ⟨differs, found⟩
    · cases untaken
    · exact absurd (seated.alone found there submitting submits') differs

theorem Orderly.takes (h : w.Orderly) (seated : w.Seated) (there : w.callers[k]? = some caller)
    (left : caller.rest = .request (.submit request) next) (unheard : caller.answer = none) :
    Orderly (send { w with callers := w.callers.set k { caller with answer := some (.ok ()) } }
      (w.sent k caller request)) := by
  cases acknowledged : request.kind? with
  | none =>
      rw [send, sent, acknowledged]
      exact h.unsent there left unheard fun _ => acknowledged
  | some kind => exact h.behind seated there left unheard acknowledged

end Take

/-! ## Calls begin -/

theorem Orderly.enter (h : w.Orderly) (job : Job) : (w.enter job).Orderly := by
  obtain ⟨keeps, remains, -, silent⟩ := Caller.stands_settle job w.link w.failures
  let after : Caller := ⟨job, (job.program.settle w.link).1, [], none, w.failures⟩
  have puts : w.Puts (w.enter job) w.callers.length after := w.puts_enter job
  refine ⟨h.recorded.put puts (fun _ _ => Or.inl) rfl fun _ _ => remains.acknowledged_iff.1,
    fun going kind => ?_, ?_⟩
  · have queue := h.queued.waits (remains.isOver.symm.trans going) kind
    change (job.program.settle w.link).2.waits kind = awaited (w.unanswered kind) ++
      (w.callers ++ [after]).flatMap (Caller.offered w.failures kind)
    rw [keeps.waits, queue, List.flatMap_append, List.flatMap_singleton,
      Caller.offered_of_silent silent, List.append_nil]
  · intro j other found submits untaken past
    rcases puts.cases found with ⟨-, rfl⟩ | ⟨-, found⟩
    · exact absurd silent submits
    · exact h.queued.stale found submits untaken past

/-! ## The link goes on -/

section Links

variable {l' : Link}

theorem Recorded.relink (h : w.Recorded) (callers : w'.callers = w.callers)
    (unanswered : ∀ kind, ∀ sent ∈ w'.unanswered kind, sent ∈ w.unanswered kind)
    (answered : w'.answered = w.answered)
    (same : ∀ wait codes, w'.link.Acknowledged wait codes → w.link.Acknowledged wait codes) :
    w'.Recorded := by
  have placed : ∀ sent, w.Placed sent → w'.Placed sent := by
    intro sent
    rw [Placed, Placed, callers]
    exact id
  refine ⟨fun kind sent member => ?_, ?_, fun wait codes found => ?_⟩
  · exact placed sent (h.unanswered kind sent (unanswered kind sent member))
  · rw [answered]
    exact fun sent codes member => placed sent (h.answered sent codes member)
  · rw [answered]
    exact h.acknowledged wait codes (same wait codes found)

theorem Orderly.keeps (h : w.Orderly) (keeps : w.link.Keeps l')
    (going : l'.isOver = false → w.link.isOver = false) : Orderly { w with link := l' } := by
  refine ⟨h.recorded.relink rfl (fun _ _ => id) rfl ?_, fun going' kind => ?_, h.queued.stale⟩
  · exact fun _ _ => keeps.acknowledged_iff.1
  · exact (congrFun keeps.waits kind).trans (h.queued.waits (going going') kind)

theorem Orderly.drops (h : w.Orderly) (drops : w.link.Drops l') (finished : l'.isOver = true) :
    Orderly { w with link := l' } := by
  refine ⟨h.recorded.relink rfl (fun _ _ => id) rfl ?_, fun going kind => ?_, h.queued.stale⟩
  · exact fun _ _ => drops.acknowledged_iff.1
  · exact Bool.noConfusion (going.symm.trans finished)

/-- A failure takes all waits with it, and all requests that were taken. -/
theorem Orderly.fails (h : w.Orderly) (seated : w.Seated) (drops : w.link.Drops l') :
    Orderly { w with link := l', unanswered := fun _ => [], failures := w.failures + 1 } := by
  refine ⟨h.recorded.relink rfl ?_ rfl ?_, fun going kind => ?_, fun _ _ _ _ _ => rfl⟩
  · exact fun kind sent member => absurd member List.not_mem_nil
  · exact fun _ _ => drops.acknowledged_iff.1
  · rw [drops.waits]
    refine (List.flatMap_eq_nil_iff.2 fun caller member => ?_).symm
    obtain ⟨k, found⟩ := List.mem_iff_getElem?.1 member
    refine Caller.offered_of_past fun current => ?_
    exact absurd (current ▸ seated.since found) (Nat.not_succ_le_self _)

/-! ## Acknowledgements -/

section Answers

variable {kind : AckKind} {request : Sent} {later : List Sent}

/-- An acknowledgement moves a request to those that are answered. -/
theorem Recorded.answers (h : w.Recorded) (first : w.unanswered kind = request :: later)
    (codes : List UInt8)
    (acknowledged : ∀ wait other, l'.Acknowledged wait other → w.link.Acknowledged wait other ∨
      wait = request.wait ∧ other = codes ∧ request.belated = false) :
    Recorded { w with
      link := l'
      unanswered := Function.update w.unanswered kind later
      answered := (request, codes) :: w.answered } := by
  refine ⟨fun other sent member => ?_, ?_, ?_⟩
  · exact h.unanswered other sent (mem_of_mem_later first member)
  · rintro sent other (_ | ⟨_, member⟩)
    · exact h.unanswered kind request (first ▸ List.mem_cons_self)
    · exact h.answered sent other member
  · intro wait other found
    rcases acknowledged wait other found with before | ⟨rfl, rfl, timely⟩
    · obtain ⟨sent, member, same⟩ := h.acknowledged wait other before
      exact ⟨sent, List.mem_cons_of_mem _ member, same⟩
    · exact ⟨request, List.mem_cons_self, rfl, timely⟩

theorem Queued.answers (h : w.Queued) (going : w.link.isOver = false)
    (first : w.unanswered kind = request :: later) (codes : List UInt8)
    (waits : l'.waits kind = awaited later ++ w.callers.flatMap (Caller.offered w.failures kind))
    (others : ∀ other, other ≠ kind → l'.waits other = w.link.waits other) :
    Queued { w with
      link := l'
      unanswered := Function.update w.unanswered kind later
      answered := (request, codes) :: w.answered } := by
  refine ⟨fun _ other => ?_, ?_⟩
  · change l'.waits other = awaited (Function.update w.unanswered kind later other) ++
      w.callers.flatMap (Caller.offered w.failures other)
    by_cases here : other = kind
    · subst here
      rw [Function.update_self]
      exact waits
    · rw [Function.update_of_ne here, others other here]
      exact h.waits going other
  · intro k caller found submits untaken past other
    refine List.eq_nil_iff_forall_not_mem.2 fun sent member => ?_
    have before := mem_of_mem_later first member
    rw [h.stale found submits untaken past other] at before
    cases before

/-- An acknowledgement ends the wait of the request that it is for, if that has not ended, or else no
wait. -/
theorem Orderly.answers (h : w.Orderly) (going : w.link.isOver = false)
    (first : w.unanswered kind = request :: later) (codes : List UInt8)
    (straight : request.belated = true → w.link.waits kind = []) :
    Orderly { w with
      link := w.link.acknowledge kind codes
      unanswered := Function.update w.unanswered kind later
      answered := (request, codes) :: w.answered } := by
  have queue := h.queued.waits going kind
  rw [first] at queue
  by_cases belated : request.belated = true
  · rw [Link.acknowledge, straight belated]
    rw [awaited_cons_of_belated belated] at queue
    exact ⟨h.recorded.answers first codes fun _ _ => Or.inl,
      h.queued.answers going first codes queue fun _ _ => rfl⟩
  · have timely : request.belated = false := Bool.eq_false_iff.2 belated
    rw [awaited_cons_of_timely timely, List.cons_append] at queue
    obtain ⟨waits, registered, registering, ended⟩ := Link.acknowledge_of_cons codes queue
    refine ⟨h.recorded.answers first codes ?_, h.queued.answers going first codes ?_ ?_⟩
    · intro wait other acknowledged
      rw [Link.Acknowledged, ended] at acknowledged
      rcases List.mem_cons.1 acknowledged with same | before
      · cases same
        exact Or.inr ⟨rfl, rfl, timely⟩
      · exact Or.inl before
    · rw [waits, Function.update_self]
    · intro other differs
      rw [waits, Function.update_of_ne differs]

end Answers

end Links

/-! ## Every happening -/

/-- Whatever happens, waits and requests stand in the same order, unless an acknowledgement strays. -/
theorem Orderly.next? (h : w.Orderly) (seated : w.Seated) (moved : w.Moved happening w')
    (straight : ¬ Passage.Strays ⟨w, happening, w'⟩) : w'.Orderly := by
  cases moved with
  | enters job => exact h.enter job
  | goes unseen there goes job since => exact h.goes seated there goes job since
  | refuses there left unheard => exact h.unsent there left unheard nofun
  | takes there left unheard => exact h.takes seated there left unheard
  | @answers kind codes request later going first =>
      have missed : request.belated = true → w.link.waits kind = [] := by
        intro belated
        cases waiting : w.link.waits kind with
        | nil => rfl
        | cons wait others =>
            refine absurd ⟨(request, wait), ?_, belated⟩ straight
            exact Passage.ends?_eq_some.2 ⟨kind, codes, later, others, rfl, first, waiting⟩
      have answered := h.answers going first codes missed
      rcases (w.link.acknowledge kind codes).goOn_cases with ⟨keeps, -⟩ | ⟨drops, finished⟩
      · exact answered.keeps keeps fun _ => (w.link.isOver_acknowledge kind codes).trans going
      · exact answered.drops drops finished
  | @fails reason => exact h.fails seated (w.link.drops_lose reason)
  | looks going unacknowledged unfailed =>
      rcases Link.attend_cases unfailed unacknowledged with ⟨keeps, -⟩ | ⟨drops, finished⟩
      · exact h.keeps keeps fun _ => going
      · exact h.drops drops finished
  | resumes going =>
      rcases w.link.resume_cases with ⟨keeps, -⟩ | ⟨drops, finished⟩
      · exact h.keeps keeps fun _ => going
      · exact h.drops drops finished
  | leaves => exact h.keeps ⟨rfl, rfl, rfl, rfl⟩ id

end Wire

end Mqtt

end DeviceConsole
