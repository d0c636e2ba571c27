import DeviceConsole.Proofs.Mqtt.Places

/-!
# Callers with their waits

Whatever happens to a wire, each of its callers stands where it can stand, and no two of them have a
wait in common.  This file defines:

* `Wire.Placed`, that a request is one of its call, and `Wire.Seated`, that each call stands where it
  can stand, with waits of its own;
* `Wire.Moved`, what a happening does to a wire on which that is so, and `Wire.Seated.next?`;
* `Wire.Outlived`, that a wait is older than all that have not ended, and `Wire.Parted`, that this is
  the case of the waits from before a failure.
-/

namespace DeviceConsole

namespace Mqtt

namespace Wire

variable {w w' : Wire} {happening : Happening}

/-! ## Places of callers -/

/-- Whether a request is one of its call, with the wait that the call registered for it. -/
def Placed (w : Wire) (sent : Sent) : Prop :=
  ∃ caller, w.callers[sent.call]? = some caller ∧ caller.waits[sent.place]? = some sent.wait ∧
    caller.job.requests[sent.place]? = some sent.request

/-- Each call stands where it can stand, no two have a wait in common, and at most one hands over a
request that is acknowledged. -/
structure Seated (w : Wire) : Prop where
  stands : ∀ {k : Nat} {caller : Caller}, w.callers[k]? = some caller → caller.Stands w.link
  since : ∀ {k : Nat} {caller : Caller}, w.callers[k]? = some caller → caller.since ≤ w.failures
  held : ∀ {k : Nat} {caller : Caller}, w.callers[k]? = some caller → caller.submits? ≠ none →
    w.link.registering = true
  alone : ∀ {j k : Nat} {a b : Caller}, w.callers[j]? = some a → w.callers[k]? = some b →
    a.submits? ≠ none → b.submits? ≠ none → j = k
  numbered : ∀ {k : Nat} {caller : Caller}, w.callers[k]? = some caller →
    ∀ wait ∈ caller.waits, wait < w.link.registered
  ordered : ∀ {k : Nat} {caller : Caller}, w.callers[k]? = some caller →
    caller.waits.Pairwise (· < ·)
  owned : ∀ {j k : Nat} {a b : Caller} {wait : WaitId}, w.callers[j]? = some a →
    w.callers[k]? = some b → wait ∈ a.waits → wait ∈ b.waits → j = k

/-! ## One caller is put in its place -/

/-- A caller comes to a place, while all others stay. -/
structure Puts (w w' : Wire) (k : Nat) (after : Caller) : Prop where
  here : w'.callers[k]? = some after
  there : ∀ j, j ≠ k → w'.callers[j]? = w.callers[j]?
  /-- It has the waits that it had, and those that were registered meanwhile. -/
  waits : after.waits = (w.callers[k]?.elim [] Caller.waits) ++ w.link.between w'.link
  job : ∀ before, w.callers[k]? = some before → after.job = before.job

namespace Puts

variable {k : Nat} {after : Caller}

theorem cases (puts : w.Puts w' k after) {j : Nat} {caller : Caller}
    (found : w'.callers[j]? = some caller) :
    j = k ∧ caller = after ∨ j ≠ k ∧ w.callers[j]? = some caller := by
  by_cases same : j = k
  · subst same
    exact Or.inl ⟨rfl, Option.some.inj (found.symm.trans puts.here)⟩
  · exact Or.inr ⟨same, (puts.there j same).symm.trans found⟩

theorem placed (puts : w.Puts w' k after) {sent : Sent} (h : w.Placed sent) : w'.Placed sent := by
  obtain ⟨caller, found, wait, request⟩ := h
  by_cases same : sent.call = k
  · subst same
    refine ⟨after, puts.here, ?_, ?_⟩
    · have bound : sent.place < caller.waits.length := (List.getElem?_eq_some_iff.1 wait).1
      rw [puts.waits, found, Option.elim_some, List.getElem?_append_left bound, wait]
    · rw [puts.job caller found, request]
  · exact ⟨caller, (puts.there _ same).trans found, wait, request⟩

end Puts

theorem mem_between {l l' : Link} {wait : Nat} (member : wait ∈ l.between l') :
    l.registered ≤ wait ∧ wait < l'.registered := by
  rw [Link.between, List.mem_range'_1] at member
  omega

/-- The waits that a caller has are its own, and older than any that is registered later. -/
theorem Seated.of_mem_elim (h : w.Seated) {k : Nat} {wait : WaitId}
    (member : wait ∈ w.callers[k]?.elim [] Caller.waits) :
    wait < w.link.registered ∧ ∃ before, w.callers[k]? = some before ∧ wait ∈ before.waits := by
  cases found : w.callers[k]? with
  | none =>
      rw [found] at member
      exact absurd member List.not_mem_nil
  | some before =>
      rw [found] at member
      exact ⟨h.numbered found wait member, before, rfl, member⟩

/-- A wait of the caller that is put is no wait of another one. -/
theorem Seated.apart (h : w.Seated) {k j : Nat} {after other : Caller} {wait : WaitId}
    (puts : w.Puts w' k after) (found : w.callers[j]? = some other) (differs : j ≠ k)
    (member : wait ∈ other.waits) : wait ∉ after.waits := by
  intro inside
  rw [puts.waits] at inside
  rcases List.mem_append.1 inside with inside | inside
  · obtain ⟨-, before, there, inside⟩ := h.of_mem_elim inside
    exact differs (h.owned found there member inside)
  · exact absurd (h.numbered found wait member) (Nat.not_lt.2 (mem_between inside).1)

theorem Seated.put {k : Nat} {after : Caller} (h : w.Seated) (puts : w.Puts w' k after)
    (failures : w'.failures = w.failures)
    (more : ∀ wait codes, w.link.Acknowledged wait codes → w'.link.Acknowledged wait codes)
    (grows : w.link.registered ≤ w'.link.registered)
    (stands : after.Stands w'.link) (since : after.since ≤ w.failures)
    (held : after.submits? ≠ none → w'.link.registering = true)
    (others : ∀ j other, w.callers[j]? = some other → j ≠ k → other.submits? ≠ none →
      w'.link.registering = true ∧ after.submits? = none) : w'.Seated := by
  constructor
  case stands =>
    intro j caller found
    rcases puts.cases found with ⟨-, rfl⟩ | ⟨-, found⟩
    · exact stands
    · exact (h.stands found).mono more
  case since =>
    intro j caller found
    rw [failures]
    rcases puts.cases found with ⟨-, rfl⟩ | ⟨-, found⟩
    · exact since
    · exact h.since found
  case held =>
    intro j caller found submits
    rcases puts.cases found with ⟨-, rfl⟩ | ⟨differs, found⟩
    · exact held submits
    · exact (others j caller found differs submits).1
  case alone =>
    intro i j a b foundA foundB submitsA submitsB
    rcases puts.cases foundA with ⟨rfl, rfl⟩ | ⟨differsA, foundA⟩ <;>
      rcases puts.cases foundB with ⟨rfl, rfl⟩ | ⟨differsB, foundB⟩
    · rfl
    · exact absurd (others j b foundB differsB submitsB).2 submitsA
    · exact absurd (others i a foundA differsA submitsA).2 submitsB
    · exact h.alone foundA foundB submitsA submitsB
  case numbered =>
    intro j caller found wait member
    rcases puts.cases found with ⟨-, rfl⟩ | ⟨-, found⟩
    · rw [puts.waits] at member
      rcases List.mem_append.1 member with member | member
      · exact Nat.lt_of_lt_of_le (h.of_mem_elim member).1 grows
      · exact (mem_between member).2
    · exact Nat.lt_of_lt_of_le (h.numbered found wait member) grows
  case ordered =>
    intro j caller found
    rcases puts.cases found with ⟨-, rfl⟩ | ⟨-, found⟩
    · rw [puts.waits, List.pairwise_append]
      refine ⟨?_, List.pairwise_lt_range' 1, fun a inside b member => ?_⟩
      · cases there : w.callers[k]? with
        | none => exact List.Pairwise.nil
        | some before => exact h.ordered there
      · exact Nat.lt_of_lt_of_le (h.of_mem_elim inside).1 (mem_between member).1
    · exact h.ordered found
  case owned =>
    intro i j a b wait foundA foundB memberA memberB
    rcases puts.cases foundA with ⟨rfl, rfl⟩ | ⟨differsA, foundA⟩ <;>
      rcases puts.cases foundB with ⟨rfl, rfl⟩ | ⟨differsB, foundB⟩
    · rfl
    · exact absurd memberA (h.apart puts foundB differsB memberB)
    · exact absurd memberB (h.apart puts foundA differsA memberA)
    · exact h.owned foundA foundB memberA memberB

/-! ## Calls go on -/

/-- Putting a caller in the place of another one. -/
theorem puts_set {k : Nat} {before after : Caller} (there : w.callers[k]? = some before)
    (callers : w'.callers = w.callers.set k after)
    (waits : after.waits = before.waits ++ w.link.between w'.link)
    (job : after.job = before.job) : w.Puts w' k after where
  here := by
    rw [callers]
    exact List.getElem?_set_self (List.getElem?_eq_some_iff.1 there).1
  there j differs := by
    rw [callers]
    exact List.getElem?_set_ne differs.symm
  waits := by rw [there, Option.elim_some, waits]
  job other found := by
    obtain rfl := Option.some.inj (there.symm.trans found)
    exact job

/-- If it is the turn of a caller, no other one hands over a request that is acknowledged. -/
theorem Seated.others_silent {k : Nat} {caller : Caller} (h : w.Seated)
    (there : w.callers[k]? = some caller)
    (free : w.link.registering = false ∨ caller.submits? ≠ none) :
    ∀ j other, w.callers[j]? = some other → j ≠ k → other.submits? = none := by
  intro j other found differs
  by_contra submits
  rcases free with free | submits'
  · exact Bool.noConfusion (free.symm.trans (h.held found submits))
  · exact differs (h.alone found there submits submits')

section Goes

variable {k : Nat} {caller after : Caller} {l' : Link}

theorem Seated.goes (h : w.Seated) (there : w.callers[k]? = some caller)
    (puts : w.Puts { w with link := l', callers := w.callers.set k after } k after)
    (goes : Caller.Goes w.link l' caller after) (since : after.since = w.failures) :
    Seated { w with link := l', callers := w.callers.set k after } := by
  obtain ⟨stands, remains, turned⟩ := goes
  have silent := fun free => h.others_silent there free
  refine h.put puts rfl (fun _ _ => remains.acknowledged_iff.2) turned.registered_le stands
    (Nat.le_of_eq since) ?_ ?_
  · intro submits
    cases turned with
    | aside keeps silent silent' => exact absurd silent' submits
    | registers kind waits registered registering => exact registering
    | settles waits registered submits' taken silent' => exact absurd silent' submits
    | withdraws kind waits registered submits' untaken silent' => exact absurd silent' submits
  · intro j other found differs submits
    cases turned with
    | aside keeps silent silent' =>
        exact ⟨keeps.registering.trans (h.held found submits), silent'⟩
    | registers kind waits registered registering free =>
        exact absurd (silent free j other found differs) submits
    | settles waits registered submits' =>
        exact absurd (silent (Or.inr submits') j other found differs) submits
    | withdraws kind waits registered submits' =>
        have free : caller.submits? ≠ none := submits' ▸ Option.some_ne_none kind
        exact absurd (silent (Or.inr free) j other found differs) submits

end Goes

/-! ## Requests are taken -/

section Take

variable {k : Nat} {caller : Caller} {request : ClientRequest}
  {next : Ask.Reply (.submit request) → Call (Result caller.job.Value)}
  {answer : Option (Except TransportError Unit)}

theorem puts_answer (there : w.callers[k]? = some caller)
    (callers : w'.callers = w.callers.set k { caller with answer := answer })
    (link : w'.link = w.link) : w.Puts w' k { caller with answer := answer } := by
  refine puts_set there callers ?_ rfl
  rw [link, Link.between_of_registered rfl, List.append_nil]

theorem Seated.hears (h : w.Seated) (there : w.callers[k]? = some caller)
    (left : caller.rest = .request (.submit request) next)
    (callers : w'.callers = w.callers.set k { caller with answer := answer })
    (link : w'.link = w.link) (failures : w'.failures = w.failures) : w'.Seated := by
  have stands : Caller.Stands { caller with answer := answer } w'.link := by
    rw [link]
    exact (h.stands there).answered left answer
  have held : caller.submits? ≠ none → w'.link.registering = true := by
    rw [link]
    exact h.held there
  have since : Caller.since { caller with answer := answer } ≤ w.failures := (h.since there :)
  refine h.put (puts_answer there callers link) failures (fun _ _ => link ▸ id)
    (link ▸ Nat.le_refl _) stands since held ?_
  intro j other found differs submits
  rw [link]
  refine ⟨h.held found submits, ?_⟩
  by_contra submits'
  exact differs (h.alone found there submits submits')

/-- A request that is handed over is one of its call, with the newest wait of the call. -/
theorem Seated.sent_eq (h : w.Seated) (there : w.callers[k]? = some caller)
    (left : caller.rest = .request (.submit request) next) {kind : AckKind}
    (acknowledged : request.kind? = some kind) :
    ∃ earlier wait, caller.waits = earlier ++ [wait] ∧
      w.sent k caller request =
        ⟨k, earlier.length, request, wait, caller.since ≠ w.failures⟩ ∧
      w.Placed (w.sent k caller request) := by
  obtain ⟨earlier, wait, own, asked⟩ := (h.stands there).submits left acknowledged
  have same : w.sent k caller request =
      ⟨k, earlier.length, request, wait, caller.since ≠ w.failures⟩ := by
    rw [sent, own, List.length_append, List.length_singleton, Nat.add_sub_cancel,
      List.getLastD_concat]
  refine ⟨earlier, wait, own, same, ?_⟩
  rw [same]
  refine ⟨caller, there, ?_, asked⟩
  rw [own]
  exact List.getElem?_concat_length

end Take

/-! ## Calls begin -/

theorem puts_enter (w : Wire) (job : Job) : w.Puts (w.enter job) w.callers.length
    ⟨job, (job.program.settle w.link).1, [], none, w.failures⟩ := by
  obtain ⟨keeps, -⟩ := Caller.stands_settle job w.link w.failures
  refine ⟨List.getElem?_concat_length, fun j differs => ?_, ?_, fun before found => ?_⟩
  · change (w.callers ++ [_])[j]? = w.callers[j]?
    rcases Nat.lt_or_gt_of_ne differs with within | beyond
    · exact List.getElem?_append_left within
    · rw [List.getElem?_eq_none (Nat.le_of_lt beyond), List.getElem?_eq_none]
      rw [List.length_append]
      exact beyond
  · rw [List.getElem?_eq_none (Nat.le_refl _), Option.elim_none, List.nil_append]
    exact (Link.between_of_registered keeps.registered).symm
  · rw [List.getElem?_eq_none (Nat.le_refl _)] at found
    cases found

theorem Seated.enter (h : w.Seated) (job : Job) : (w.enter job).Seated := by
  obtain ⟨keeps, remains, stands, silent⟩ := Caller.stands_settle job w.link w.failures
  refine h.put (w.puts_enter job) rfl (fun _ _ => remains.acknowledged_iff.2)
    (Nat.le_of_eq keeps.registered.symm) stands (Nat.le_refl _) ?_ ?_
  · exact fun submits => absurd silent submits
  · exact fun j other found _ submits =>
      ⟨keeps.registering.trans (h.held found submits), silent⟩

/-! ## The link goes on -/

theorem Seated.relink (h : w.Seated) (callers : w'.callers = w.callers)
    (failures : w.failures ≤ w'.failures) (registered : w'.link.registered = w.link.registered)
    (registering : w'.link.registering = w.link.registering)
    (more : ∀ wait codes, w.link.Acknowledged wait codes → w'.link.Acknowledged wait codes) :
    w'.Seated := by
  constructor <;> rw [callers]
  case stands => exact fun found => (h.stands found).mono more
  case since => exact fun found => Nat.le_trans (h.since found) failures
  case held => exact fun found submits => registering.trans (h.held found submits)
  case alone => exact h.alone
  case numbered => exact registered ▸ h.numbered
  case ordered => exact h.ordered
  case owned => exact h.owned

theorem isOver_of_phase {phase : Phase} (here : w.link.phase = phase) (going : phase ≠ .over) :
    w.link.isOver = false := by
  rw [Link.isOver, here]
  exact decide_eq_false going

/-! ## Every happening -/

/-- What a happening does to a wire on which every call stands where it can stand. -/
inductive Moved (w : Wire) : Happening → Wire → Prop where
  | enters (job : Job) : Moved w (.start job) (w.enter job)
  /-- A call goes on to where it waits next. -/
  | goes {happening : Happening} {k : Nat} {caller after : Caller} {l' : Link} :
      (∀ outcome, happening ≠ .look outcome) → w.callers[k]? = some caller →
      Caller.Goes w.link l' caller after → after.job = caller.job → after.since = w.failures →
      Moved w happening { w with link := l', callers := w.callers.set k after }
  | refuses {k : Nat} {caller : Caller} {request : ClientRequest}
      {next : Ask.Reply (.submit request) → Call (Result caller.job.Value)}
      {error : TransportError} :
      w.callers[k]? = some caller → caller.rest = .request (.submit request) next →
      caller.answer = none →
      Moved w (.take k (.error error))
        { w with callers := w.callers.set k { caller with answer := some (.error error) } }
  | takes {k : Nat} {caller : Caller} {request : ClientRequest}
      {next : Ask.Reply (.submit request) → Call (Result caller.job.Value)} :
      w.callers[k]? = some caller → caller.rest = .request (.submit request) next →
      caller.answer = none →
      Moved w (.take k (.ok ()))
        ({ w with callers := w.callers.set k { caller with answer := some (.ok ()) } }.send
          (w.sent k caller request))
  | answers {kind : AckKind} {codes : List UInt8} {request : Sent} {later : List Sent} :
      w.link.isOver = false → w.unanswered kind = request :: later →
      Moved w (.look (.acknowledged kind codes))
        { w with
          link := w.link.attend (.acknowledged kind codes)
          unanswered := Function.update w.unanswered kind later
          answered := (request, codes) :: w.answered }
  | fails {reason : String} : w.link.isOver = false →
      Moved w (.look (.failed reason))
        { w with
          link := w.link.lose reason
          unanswered := fun _ => []
          failures := w.failures + 1 }
  | looks {outcome : Outcome} : w.link.isOver = false →
      (∀ kind codes, outcome ≠ .acknowledged kind codes) →
      (∀ reason, outcome ≠ .failed reason) →
      Moved w (.look outcome) { w with link := w.link.attend outcome }
  | resumes : w.link.isOver = false → Moved w .resume { w with link := w.link.resume }
  | leaves : Moved w .leave { w with link := { w.link with heard := false } }

theorem Seated.moved (h : w.Seated) (happens : w.next? happening = some w') :
    w.Moved happening w' := by
  cases happening with
  | start job =>
      obtain rfl := Option.some.inj happens
      exact .enters job
  | turn k =>
      obtain ⟨caller, next, there, left, free, rfl⟩ := next?_turn happens
      have goes := Caller.turned_turn w.failures (h.stands there) left free
      exact .goes (fun _ => nofun) there goes rfl rfl
  | take k answer =>
      obtain ⟨caller, request, next, there, left, unheard, taken | refused⟩ := next?_take happens
      · obtain ⟨rfl, rfl⟩ := taken
        exact .takes there left unheard
      · obtain ⟨error, rfl, rfl⟩ := refused
        exact .refuses there left unheard
  | hear k =>
      obtain ⟨caller, request, next, answer, there, left, heard, rfl⟩ := next?_hear happens
      have goes := Caller.turned_hear w.failures (h.stands there) left heard (h.held there)
      exact .goes (fun _ => nofun) there goes rfl rfl
  | wake k =>
      obtain ⟨caller, wait, next, there, left, rfl⟩ := next?_wake happens
      have goes := Caller.turned_wake w.failures (h.stands there) left
      exact .goes (fun _ => nofun) there goes rfl rfl
  | look outcome =>
      obtain ⟨attending, acknowledged | failed | other⟩ := next?_look happens
      · obtain ⟨kind, codes, request, later, rfl, first, rfl⟩ := acknowledged
        exact .answers (isOver_of_phase attending (by decide)) first
      · obtain ⟨reason, rfl, rfl⟩ := failed
        exact .fails (isOver_of_phase attending (by decide))
      · obtain ⟨unacknowledged, unfailed, rfl⟩ := other
        exact .looks (isOver_of_phase attending (by decide)) unacknowledged unfailed
  | resume =>
      obtain ⟨pausing, rfl⟩ := next?_resume happens
      exact .resumes (isOver_of_phase pausing (by decide))
  | leave =>
      obtain rfl := Option.some.inj happens
      exact .leaves

theorem Seated.next? (h : w.Seated) (moved : w.Moved happening w') : w'.Seated := by
  have thinned : ∀ {v : Wire}, v.callers = w.callers → w.failures ≤ v.failures →
      w.link.Thins v.link → v.Seated := fun callers failures thins =>
    h.relink callers failures thins.registered thins.registering thins.stays
  cases moved with
  | enters job => exact h.enter job
  | goes unseen there goes job since =>
      exact h.goes there (puts_set there rfl goes.turned.waits_eq job) goes since
  | refuses there left => exact h.hears there left rfl rfl rfl
  | takes there left =>
      obtain ⟨link, callers, failures, -⟩ := send_eq _ _
      exact h.hears there left callers link failures
  | @answers kind codes =>
      exact thinned rfl (Nat.le_refl _) (w.link.thins_attend (.acknowledged kind codes))
  | @fails reason => exact thinned rfl (Nat.le_succ _) (w.link.thins_attend (.failed reason))
  | looks => exact thinned rfl (Nat.le_refl _) (w.link.thins_attend _)
  | resumes => exact thinned rfl (Nat.le_refl _) w.link.thins_resume
  | leaves => exact h.relink rfl (Nat.le_refl _) rfl rfl fun _ _ => id

/-! ## What a happening does to the link -/

/-- What calls do to a link: waits come and go, and none ends. -/
structure Stirs (l l' : Link) : Prop where
  remains : l.Remains l'
  registered : l.registered ≤ l'.registered
  waits : ∀ kind, ∀ wait ∈ l'.waits kind, wait ∈ l.waits kind ∨ l.registered ≤ wait

theorem stirs_of_keeps {l l' : Link} (keeps : l.Keeps l') (remains : l.Remains l') :
    Stirs l l' where
  remains := remains
  registered := Nat.le_of_eq keeps.registered.symm
  waits kind wait member := by
    rw [keeps.waits] at member
    exact Or.inl member

theorem stirs_of_eq {l l' : Link} (same : l' = l) : Stirs l l' := by
  subst same
  exact stirs_of_keeps (.refl l') ⟨rfl, rfl, rfl⟩

/-- A link goes on by itself, or calls do something to it. -/
theorem Moved.link_cases (moved : w.Moved happening w') :
    w.link.isOver = false ∧ (∃ outcome, happening = .look outcome ∧
        w'.link = w.link.attend outcome) ∨
      w.link.isOver = false ∧ happening = .resume ∧ w'.link = w.link.resume ∨
      (∀ outcome, happening ≠ .look outcome) ∧ Stirs w.link w'.link := by
  cases moved with
  | enters job =>
      obtain ⟨keeps, remains, -⟩ := Caller.stands_settle job w.link w.failures
      exact Or.inr (Or.inr ⟨fun _ => nofun, stirs_of_keeps keeps remains⟩)
  | goes unseen there goes =>
      have stirs : Stirs w.link _ :=
        ⟨goes.remains, goes.turned.registered_le, fun _ _ => goes.turned.mem_waits⟩
      exact Or.inr (Or.inr ⟨unseen, stirs⟩)
  | refuses => exact Or.inr (Or.inr ⟨fun _ => nofun, stirs_of_eq rfl⟩)
  | takes => exact Or.inr (Or.inr ⟨fun _ => nofun, stirs_of_eq (send_eq _ _).1⟩)
  | answers going => exact Or.inl ⟨going, _, rfl, rfl⟩
  | fails going => exact Or.inl ⟨going, _, rfl, rfl⟩
  | looks going => exact Or.inl ⟨going, _, rfl, rfl⟩
  | resumes going => exact Or.inr (Or.inl ⟨going, rfl, rfl⟩)
  | leaves =>
      exact Or.inr (Or.inr ⟨fun _ => nofun,
        stirs_of_keeps ⟨rfl, rfl, rfl, rfl⟩ ⟨rfl, rfl, rfl⟩⟩)

/-! ## Waits from before a failure -/

/-- Whether a wait is older than all that have not ended. -/
def Outlived (w : Wire) (wait : WaitId) : Prop :=
  wait < w.link.registered ∧ ∀ kind, ∀ other ∈ w.link.waits kind, wait < other

theorem Outlived.next? {wait : WaitId} (h : w.Outlived wait) (moved : w.Moved happening w') :
    w'.Outlived wait := by
  have thinned : w.link.Thins w'.link → w'.Outlived wait := fun thins =>
    ⟨thins.registered ▸ h.1, fun kind other member => h.2 kind other (thins.waits kind other member)⟩
  rcases moved.link_cases with ⟨-, outcome, -, link⟩ | ⟨-, -, link⟩ | ⟨-, stirs⟩
  · exact thinned (link ▸ w.link.thins_attend outcome)
  · exact thinned (link ▸ w.link.thins_resume)
  · refine ⟨Nat.lt_of_lt_of_le h.1 stirs.registered, fun kind other member => ?_⟩
    rcases stirs.waits kind other member with before | new
    · exact h.2 kind other before
    · exact Nat.lt_of_lt_of_le h.1 new

/-- The waits from before a failure are older than all that have not ended, those of the callers and
those of requests that were taken afterwards. -/
structure Parted (w : Wire) : Prop where
  callers : ∀ {k : Nat} {caller : Caller}, w.callers[k]? = some caller →
    caller.since ≠ w.failures → ∀ wait ∈ caller.waits, w.Outlived wait
  unanswered : ∀ {kind : AckKind} {request : Sent}, request ∈ w.unanswered kind →
    request.belated = true → w.Outlived request.wait

/-- What is not acknowledged after the first request was, had not been before. -/
theorem mem_of_mem_later {kind other : AckKind} {request sent : Sent} {later : List Sent}
    (first : w.unanswered kind = request :: later)
    (member : sent ∈ Function.update w.unanswered kind later other) :
    sent ∈ w.unanswered other := by
  by_cases here : other = kind
  · subst here
    rw [Function.update_self] at member
    exact first ▸ List.mem_cons_of_mem request member
  · rwa [Function.update_of_ne here] at member

theorem Parted.callers_next? (h : w.Parted) (seated : w.Seated) (moved : w.Moved happening w')
    {k : Nat} {caller : Caller} (found : w'.callers[k]? = some caller)
    (past : caller.since ≠ w'.failures) {wait : WaitId} (own : wait ∈ caller.waits) :
    w'.Outlived wait := by
  have still : w'.callers = w.callers → w'.failures = w.failures → w'.Outlived wait := by
    intro callers failures
    rw [callers] at found
    rw [failures] at past
    exact (h.callers found past wait own).next? moved
  -- Apart from a caller that is put, all are there as before.
  have put : ∀ {j : Nat} {after : Caller}, w.Puts w' j after → w'.failures = w.failures →
      (after.since ≠ w.failures → wait ∈ after.waits → w.Outlived wait) → w'.Outlived wait := by
    intro j after puts failures old
    rw [failures] at past
    rcases puts.cases found with ⟨-, rfl⟩ | ⟨-, there⟩
    · exact (old past own).next? moved
    · exact (h.callers there past wait own).next? moved
  cases moved with
  | enters job => exact put (w.puts_enter job) rfl fun past => absurd rfl past
  | goes unseen there goes job since =>
      exact put (puts_set there rfl goes.turned.waits_eq job) rfl fun past => absurd since past
  | refuses there => exact put (puts_answer there rfl rfl) rfl fun past => h.callers there past wait
  | takes there =>
      obtain ⟨link, callers, failures, -⟩ := send_eq _ _
      exact put (puts_answer there callers link) failures fun past => h.callers there past wait
  | @fails reason =>
      -- Nothing waits after a failure.
      refine ⟨(w.link.drops_lose reason).registered ▸ seated.numbered found wait own, ?_⟩
      intro kind other member
      rw [(w.link.drops_lose reason).waits] at member
      cases member
  | answers | looks | resumes | leaves => exact still rfl rfl

theorem Parted.unanswered_next? (h : w.Parted) (seated : w.Seated) (moved : w.Moved happening w')
    {kind : AckKind} {request : Sent} (member : request ∈ w'.unanswered kind)
    (belated : request.belated = true) : w'.Outlived request.wait := by
  suffices old : w.Outlived request.wait from old.next? moved
  cases moved with
  | takes there left =>
      rcases mem_unanswered_send member with before | ⟨rfl, acknowledged⟩
      · exact h.unanswered before belated
      · obtain ⟨earlier, wait, own, same, -⟩ := seated.sent_eq there left acknowledged
        rw [same] at belated ⊢
        refine h.callers there (of_decide_eq_true belated) wait ?_
        rw [own]
        exact List.mem_append_right _ List.mem_cons_self
  | answers going first => exact h.unanswered (mem_of_mem_later first member) belated
  | fails => cases member
  | enters | goes | refuses | looks | resumes | leaves => exact h.unanswered member belated

theorem Parted.next? (h : w.Parted) (seated : w.Seated) (moved : w.Moved happening w') :
    w'.Parted :=
  ⟨fun found past _ own => h.callers_next? seated moved found past own,
    fun member belated => h.unanswered_next? seated moved member belated⟩

end Wire

end Mqtt

end DeviceConsole
