import Mathlib.Logic.Function.Basic
import DeviceConsole.Proofs.Mqtt.Calls
import DeviceConsole.Proofs.Mqtt.Queues

/-!
# Calls on one session that overlap

Any number of calls on a session are under way at once, each cut where it waits for something, and
between two turns of a call the others, the client, the broker and the link do what they like.  The
broker acknowledges the requests of a kind in the order in which the client took them, and whatever
was taken and is not acknowledged is discarded when the connection fails.  This file defines:

* `Job`, a call that can be made on a session, and `Caller`, one that is under way;
* `Wire`, a link with its callers and the requests that are on their way;
* `Happening` and `Wire.next?`, what can happen next and what comes of it;
* `Wire.Run`, one happening after the other.
-/

namespace DeviceConsole

namespace Mqtt

/-! ## Calls -/

/-- A call that can be made on a session. -/
inductive Job where
  | publish (topic : String) (payload : Bytes) (options : PublishOptions)
  | subscribe (filters : List FilterRequest)
  | unsubscribe (filters : List String)
  | close
  deriving DecidableEq

def Job.Value : Job → Type
  | subscribe _ => List UInt8
  | _ => Unit

def Job.program : (job : Job) → Call (Result job.Value)
  | publish topic payload options => Call.publish topic payload options
  | subscribe filters => Call.subscribe filters
  | unsubscribe filters => Call.unsubscribe filters
  | close => Call.close

def ClientRequest.kind? : ClientRequest → Option AckKind
  | subscribe _ => some .subscription
  | unsubscribe _ => some .unsubscription
  | _ => none

structure Caller where
  job : Job
  /-- What is left to do. -/
  rest : Call (Result job.Value)
  /-- The waits that it registered, one for each request that is acknowledged. -/
  waits : List WaitId
  /-- What the client said to the request that it hands over, until the call has heard it. -/
  answer : Option (Except TransportError Unit)
  /-- The number of failures of the connection before it last went on. -/
  since : Nat

def Link.between (l l' : Link) : List WaitId :=
  List.range' l.registered (l'.registered - l.registered)

def Caller.advance (caller : Caller) (l : Link) (p : Call (Result caller.job.Value))
    (failures : Nat) : Caller where
  job := caller.job
  rest := (p.settle l).1
  waits := caller.waits ++ l.between (p.settle l).2
  answer := none
  since := failures

/-- A request that the client took: the call that it comes from, its place among the requests of the
call, and the wait that was registered for it. -/
structure Sent where
  call : Nat
  place : Nat
  request : ClientRequest
  wait : WaitId
  /-- Whether the connection failed while the request was handed over. -/
  belated : Bool
  deriving DecidableEq

/-! ## The wire -/

/-- A link with the calls on its session, oldest first. -/
structure Wire where
  link : Link
  callers : List Caller
  /-- What the client took and the broker did not acknowledge, oldest first. -/
  unanswered : AckKind → List Sent
  /-- The number of times that the connection failed. -/
  failures : Nat
  /-- The acknowledgements so far, with their codes, newest first. -/
  answered : List (Sent × List UInt8)

inductive Happening where
  | start (job : Job)
  /-- A call may register its waits. -/
  | turn (k : Nat)
  /-- The client takes a request, or refuses it. -/
  | take (k : Nat) (answer : Except TransportError Unit)
  /-- A call hears what the client said. -/
  | hear (k : Nat)
  /-- A call sees that its wait ended, or gives up. -/
  | wake (k : Nat)
  /-- The link looks at the connection. -/
  | look (outcome : Outcome)
  /-- The pause of the link is over. -/
  | resume
  /-- Nobody takes the events any more. -/
  | leave

namespace Wire

def quiet (pause : Nat) : Wire := ⟨.ofPause pause, [], fun _ => [], 0, []⟩

def enter (w : Wire) (job : Job) : Wire :=
  let turn := job.program.settle w.link
  { w with
    link := turn.2
    callers := w.callers ++ [⟨job, turn.1, [], none, w.failures⟩] }

def proceed (w : Wire) (k : Nat) (caller : Caller) (p : Call (Result caller.job.Value)) : Wire :=
  { w with
    link := (p.settle w.link).2
    callers := w.callers.set k (caller.advance w.link p w.failures) }

/-- The request that a call hands over, with its newest wait. -/
def sent (w : Wire) (k : Nat) (caller : Caller) (request : ClientRequest) : Sent :=
  ⟨k, caller.waits.length - 1, request, caller.waits.getLastD 0, caller.since ≠ w.failures⟩

/-- Puts a request behind the others of its kind. -/
def send (w : Wire) (request : Sent) : Wire :=
  match request.request.kind? with
  | none => w
  | some kind =>
    { w with unanswered := Function.update w.unanswered kind (w.unanswered kind ++ [request]) }

/-- What comes of a happening, if it is possible.  A failure discards the requests that wait for
their acknowledgement.  One that is being handed over is not among them: the client may take it
afterwards. -/
def next? (w : Wire) : Happening → Option Wire
  | .start job => some (w.enter job)
  | .turn k =>
    match w.callers[k]? with
    | some caller =>
      match caller.rest with
      | .request .turn next =>
        if w.link.registering then none
        else
          some ({ w with link := { w.link with registering := true } }.proceed k caller (next ()))
      | _ => none
    | none => none
  | .take k answer =>
    match w.callers[k]? with
    | some caller =>
      match caller.rest, caller.answer with
      | .request (.submit request) _, none =>
        let w' := { w with callers := w.callers.set k { caller with answer := some answer } }
        match answer with
        | .ok () => some (w'.send (w.sent k caller request))
        | .error _ => some w'
      | _, _ => none
    | none => none
  | .hear k =>
    match w.callers[k]? with
    | some caller =>
      match caller.rest, caller.answer with
      | .request (.submit _) next, some answer => some (w.proceed k caller (next answer))
      | _, _ => none
    | none => none
  | .wake k =>
    match w.callers[k]? with
    | some caller =>
      match caller.rest with
      | .request (.await wait) next => some (w.proceed k caller (next (w.link.end? wait)))
      | _ => none
    | none => none
  | .look outcome =>
    if w.link.phase = .attending then
      match outcome with
      | .acknowledged kind codes =>
        match w.unanswered kind with
        | request :: later =>
          some { w with
            link := w.link.attend (.acknowledged kind codes)
            unanswered := Function.update w.unanswered kind later
            answered := (request, codes) :: w.answered }
        | [] => none
      | .failed reason =>
        some { w with
          link := w.link.attend (.failed reason)
          unanswered := fun _ => []
          failures := w.failures + 1 }
      | outcome => some { w with link := w.link.attend outcome }
    else none
  | .resume => if w.link.phase = .pausing then some { w with link := w.link.resume } else none
  | .leave => some { w with link := { w.link with heard := false } }

/-! ## What has to be the case -/

variable {w w' : Wire} {k : Nat}

/-- A request that is sent changes only what is not acknowledged. -/
theorem send_eq (w : Wire) (request : Sent) :
    (w.send request).link = w.link ∧ (w.send request).callers = w.callers ∧
      (w.send request).failures = w.failures ∧ (w.send request).answered = w.answered := by
  rw [send]
  split <;> exact ⟨rfl, rfl, rfl, rfl⟩

theorem unanswered_send {request : Sent} {kind : AckKind}
    (acknowledged : request.request.kind? = some kind) :
    (w.send request).unanswered =
      Function.update w.unanswered kind (w.unanswered kind ++ [request]) := by
  rw [send, acknowledged]

/-- A request that is sent is the only new one. -/
theorem mem_unanswered_send {request other : Sent} {kind : AckKind}
    (member : other ∈ (w.send request).unanswered kind) :
    other ∈ w.unanswered kind ∨ other = request ∧ request.request.kind? = some kind := by
  cases acknowledged : request.request.kind? with
  | none =>
      rw [send, acknowledged] at member
      exact Or.inl member
  | some sort =>
      rw [unanswered_send acknowledged] at member
      by_cases same : kind = sort
      · subst same
        rw [Function.update_self, List.mem_append, List.mem_singleton] at member
        exact member.imp_right fun new => ⟨new, rfl⟩
      · rw [Function.update_of_ne same] at member
        exact Or.inl member

theorem next?_turn (h : w.next? (.turn k) = some w') :
    ∃ caller next, w.callers[k]? = some caller ∧ caller.rest = .request .turn next ∧
      w.link.registering = false ∧
      w' = { w with link := { w.link with registering := true } }.proceed k caller (next ()) := by
  simp only [next?] at h
  split at h
  · next caller there =>
      split at h
      · next next left =>
          split at h
          · cases h
          · next free =>
              exact ⟨caller, next, there, left, by simpa using free, (Option.some.inj h).symm⟩
      · cases h
  · cases h

theorem next?_take {answer : Except TransportError Unit}
    (h : w.next? (.take k answer) = some w') :
    ∃ caller request next, w.callers[k]? = some caller ∧
      caller.rest = .request (.submit request) next ∧ caller.answer = none ∧
      (answer = .ok () ∧
          w' = { w with callers := w.callers.set k { caller with answer := some (.ok ()) } }.send
            (w.sent k caller request) ∨
        ∃ error, answer = .error error ∧
          w' = { w with callers := w.callers.set k { caller with answer := some answer } }) := by
  simp only [next?] at h
  split at h
  · next caller there =>
      split at h
      · next request next left unheard =>
          refine ⟨caller, request, next, there, left, unheard, ?_⟩
          cases answer with
          | error error => exact Or.inr ⟨error, rfl, (Option.some.inj h).symm⟩
          | ok => exact Or.inl ⟨rfl, (Option.some.inj h).symm⟩
      · cases h
  · cases h

theorem next?_hear (h : w.next? (.hear k) = some w') :
    ∃ caller request next answer, w.callers[k]? = some caller ∧
      caller.rest = .request (.submit request) next ∧ caller.answer = some answer ∧
      w' = w.proceed k caller (next answer) := by
  simp only [next?] at h
  split at h
  · next caller there =>
      split at h
      · next request next answer left heard =>
          exact ⟨caller, request, next, answer, there, left, heard, (Option.some.inj h).symm⟩
      · cases h
  · cases h

theorem next?_wake (h : w.next? (.wake k) = some w') :
    ∃ caller wait next, w.callers[k]? = some caller ∧ caller.rest = .request (.await wait) next ∧
      w' = w.proceed k caller (next (w.link.end? wait)) := by
  simp only [next?] at h
  split at h
  · next caller there =>
      split at h
      · next wait next left => exact ⟨caller, wait, next, there, left, (Option.some.inj h).symm⟩
      · cases h
  · cases h

theorem next?_look {outcome : Outcome} (h : w.next? (.look outcome) = some w') :
    w.link.phase = .attending ∧
      ((∃ kind codes request later, outcome = .acknowledged kind codes ∧
          w.unanswered kind = request :: later ∧
          w' = { w with
            link := w.link.attend outcome
            unanswered := Function.update w.unanswered kind later
            answered := (request, codes) :: w.answered }) ∨
        (∃ reason, outcome = .failed reason ∧
          w' = { w with
            link := w.link.lose reason
            unanswered := fun _ => []
            failures := w.failures + 1 }) ∨
        (∀ kind codes, outcome ≠ .acknowledged kind codes) ∧
          (∀ reason, outcome ≠ .failed reason) ∧
          w' = { w with link := w.link.attend outcome }) := by
  simp only [next?] at h
  split at h
  · next attending =>
      refine ⟨attending, ?_⟩
      split at h
      · next kind codes =>
          split at h
          · next request later found =>
              exact Or.inl ⟨kind, codes, request, later, rfl, found, (Option.some.inj h).symm⟩
          · cases h
      · next reason => exact Or.inr (Or.inl ⟨reason, rfl, (Option.some.inj h).symm⟩)
      · next unacknowledged unfailed =>
          exact Or.inr (Or.inr ⟨fun kind codes same => unacknowledged kind codes same,
            fun reason same => unfailed reason same, (Option.some.inj h).symm⟩)
  · cases h

theorem next?_resume (h : w.next? .resume = some w') :
    w.link.phase = .pausing ∧ w' = { w with link := w.link.resume } := by
  simp only [next?] at h
  split at h
  · next pausing => exact ⟨pausing, (Option.some.inj h).symm⟩
  · cases h

/-! ## Runs -/

structure Passage where
  before : Wire
  happening : Happening
  after : Wire

/-- Whether the connection failed, or the link came to its end. -/
def Passage.Interrupts (p : Passage) : Prop :=
  (∃ reason, p.happening = .look (.failed reason)) ∨
    p.before.link.isOver = false ∧ p.after.link.isOver = true

/-- The request that an acknowledgement is for, with the wait that it ends, if it ends one. -/
def Passage.ends? (p : Passage) : Option (Sent × WaitId) :=
  match p.happening with
  | .look (.acknowledged kind _) =>
    match p.before.unanswered kind, p.before.link.waits kind with
    | request :: _, wait :: _ => some (request, wait)
    | _, _ => none
  | _ => none

theorem Passage.ends?_eq_some {p : Passage} {request : Sent} {wait : WaitId} :
    p.ends? = some (request, wait) ↔ ∃ kind codes later others,
      p.happening = .look (.acknowledged kind codes) ∧
        p.before.unanswered kind = request :: later ∧
        p.before.link.waits kind = wait :: others := by
  unfold ends?
  constructor
  · intro ended
    split at ended
    · next kind codes same =>
        split at ended
        · next request' later wait' others first waiting =>
            cases ended
            exact ⟨kind, codes, later, others, same, first, waiting⟩
        · cases ended
    · cases ended
  · rintro ⟨kind, codes, later, others, same, first, waiting⟩
    simp only [same, first, waiting]

/-- Whether a wait ends with the acknowledgement of its own request, if one does. -/
def Passage.Fits (p : Passage) : Prop := ∀ ended ∈ p.ends?, ended.2 = ended.1.wait

/-- Whether a wait ends with the acknowledgement of a belated request. -/
def Passage.Strays (p : Passage) : Prop := ∃ ended ∈ p.ends?, ended.1.belated = true

instance (p : Passage) : Decidable p.Strays :=
  inferInstanceAs (Decidable (∃ ended ∈ p.ends?, _ = true))

/-- What happened one after the other since a session began. -/
inductive Run (pause : Nat) : List Passage → Wire → Prop where
  | start : Run pause [] (quiet pause)
  | step {passages : List Passage} {w w' : Wire} {happening : Happening} :
      Run pause passages w → w.next? happening = some w' →
      Run pause (passages ++ [⟨w, happening, w'⟩]) w'

theorem Run.before {pause : Nat} {passages : List Passage} (run : Run pause passages w)
    {p : Passage} (member : p ∈ passages) :
    p.before.next? p.happening = some p.after ∧
      ∃ earlier, Run pause earlier p.before ∧ earlier ⊆ passages := by
  induction run with
  | start => cases member
  | @step passages w w' happening run happens ih =>
      rcases List.mem_append.1 member with earlier | last
      · obtain ⟨possible, passages', run', sub⟩ := ih earlier
        exact ⟨possible, passages', run', List.subset_append_of_subset_left _ sub⟩
      · obtain rfl := List.mem_singleton.1 last
        exact ⟨happens, passages, run, List.subset_append_left _ _⟩

/-- What comes of one happening after the other, up to the first that is not possible. -/
def play (w : Wire) : List Happening → List Passage × Wire
  | [] => ([], w)
  | happening :: rest =>
    match w.next? happening with
    | some w' => (⟨w, happening, w'⟩ :: (w'.play rest).1, (w'.play rest).2)
    | none => ([], w)

theorem Run.play {pause : Nat} {passages : List Passage} (run : Run pause passages w)
    (happenings : List Happening) :
    Run pause (passages ++ (w.play happenings).1) (w.play happenings).2 := by
  induction happenings generalizing passages w with
  | nil => rwa [Wire.play, List.append_nil]
  | cons happening rest ih =>
      rw [Wire.play]
      split
      · next w' possible =>
          have whole := ih (run.step possible)
          rwa [List.append_assoc] at whole
      · rwa [List.append_nil]

end Wire

end Mqtt

end DeviceConsole
