import DeviceConsole.Mqtt.Call

/-!
# Calls that wait for acknowledgements

Subscribing and unsubscribing differ in how many requests they hand over and in what they make of
the acknowledgements, and in nothing else.  This file defines:

* `Program.settle`, which takes a program to where it has to wait;
* `Form`, what one of these calls hands over and returns, and `Form.program`, the call of a form;
* `Call.subscribe_eq` and `Call.unsubscribe_eq`: both calls have a form;
* one equation for each place at which such a call waits.
-/

namespace DeviceConsole

namespace Program

variable {σ ρ α : Type} {Reply : ρ → Type}

/-- Takes every step up to the next request. -/
def settle : Program σ Reply α → σ → Program σ Reply α × σ
  | done a, s => (done a, s)
  | step change next, s => settle (next s) (change s)
  | request r next, s => (request r next, s)

theorem bind_assoc {β γ : Type} (p : Program σ Reply α) (f : α → Program σ Reply β)
    (g : β → Program σ Reply γ) : (p.bind f).bind g = p.bind fun a => (f a).bind g := by
  induction p with
  | done a => rfl
  | step change next ih => exact congrArg (step change) (funext fun s => ih s)
  | request r next ih => exact congrArg (request r) (funext fun reply => ih reply)

end Program

namespace Mqtt

/-! ## Forms -/

/-- What a call that waits for acknowledgements hands over, one request after the other, and what it
makes of the last acknowledgement. -/
structure Form (α : Type) where
  kind : AckKind
  requests : List ClientRequest
  what : String
  finish : List UInt8 → α

namespace Form

variable {α : Type}

/-- Waits for one acknowledgement after the other; the newest had these codes. -/
def awaitAll (F : Form α) (codes : List UInt8) : List WaitId → Call (Result α)
  | [] => .done (.ok (F.finish codes))
  | wait :: later => .request (.await wait) fun reply =>
    match Call.acknowledgement F.what reply with
    | .error error => .done (.error error)
    | .ok codes => F.awaitAll codes later

/-- Hands over one request after the other, with a wait for each, and then waits for all of them. -/
def handOver (F : Form α) (waits : List WaitId) : List ClientRequest → Call (Result α)
  | [] => .step Call.yieldTurn fun _ => F.awaitAll [] waits
  | request :: later => .step (fun l => (l.register F.kind).2) fun l =>
    .request (.submit request) fun reply =>
      match reply with
      | .error error => .step (Link.withdraw F.kind) fun _ =>
        .step Call.yieldTurn fun _ => .done (.error error)
      | .ok () => F.handOver (waits ++ [l.registered]) later

/-- What follows once the client took the request with the newest wait, or refused it. -/
def afterSubmit (F : Form α) (waits : List WaitId) (later : List ClientRequest) :
    Except TransportError Unit → Call (Result α)
  | .error error => .step (Link.withdraw F.kind) fun _ =>
    .step Call.yieldTurn fun _ => .done (.error error)
  | .ok () => F.handOver waits later

/-- Where a call hands over a request, with these waits for it and those before. -/
def submitting (F : Form α) (waits : List WaitId) (request : ClientRequest)
    (later : List ClientRequest) : Call (Result α) :=
  .request (.submit request) (F.afterSubmit waits later)

def program (F : Form α) : Call (Result α) :=
  .step id fun l =>
    if l.isOver then .done (.error .notOpen)
    else .request .turn fun _ => F.handOver [] F.requests

variable {F : Form α} {earlier : List WaitId} {later : List ClientRequest}

theorem settle_program (l : Link) :
    F.program.settle l =
      (if l.isOver then .done (.error .notOpen)
        else .request .turn fun _ => F.handOver [] F.requests, l) := by
  by_cases finished : l.isOver = true
  · simp [program, Program.settle, finished]
  · simp [program, Program.settle, finished]

theorem settle_awaitAll (codes : List UInt8) (waits : List WaitId) (l : Link) :
    (F.awaitAll codes waits).settle l = (F.awaitAll codes waits, l) := by
  cases waits <;> rfl

theorem settle_handOver_nil (l : Link) :
    (F.handOver earlier []).settle l = (F.awaitAll [] earlier, Call.yieldTurn l) :=
  F.settle_awaitAll [] earlier (Call.yieldTurn l)

theorem settle_handOver_cons (request : ClientRequest) (l : Link) :
    (F.handOver earlier (request :: later)).settle l =
      (F.submitting (earlier ++ [l.registered]) request later, (l.register F.kind).2) := by
  refine congrArg (·, (l.register F.kind).2) (congrArg (Program.request _) (funext fun reply => ?_))
  cases reply <;> rfl

end Form

def subscribing (filters : List FilterRequest) : Form (List UInt8) :=
  ⟨.subscription, [.subscribe filters], "Subscription", id⟩

def unsubscribing (filters : List String) : Form Unit :=
  ⟨.unsubscription, filters.map .unsubscribe, "Unsubscription", fun _ => ()⟩

/-- What is done in its turn is the call of a form, unless the link is over. -/
theorem Form.program_eq {α : Type} {F : Form α} {inTurn : Call (Result α)}
    (same : inTurn = F.handOver [] F.requests) :
    ((Program.look Link.isOver).bind fun finished =>
      if finished then .done (.error .notOpen)
      else .request .turn fun _ => inTurn) = F.program := by
  rw [same]
  rfl

namespace Call

/-- A subscribing call waits for a single acknowledgement. -/
theorem subscribe_eq (filters : List FilterRequest) :
    subscribe filters = (subscribing filters).program := by
  refine (subscribing filters).program_eq ?_
  refine congrArg (Program.step _) (funext fun l => ?_)
  refine congrArg (Program.request (Ask.submit _)) (funext fun reply => ?_)
  cases reply with
  | error error => rfl
  | ok =>
      refine congrArg (Program.step _) (funext fun _ => ?_)
      refine congrArg (Program.request (Ask.await _)) (funext fun reply => ?_)
      rcases reply with _ | (codes | _) <;> rfl

/-- The codes do not matter to an unsubscribing call. -/
theorem awaitEach_eq (filters : List String) (codes : List UInt8) (waits : List WaitId) :
    awaitEach waits = (unsubscribing filters).awaitAll codes waits := by
  induction waits generalizing codes with
  | nil => rfl
  | cons wait later ih =>
      refine congrArg (Program.request (Ask.await wait)) (funext fun reply => ?_)
      rcases reply with _ | (codes | _)
      · rfl
      · exact ih codes
      · rfl

/-- What an unsubscribing call does once its requests are handed over, or one of them is not. -/
def afterEach (submitted : Result (List WaitId)) : Call (Result Unit) :=
  .step yieldTurn fun _ =>
    match submitted with
    | .error error => .done (.error error)
    | .ok waits => awaitEach waits

/-- Waits are put in front of those that are registered later. -/
theorem submitEach_bind (all : List String) (waits : List WaitId) (filters : List String) :
    ((submitEach filters).bind fun submitted => afterEach (submitted.map (waits ++ ·))) =
      (unsubscribing all).handOver waits (filters.map .unsubscribe) := by
  induction filters generalizing waits with
  | nil =>
      refine congrArg (Program.step _) (funext fun _ => ?_)
      rw [← awaitEach_eq]
      exact congrArg awaitEach (List.append_nil waits)
  | cons filter later ih =>
      refine congrArg (Program.step _) (funext fun l => ?_)
      refine congrArg (Program.request (Ask.submit _)) (funext fun reply => ?_)
      cases reply with
      | error error => rfl
      | ok =>
          -- The program for the others is bound twice, to put this wait in front and to go on.
          rw [← ih]
          have assoc := Program.bind_assoc (submitEach later)
            (fun submitted => .done (submitted.map (l.registered :: ·)))
            fun submitted => afterEach (submitted.map (waits ++ ·))
          refine Eq.trans assoc (congrArg (Program.bind _) (funext fun submitted => ?_))
          cases submitted with
          | error error => rfl
          | ok others => simp [Except.map, Program.bind]

/-- An unsubscribing call hands over a request for each filter. -/
theorem unsubscribe_eq (filters : List String) :
    unsubscribe filters = (unsubscribing filters).program := by
  refine (unsubscribing filters).program_eq ?_
  refine Eq.trans ?_ (submitEach_bind filters [] filters)
  refine congrArg (Program.bind (submitEach filters)) (funext fun submitted => ?_)
  cases submitted <;> rfl

end Call

end Mqtt

end DeviceConsole
