import DeviceConsole.Mqtt.Call
import DeviceConsole.Topic.Filter

/-!
# A session whose broker is out of reach

Every attempt to connect fails at once, so a session without a pause between attempts ends with the
first one, and any other goes on failing.  Time is simulated: it passes while something is waited
for.  This file defines:

* `Outage`, a link with the time that is left of its pause;
* `Outage.pass`, which lets time pass;
* `Outage.hear`, which takes the next event, and `Outage.drive`, which runs a call.
-/

namespace DeviceConsole

open Mqtt

/-- A session whose broker is out of reach. -/
structure Outage where
  link : Link
  /-- The version of the protocol, which shows in refusals. -/
  version : Version
  /-- What is left of the pause of the link, in milliseconds. -/
  left : Nat
  /-- The number of events that were taken. -/
  taken : Nat
  deriving DecidableEq

namespace Outage

def start (options : ClientOptions) : Except Link.StartFailure Outage := do
  let link ← Link.start options
  return { link := link, version := options.version, left := 0, taken := 0 }

def reason : String := "broker out of reach"

def advance (o : Outage) : Outage :=
  match o.link.phase with
  | .attending => { o with link := o.link.attend (.failed reason), left := o.link.pause }
  | .pausing => { o with link := o.link.resume, left := 0 }
  | .over => o

/-- Lets time pass, with at most so many things done by the link. -/
def passFor : Nat → Nat → Outage → Outage
  | 0, _, o => o
  | n + 1, time, o =>
    match o.link.phase with
    | .attending => passFor n time o.advance
    | .pausing =>
      if o.left ≤ time then passFor n (time - o.left) o.advance
      else { o with left := o.left - time }
    | .over => o

/-- Lets milliseconds pass.  A pause takes one at least, so the link does at most two things in
each. -/
def pass (time : Nat) (o : Outage) : Outage := passFor (2 * time + 2) time o

def next? (o : Outage) : Option TransportEvent := o.link.events[o.taken]?

/-- Takes the next event, which the next thing that the link does will bring; nothing after the last
one. -/
def hear (o : Outage) : Option TransportEvent × Outage :=
  -- Whatever a link does brings an event, unless it is over.
  let o := if o.next?.isSome then o else o.advance
  match o.next? with
  | some event => (some event, { o with taken := o.taken + 1 })
  | none => (none, o)

/-! ## Calls -/

def takes (o : Outage) (request : ClientRequest) : Bool :=
  !o.link.isOver &&
    match request with
    | .publish topic _ _ => !Topic.containsWildcard topic
    | _ => true

/-- Waits until a wait ended, or for so many milliseconds; the link does at most so many things. -/
def await (wait : WaitId) : Nat → Nat → Outage → Option WaitEnd × Outage
  | 0, _, o => (none, o)
  | n + 1, time, o =>
    match o.link.end? wait with
    | some found => (some found, o)
    | none =>
      if o.left ≤ time then await wait n (time - o.left) o.advance
      else (none, { o with left := o.left - time })

/-- Replies to a call.  No other call is under way. -/
def reply (o : Outage) : (a : Ask) → a.Reply × Outage
  | .turn => ((), { o with link := { o.link with registering := true } })
  | .submit request =>
    if o.takes request then (.ok (), o)
    else (.error (.client (o.version = .five) "Failed to send mqtt requests to eventloop"), o)
  | .await wait => await wait 3 (1000 * Call.ackTimeout) o

def drive {α : Type} : Call α → Outage → α × Outage
  | .done a, o => (a, o)
  | .step change next, o => drive (next o.link) { o with link := change o.link }
  | .request a next, o =>
    let (reply, o) := o.reply a
    drive (next reply) o

end Outage

end DeviceConsole
