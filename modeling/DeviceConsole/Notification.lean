import DeviceConsole.Json.Outline

/-!
# Notifications

What the operator is told, with a level.  This file defines:

* `Notification` and its levels;
* `Inbox`, a receiver of notifications that may be gone.
-/

namespace DeviceConsole

inductive NoticeLevel where
  | done
  | warn
  | fail
  deriving DecidableEq, Repr

def NoticeLevel.text : NoticeLevel → String
  | done => "done"
  | warn => "warn"
  | fail => "fail"

def NoticeLevel.all : List NoticeLevel := [done, warn, fail]

structure Notification where
  level : NoticeLevel
  text : String
  deriving DecidableEq, Repr

def Notification.names : List String := ["level", "text"]

def Notification.outline : Json.Outline := .ofNames names []

/-- Reads a notification; both fields have to be there. -/
def Notification.read? : Reader Notification := fun value => do
  let fields ← Fields.read? names value
  return {
    level := ← fields.required "level"
      (Json.variant? (NoticeLevel.all.map fun level => (level.text, level)))
    text := ← fields.required "text" Json.string? }

def Notification.toJson (n : Notification) : Json :=
  .obj [("level", .str n.level.text), ("text", .str n.text)]

/-- The texts of one level, oldest first. -/
def Notification.texts (level : NoticeLevel) (recorded : List Notification) : List String :=
  (recorded.filter fun n => n.level = level).map (·.text)

/-- A receiver of notifications: those that wait, oldest first, and whether anyone still listens. -/
structure Inbox where
  waiting : List Notification
  listening : Bool
  deriving Repr

namespace Inbox

def empty : Inbox := ⟨[], true⟩

/-- Delivers a notification; without a listener it is lost. -/
def send (inbox : Inbox) (n : Notification) : Inbox :=
  if inbox.listening then { inbox with waiting := inbox.waiting ++ [n] } else inbox

/-- Takes the oldest notification that waits. -/
def receive (inbox : Inbox) : Option Notification × Inbox :=
  match inbox.waiting with
  | [] => (none, inbox)
  | n :: rest => (some n, { inbox with waiting := rest })

/-- Stops listening; what waits is lost. -/
def drop (_ : Inbox) : Inbox := ⟨[], false⟩

end Inbox

end DeviceConsole
