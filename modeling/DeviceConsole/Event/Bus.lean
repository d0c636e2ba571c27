import DeviceConsole.Event.ThingEvent

/-!
# The event bus

Every listener gets every event raised while it listens.  The bus keeps a bounded number of events,
a power of two; a listener that falls further behind loses the oldest ones and is told how many.
This file defines:

* `Listener`, the events that wait for one listener, with `deliver`;
* `EventBus`, with `subscribe`, `unsubscribe`, `publish` and `drain`.
-/

namespace DeviceConsole

/-- What waits for one listener: the newest events, oldest first, and the number of lost ones. -/
structure Listener where
  lost : Nat
  waiting : List ThingEvent
  deriving DecidableEq, Repr, Inhabited

namespace Listener

def empty : Listener := ⟨0, []⟩

/-- Adds an event; if there is no room for it, the oldest one is lost. -/
def deliver (slots : Nat) (event : ThingEvent) (l : Listener) : Listener :=
  if l.waiting.length < slots then { l with waiting := l.waiting ++ [event] }
  else ⟨l.lost + 1, (l.waiting ++ [event]).drop 1⟩

end Listener

/-- A bus with its room per listener and its listeners by name. -/
structure EventBus where
  slots : Nat
  listeners : KeyMap Listener

namespace EventBus

/-- The room of a bus about which nothing is said. -/
def defaultCapacity : Nat := 256

/-- The largest number of events for which room can be asked. -/
def maxSlots : Nat := Nat.pow 2 56

/-- Whether a bus can keep at least the given number of events. -/
def isPossible (capacity : Nat) : Bool := capacity.nextPowerOfTwo ≤ maxSlots

/-- A bus without listeners that keeps at least the given number of events. -/
def ofCapacity (capacity : Nat) : EventBus := ⟨capacity.nextPowerOfTwo, .empty⟩

instance : Inhabited EventBus := ⟨ofCapacity defaultCapacity⟩

/-- Adds a listener, in place of one with the same name. -/
def subscribe (bus : EventBus) (name : String) : EventBus :=
  { bus with listeners := bus.listeners.insert name .empty }

def unsubscribe (bus : EventBus) (name : String) : EventBus :=
  { bus with listeners := bus.listeners.erase name }

def subscriberCount (bus : EventBus) : Nat := bus.listeners.entries.length

def publish (bus : EventBus) (event : ThingEvent) : EventBus :=
  { bus with listeners := bus.listeners.mapValues (Listener.deliver bus.slots event) }

def drain (bus : EventBus) (name : String) : Option Listener × EventBus :=
  match bus.listeners.get? name with
  | some listener => (some listener, bus.subscribe name)
  | none => (none, bus)

end EventBus

end DeviceConsole
