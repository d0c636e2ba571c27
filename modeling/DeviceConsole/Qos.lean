/-!
# Delivery guarantees

A message is delivered at most once, at least once or exactly once.  This file defines `Qos` and its
levels 0, 1 and 2.
-/

namespace DeviceConsole

/-- How often a message may arrive. -/
inductive Qos where
  | atMostOnce
  | atLeastOnce
  | exactlyOnce
  deriving DecidableEq, Repr, Inhabited

namespace Qos

def level : Qos → Nat
  | atMostOnce => 0
  | atLeastOnce => 1
  | exactlyOnce => 2

def ofLevel? : Nat → Option Qos
  | 0 => some atMostOnce
  | 1 => some atLeastOnce
  | 2 => some exactlyOnce
  | _ => none

def wrongLevel (level : Nat) : String := "invalid QoS level: " ++ toString level

end Qos

end DeviceConsole
