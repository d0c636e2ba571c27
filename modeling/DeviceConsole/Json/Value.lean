import DeviceConsole.KeyMap
import DeviceConsole.Number.Binary64

/-!
# JSON values

A value keeps the members of an object as they were written: in order, and with repetitions.
Whoever reads a value decides what a repetition means.  This file defines:

* `Number`, an integer or a finite double, and its two comparisons;
* `Json`, with `Json.sameValue`, equality up to the sign of a zero;
* `Json.canonical`, the value with every object in key order, in which the last of several members
  with one name stays.
-/

namespace DeviceConsole

/-- A number as a document holds it: integers of 64 bits stay integers, all others are doubles. -/
inductive Number where
  | int (value : Int)
  | float (value : Binary64)
  deriving DecidableEq, Repr

namespace Number

def toBinary64 : Number → Binary64
  | int i => Binary64.ofInt i
  | float x => x

/-- Equality of numbers of one kind: an integer never equals a double, and both zeros are equal. -/
def sameKind : Number → Number → Bool
  | int a, int b => decide (a = b)
  | float a, float b => a.sameValue b
  | _, _ => false

/-- Equality of the nearest doubles, so that `1` equals `1.0`. -/
def sameValue (a b : Number) : Bool := a.toBinary64.sameValue b.toBinary64

end Number

inductive Json where
  | null
  | bool (value : Bool)
  | num (value : Number)
  | str (text : String)
  | arr (items : List Json)
  | obj (members : List (String × Json))
  deriving Repr, Inhabited

namespace Json

def ofInt (i : Int) : Json := .num (.int i)

def ofNat (n : Nat) : Json := .num (.int n)

def ofOption {α : Type} (encode : α → Json) : Option α → Json
  | none => .null
  | some a => encode a

mutual

/-- Structural equality, with numbers compared by `Number.sameKind`. -/
def sameValue : Json → Json → Bool
  | .null, .null => true
  | .bool a, .bool b => a == b
  | .num a, .num b => a.sameKind b
  | .str a, .str b => a == b
  | .arr a, .arr b => sameItems a b
  | .obj a, .obj b => sameMembers a b
  | _, _ => false

def sameItems : List Json → List Json → Bool
  | [], [] => true
  | a :: as, b :: bs => sameValue a b && sameItems as bs
  | _, _ => false

def sameMembers : List (String × Json) → List (String × Json) → Bool
  | [], [] => true
  | (k, a) :: as, (l, b) :: bs => k == l && sameValue a b && sameMembers as bs
  | _, _ => false

end

mutual

/-- Puts the members of every object in key order; the last of several members with one name
stays. -/
def canonical : Json → Json
  | .arr items => .arr (canonicalItems items)
  | .obj members => .obj (KeyList.ofList (canonicalMembers members))
  | other => other

def canonicalItems : List Json → List Json
  | [] => []
  | item :: rest => canonical item :: canonicalItems rest

def canonicalMembers : List (String × Json) → List (String × Json)
  | [] => []
  | (name, value) :: rest => (name, canonical value) :: canonicalMembers rest

end

/-- The first member with this name, if the value is an object. -/
def member? (name : String) : Json → Option Json
  | .obj members => KeyList.get? name members
  | _ => none

def string? : Json → Option String
  | .str text => some text
  | _ => none

def items? : Json → Option (List Json)
  | .arr items => some items
  | _ => none

def bool? : Json → Option Bool
  | .bool b => some b
  | _ => none

def int? : Json → Option Int
  | .num (.int i) => some i
  | _ => none

end Json

end DeviceConsole
