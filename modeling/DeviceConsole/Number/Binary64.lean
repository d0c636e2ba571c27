/-!
# Finite binary floating-point numbers of 64 bits

Only the numbers a document can hold are modelled: a sign and the position of the magnitude among
the finite doubles, counted upward from zero.  The position is the word that encodes the magnitude,
so equal numbers have equal positions and all arithmetic is exact arithmetic on naturals.  This file
defines:

* `Magnitude` positions, their significand and exponent, and the largest finite one;
* `Magnitude.ofQuotient`, rounding a quotient to the nearest double, ties to the even significand;
* `Binary64` and its comparison by value, for which both zeros are equal.
-/

namespace DeviceConsole

namespace Magnitude

/-- Number of doubles in one binade. -/
def binade : Nat := Nat.pow 2 52

/-- The position of infinity, the first one that is not finite. -/
def infinity : Nat := 2047 * binade

/-- The integer `m` of the value `m * 2 ^ e` at a position. -/
def significand (position : Nat) : Nat :=
  if position < binade then position else binade + position % binade

/-- The exponent `e`, increased by 1074, of the value `m * 2 ^ e` at a position. -/
def shift (position : Nat) : Nat :=
  position / binade - 1

/-- The value at a position as a quotient of naturals. -/
def quotient (position : Nat) : Nat × Nat :=
  (significand position * Nat.pow 2 (shift position), Nat.pow 2 1074)

/-- Divides and rounds to the nearest natural, a half to the even one. -/
def divideToEven (numerator denominator : Nat) : Nat :=
  let floor := numerator / denominator
  let twice := 2 * (numerator % denominator)
  if twice < denominator then floor
  else if denominator < twice then floor + 1
  else floor + floor % 2

/-- The largest `e` with `2 ^ e ≤ numerator / denominator`, increased by 1074, or zero if there is
none that is at least -1074. -/
def leadingBit (numerator denominator : Nat) : Nat :=
  Nat.log2 (numerator * Nat.pow 2 1074 / denominator)

/-- The position of the double nearest to a quotient, which may be the one of infinity or lie beyond
it. -/
def ofQuotient (numerator denominator : Nat) : Nat :=
  let shift := leadingBit numerator denominator - 52
  shift * binade + divideToEven (numerator * Nat.pow 2 1074) (denominator * Nat.pow 2 shift)

/-- The position of the double nearest to a natural. -/
def ofNat (n : Nat) : Nat := ofQuotient n 1

def mul (a b : Nat) : Nat :=
  ofQuotient ((quotient a).1 * (quotient b).1) ((quotient a).2 * (quotient b).2)

def div (a b : Nat) : Nat :=
  ofQuotient ((quotient a).1 * (quotient b).2) ((quotient a).2 * (quotient b).1)

def tenPower (exponent : Nat) : Nat := ofNat (Nat.pow 10 exponent)

end Magnitude

/-- A finite double: its sign and the position of its magnitude. -/
structure Binary64 where
  negative : Bool
  magnitude : Nat
  deriving DecidableEq, Repr

namespace Binary64

/-- The double nearest to an integer. -/
def ofInt (i : Int) : Binary64 := ⟨decide (i < 0), Magnitude.ofNat i.natAbs⟩

/-- Equality of values: a negative zero equals the positive one. -/
def sameValue (a b : Binary64) : Bool :=
  decide (a.magnitude = b.magnitude) &&
    (decide (a.magnitude = 0) || decide (a.negative = b.negative))

@[simp] theorem sameValue_self (a : Binary64) : sameValue a a = true := by
  simp [sameValue]

end Binary64

/-- One is where the word of the double one says. -/
example : Magnitude.ofNat 1 = 1023 * Magnitude.binade := by decide +kernel

/-- Halves go to the even neighbour: `2 ^ 53 + 1` is written as `2 ^ 53`. -/
example : Magnitude.ofNat (2 ^ 53 + 1) = Magnitude.ofNat (2 ^ 53) := by decide +kernel

/-- The least positive double is one step above zero. -/
example : Magnitude.ofQuotient 5 (10 ^ 324) = 1 := by decide +kernel

end DeviceConsole
