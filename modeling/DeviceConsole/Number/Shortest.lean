import DeviceConsole.Number.Binary64

/-!
# The shortest decimal that reads back

A finite double is written with the fewest significant digits that still identify it; of two such
decimals the nearer one is taken.  This file defines:

* `Interval`, the reals that round to a double;
* `shortest`, the search over digit counts, which tests the two neighbours of the value on each
  decimal grid in exact arithmetic;
* `Layout`, the choices of one written format, and `Binary64.text` that follows them.
-/

namespace DeviceConsole

namespace Decimal

/-- A value and the ends of the interval of reals that round to it, over one denominator. -/
structure Interval where
  value : Nat
  low : Nat
  high : Nat
  denominator : Nat
  closed : Bool

/-- The interval of a positive double.  The lower neighbour of a power of two is only half as far
away as the upper one. -/
def intervalOf (position : Nat) : Interval :=
  let m := Magnitude.significand position
  let unit := Nat.pow 2 (Magnitude.shift position)
  let below := if m = Magnitude.binade ∧ Magnitude.binade < position then 1 else 2
  { value := 4 * m * unit
    low := (4 * m - below) * unit
    high := (4 * m + 2) * unit
    denominator := 4 * Nat.pow 2 1074
    closed := m % 2 = 0 }

/-- Whether `digits * 10 ^ (point - count)` rounds to the double. -/
def Interval.holds (i : Interval) (scaleUp scaleDown digits : Nat) : Bool :=
  let x := digits * scaleUp * i.denominator
  let low := i.low * scaleDown
  let high := i.high * scaleDown
  (decide (low < x) && decide (x < high)) || (i.closed && (decide (x = low) || decide (x = high)))

/-- The least `k` with `value < 10 ^ k` for a quotient of at least one. -/
def digitCount (fuel value : Nat) : Nat :=
  match fuel with
  | 0 => 0
  | fuel + 1 => if value = 0 then 0 else digitCount fuel (value / 10) + 1

/-- How often a quotient below one can be multiplied by ten and stay below one. -/
def leadingZeros (fuel numerator denominator : Nat) : Nat :=
  match fuel with
  | 0 => 0
  | fuel + 1 =>
    if numerator * 10 < denominator then leadingZeros fuel (numerator * 10) denominator + 1 else 0

/-- The place of the decimal point: the least `p` with `value < 10 ^ p`. -/
def pointOf (i : Interval) : Int :=
  if i.denominator ≤ i.value then Int.ofNat (digitCount 400 (i.value / i.denominator))
  else - Int.ofNat (leadingZeros 400 i.value i.denominator)

/-- Looks for a decimal with `count` digits: the value's lower neighbour on the grid, then the upper
one; if both read back, the nearer, and the even one of two equally near. -/
def onGrid? (i : Interval) (point : Int) (count : Nat) : Option Nat :=
  let place := point - count
  let scaleUp := Nat.pow 10 place.toNat
  let scaleDown := Nat.pow 10 (-place).toNat
  let floor := i.value * scaleDown / (i.denominator * scaleUp)
  let rest := 2 * (i.value * scaleDown % (i.denominator * scaleUp))
  let lower := i.holds scaleUp scaleDown floor
  let upper := i.holds scaleUp scaleDown (floor + 1)
  if lower && upper then
    if rest < i.denominator * scaleUp then some floor
    else if i.denominator * scaleUp < rest then some (floor + 1)
    else some (floor + floor % 2)
  else if lower then some floor
  else if upper then some (floor + 1)
  else none

/-- The first digit count from `count` on, for at most `fuel` counts, whose grid has a hit. -/
def shortestFrom (i : Interval) (point : Int) (count : Nat) : Nat → Nat × Nat
  | 0 => (0, count)
  | fuel + 1 =>
    match onGrid? i point count with
    | some digits => (digits, count)
    | none => shortestFrom i point (count + 1) fuel

def trimZeros (digits : List Char) : List Char :=
  (digits.reverse.dropWhile (· = '0')).reverse

/-- The significant digits of a positive double and the place of the decimal point in front of
them. -/
def shortest (position : Nat) : List Char × Int :=
  let i := intervalOf position
  let point := pointOf i
  let (digits, count) := shortestFrom i point 1 17
  let written := Nat.toDigits 10 digits
  (trimZeros written, point + (written.length - count : Int))

/-- The choices of a written format: from which power of ten on, up and down, the exponent is
written out. -/
structure Layout where
  /-- The least exponent written with a positional fraction. -/
  least : Int
  /-- The first exponent that is no longer written positionally. -/
  bound : Int

/-- Places digits around the decimal point at a given position. -/
def positional (digits : List Char) (point : Int) : List Char :=
  if point ≤ 0 then
    '0' :: '.' :: List.replicate (-point).toNat '0' ++ digits
  else if digits.length ≤ point.toNat then
    digits ++ List.replicate (point.toNat - digits.length) '0' ++ ['.', '0']
  else
    digits.take point.toNat ++ '.' :: digits.drop point.toNat

/-- Writes digits with an exponent: one digit in front of the point, and a sign in any case. -/
def scientific (digits : List Char) (exponent : Int) : List Char :=
  let mantissa := match digits with
    | d :: [] => [d]
    | d :: rest => d :: '.' :: rest
    | [] => ['0']
  let sign := if exponent < 0 then '-' else '+'
  mantissa ++ 'e' :: sign :: Nat.toDigits 10 exponent.natAbs

def Layout.render (layout : Layout) (position : Nat) : List Char :=
  let (digits, point) := shortest position
  if layout.least ≤ point - 1 ∧ point - 1 < layout.bound then positional digits point
  else scientific digits (point - 1)

end Decimal

/-- Documents write numbers positionally from `1e-5` up to but not including `1e16`. -/
def Binary64.layout : Decimal.Layout := ⟨-5, 16⟩

/-- The text of a double; an integral value keeps one place, and zero keeps its sign. -/
def Binary64.text (x : Binary64) : List Char :=
  let body := if x.magnitude = 0 then ['0', '.', '0'] else Binary64.layout.render x.magnitude
  if x.negative then '-' :: body else body

end DeviceConsole
