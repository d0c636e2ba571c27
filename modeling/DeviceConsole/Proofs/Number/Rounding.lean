import Mathlib.Algebra.Group.Nat.Defs
import DeviceConsole.Number.Binary64

/-!
# Integers among the doubles

A double holds 53 binary digits of an integer; further digits are rounded, halves to the even
neighbour.  This file defines

* `Magnitude.units`, the value at a position, in units of the least positive double;
* `Magnitude.rounded`, a natural rounded to 53 binary digits, and `Binary64.nearestInt`, the same
  for integers;

and proves

* `Magnitude.units_ofNat`, that the position of a natural has the rounded value;
* `Magnitude.units_lt_units`, that values increase with positions;
* `Binary64.sameValue_ofInt_iff`, that two integers become one double exactly if they round to one
  integer.
-/

namespace DeviceConsole

namespace Magnitude

/-! ## Rounded quotients -/

variable {a b d n : Nat}

theorem divideToEven_mul_mul {c : Nat} (positive : 0 < c) (n d : Nat) :
    divideToEven (n * c) (d * c) = divideToEven n d := by
  have twice : 2 * (n % d * c) = 2 * (n % d) * c := (Nat.mul_assoc 2 _ c).symm
  simp only [divideToEven, Nat.mul_div_mul_right n d positive, Nat.mul_mod_mul_right, twice,
    Nat.mul_lt_mul_right positive]

theorem divideToEven_mul_self (positive : 0 < d) (n : Nat) : divideToEven (n * d) d = n := by
  simp [divideToEven, positive]

theorem divideToEven_bounds (n d : Nat) :
    n / d ≤ divideToEven n d ∧ divideToEven n d ≤ n / d + 1 := by
  have parity : n / d % 2 < 2 := Nat.mod_lt _ (by decide)
  simp only [divideToEven]
  split
  · omega
  · split <;> omega

/-- A rounded quotient is off by half a unit at most. -/
theorem divideToEven_near (positive : 0 < d) (n : Nat) :
    2 * (divideToEven n d * d) ≤ 2 * n + d ∧ 2 * n ≤ 2 * (divideToEven n d * d) + d := by
  have whole : n / d * d + n % d = n := Nat.div_add_mod' n d
  have less : n % d < d := Nat.mod_lt n positive
  have next : (n / d + 1) * d = n / d * d + d := Nat.succ_mul _ d
  simp only [divideToEven]
  split
  · omega
  · split
    · rw [next]
      omega
    · -- A half goes down or up.
      rcases Nat.mod_two_eq_zero_or_one (n / d) with even | odd
      · rw [even, Nat.add_zero]
        omega
      · rw [odd, next]
        omega

/-! ## Values of positions -/

/-- The value at a position, in units of the least positive double. -/
def units (position : Nat) : Nat := (quotient position).1

theorem binade_pos : 0 < binade := by decide

theorem units_eq (position : Nat) :
    units position = significand position * 2 ^ shift position := rfl

/-- A significand of one binade, its end included, or one of the first doubles has a value that is
scaled by its binade. -/
theorem units_add {s m : Nat} (top : m ≤ 2 * binade) (low : binade ≤ m ∨ s = 0) :
    units (s * binade + m) = m * 2 ^ s := by
  rcases Nat.lt_or_ge m binade with small | large
  · -- The first doubles, which have no leading digit.
    obtain rfl : s = 0 := low.resolve_left (Nat.not_le.2 small)
    rw [Nat.zero_mul, Nat.zero_add, units_eq, significand, if_pos small, shift,
      Nat.div_eq_of_lt small]
  · obtain ⟨r, rfl⟩ := Nat.exists_eq_add_of_le large
    have above : ¬ s * binade + (binade + r) < binade := by omega
    have place : s * binade + (binade + r) = binade * (s + 1) + r := by
      rw [Nat.mul_succ, Nat.mul_comm binade s, Nat.add_assoc]
    rcases Nat.lt_or_ge r binade with within | beyond
    · have quotient : (s * binade + (binade + r)) / binade = s + 1 := by
        rw [place, Nat.mul_add_div binade_pos, Nat.div_eq_of_lt within, Nat.add_zero]
      have remainder : (s * binade + (binade + r)) % binade = r := by
        rw [place, Nat.mul_add_mod, Nat.mod_eq_of_lt within]
      rw [units_eq, significand, if_neg above, shift, quotient, remainder, Nat.add_sub_cancel]
    · -- The end of the binade is the first double of the next one.
      obtain rfl : r = binade := by omega
      have quotient : (s * binade + (binade + binade)) / binade = s + 2 := by
        rw [place, Nat.mul_add_div binade_pos, Nat.div_self binade_pos]
      have remainder : (s * binade + (binade + binade)) % binade = 0 := by
        rw [place, Nat.mul_add_mod, Nat.mod_self]
      rw [units_eq, significand, if_neg above, shift, quotient, remainder]
      calc (binade + 0) * 2 ^ (s + 1) = binade * 2 * 2 ^ s := by
            rw [Nat.add_zero, Nat.pow_succ', Nat.mul_assoc]
        _ = (binade + binade) * 2 ^ s := by rw [Nat.mul_two]

/-- One position further the value is larger. -/
theorem units_lt_units_succ (position : Nat) : units position < units (position + 1) := by
  have place : position / binade * binade + position % binade = position :=
    Nat.div_add_mod' position binade
  have less : position % binade < binade := Nat.mod_lt _ binade_pos
  generalize position / binade = q at place
  generalize position % binade = r at place less
  subst place
  cases q with
  | zero =>
      have here := units_add (show r ≤ 2 * binade by omega) (.inr (Eq.refl 0))
      have next := units_add (show r + 1 ≤ 2 * binade by omega) (.inr (Eq.refl 0))
      simp only [Nat.add_assoc, here, next, Nat.pow_zero]
      omega
  | succ s =>
      have here := units_add (s := s) (show binade + r ≤ 2 * binade by omega) (.inl (by omega))
      have next := units_add (s := s) (show binade + r + 1 ≤ 2 * binade by omega)
        (.inl (by omega))
      have place : (s + 1) * binade + r = s * binade + (binade + r) := by
        rw [Nat.succ_mul, Nat.add_assoc]
      rw [place, Nat.add_assoc, here, next]
      exact Nat.mul_lt_mul_of_pos_right (Nat.lt_succ_self _) (Nat.two_pow_pos s)

theorem units_lt_units {position other : Nat} (less : position < other) :
    units position < units other := by
  induction less with
  | refl => exact units_lt_units_succ position
  | step _ ih => exact Nat.lt_trans ih (units_lt_units_succ _)

theorem units_injective {position other : Nat} (same : units position = units other) :
    position = other := by
  rcases Nat.lt_trichotomy position other with less | equal | more
  · exact absurd same (Nat.ne_of_lt (units_lt_units less))
  · exact equal
  · exact absurd same.symm (Nat.ne_of_lt (units_lt_units more))

/-! ## Naturals -/

/-- The unit of the last one of 53 binary digits of a natural. -/
def lastUnit (n : Nat) : Nat := 2 ^ (n.log2 - 52)

/-- A natural rounded to 53 binary digits. -/
def rounded (n : Nat) : Nat := divideToEven n (lastUnit n) * lastUnit n

theorem lastUnit_pos (n : Nat) : 0 < lastUnit n := Nat.two_pow_pos _

theorem lastUnit_le (positive : n ≠ 0) : lastUnit n ≤ n :=
  Nat.le_trans (Nat.pow_le_pow_right (by decide) (Nat.sub_le _ _)) (Nat.log2_self_le positive)

theorem rounded_zero : rounded 0 = 0 := by decide

/-- Rounding is off by half a unit at most. -/
theorem rounded_near (n : Nat) :
    2 * rounded n ≤ 2 * n + lastUnit n ∧ 2 * n ≤ 2 * rounded n + lastUnit n :=
  divideToEven_near (lastUnit_pos n) n

theorem rounded_eq_zero_iff : rounded n = 0 ↔ n = 0 := by
  constructor
  · intro zero
    by_cases positive : n = 0
    · exact positive
    · have near := (rounded_near n).2
      have unit := lastUnit_le positive
      omega
  · rintro rfl
    exact rounded_zero

theorem rounded_of_log2_lt (small : n.log2 - 52 = 0) : rounded n = n := by
  have unit : lastUnit n = 1 := by rw [lastUnit, small, Nat.pow_zero]
  have whole := divideToEven_mul_self Nat.one_pos n
  rw [Nat.mul_one] at whole
  rw [rounded, unit, whole, Nat.mul_one]

/-- Naturals of up to 53 binary digits stay as they are, and so does the next one. -/
theorem rounded_of_le (small : n ≤ 2 ^ 53) : rounded n = n := by
  rcases Nat.lt_or_eq_of_le small with less | rfl
  · refine rounded_of_log2_lt (Nat.sub_eq_zero_of_le ?_)
    by_cases positive : n = 0
    · subst positive
      decide
    · exact Nat.le_of_lt_succ ((Nat.log2_lt positive).2 less)
  · decide +kernel

/-- Rounding to 53 binary digits is off by 1024 at most for a natural of 64. -/
theorem rounded_near_of_lt (small : n < 2 ^ 64) :
    rounded n ≤ n + 1024 ∧ n ≤ rounded n + 1024 := by
  have near := rounded_near n
  have unit : lastUnit n ≤ 2 ^ 11 := by
    refine Nat.pow_le_pow_right (by decide) ?_
    by_cases positive : n = 0
    · subst positive
      decide
    · have digits := (Nat.log2_lt positive).2 small
      omega
  omega

/-! ## The double nearest to a natural -/

theorem ofNat_zero : ofNat 0 = 0 := by decide +kernel

theorem log2_mul_two_pow (positive : n ≠ 0) (k : Nat) : (n * 2 ^ k).log2 = n.log2 + k := by
  have proper : n * 2 ^ k ≠ 0 := Nat.mul_ne_zero positive (Nat.pos_iff_ne_zero.1 (Nat.two_pow_pos k))
  rw [Nat.log2_eq_iff proper]
  constructor
  · rw [Nat.pow_add]
    exact Nat.mul_le_mul_right _ (Nat.log2_self_le positive)
  · rw [Nat.add_right_comm, Nat.pow_add]
    exact Nat.mul_lt_mul_of_pos_right Nat.lt_log2_self (Nat.two_pow_pos k)

section Scaled

variable {k : Nat} (enough : 52 ≤ n.log2 + k)

include enough

/-- Brought to 53 binary digits, a natural has a significand of one binade, its end included. -/
theorem divideToEven_scaled_bounds (positive : n ≠ 0) :
    2 ^ 52 ≤ divideToEven (n * 2 ^ k) (2 ^ (n.log2 + k - 52)) ∧
      divideToEven (n * 2 ^ k) (2 ^ (n.log2 + k - 52)) ≤ 2 ^ 53 := by
  have floor := divideToEven_bounds (n * 2 ^ k) (2 ^ (n.log2 + k - 52))
  have lower : 2 ^ 52 ≤ n * 2 ^ k / 2 ^ (n.log2 + k - 52) := by
    rw [Nat.le_div_iff_mul_le (Nat.two_pow_pos _), ← Nat.pow_add]
    calc 2 ^ (52 + (n.log2 + k - 52)) = 2 ^ n.log2 * 2 ^ k := by
          rw [Nat.add_sub_cancel' enough, Nat.pow_add]
      _ ≤ n * 2 ^ k := Nat.mul_le_mul_right _ (Nat.log2_self_le positive)
  have upper : n * 2 ^ k / 2 ^ (n.log2 + k - 52) < 2 ^ 53 := by
    rw [Nat.div_lt_iff_lt_mul (Nat.two_pow_pos _), ← Nat.pow_add]
    calc n * 2 ^ k < 2 ^ (n.log2 + 1) * 2 ^ k :=
          Nat.mul_lt_mul_of_pos_right Nat.lt_log2_self (Nat.two_pow_pos k)
      _ = 2 ^ (53 + (n.log2 + k - 52)) := by
          rw [← Nat.pow_add]
          congr 1
          omega
  omega

/-- Scaled back, it is the rounded natural. -/
theorem divideToEven_scaled :
    divideToEven (n * 2 ^ k) (2 ^ (n.log2 + k - 52)) * 2 ^ (n.log2 + k - 52) =
      rounded n * 2 ^ k := by
  rcases Nat.le_total 52 n.log2 with long | short
  · -- Both have the same unit, up to the factor.
    have scale : n.log2 + k - 52 = n.log2 - 52 + k := by omega
    rw [scale, Nat.pow_add, divideToEven_mul_mul (Nat.two_pow_pos k), ← Nat.mul_assoc]
    rfl
  · -- Nothing is rounded.
    have split : k = 52 - n.log2 + (n.log2 + k - 52) := by omega
    have whole : n * 2 ^ k = n * 2 ^ (52 - n.log2) * 2 ^ (n.log2 + k - 52) := by
      rw [Nat.mul_assoc, ← Nat.pow_add, ← split]
    rw [rounded_of_log2_lt (Nat.sub_eq_zero_of_le short), whole,
      divideToEven_mul_self (Nat.two_pow_pos _)]

end Scaled

section Exponent

-- The least exponent stays a variable, so that no proof computes its power.
variable {k : Nat} (exponent : 1074 = k)

include exponent

theorem ofNat_eq (positive : n ≠ 0) :
    ofNat n = (n.log2 + k - 52) * binade +
      divideToEven (n * 2 ^ k) (2 ^ (n.log2 + k - 52)) := by
  have leading : leadingBit n 1 = n.log2 + k := by
    simp only [leadingBit, Nat.div_one, exponent, Nat.pow_eq, log2_mul_two_pow positive]
  simp only [ofNat, ofQuotient, leading, Nat.one_mul, exponent, Nat.pow_eq]

/-- The double nearest to a natural has the rounded value. -/
theorem units_ofNat (n : Nat) : units (ofNat n) = rounded n * 2 ^ k := by
  by_cases positive : n = 0
  · subst positive
    rw [ofNat_zero, rounded_zero, Nat.zero_mul]
    decide
  · have enough : 52 ≤ n.log2 + k := by omega
    rcases divideToEven_scaled_bounds enough positive with ⟨low, top⟩
    rw [ofNat_eq exponent positive, units_add top (.inl low), divideToEven_scaled enough]

end Exponent

/-- Two naturals become one double exactly if they round to one natural. -/
theorem ofNat_eq_ofNat_iff : ofNat a = ofNat b ↔ rounded a = rounded b := by
  obtain ⟨k, exponent⟩ : ∃ k, 1074 = k := ⟨_, rfl⟩
  constructor
  · intro same
    have values := units_ofNat exponent a
    rw [same, units_ofNat exponent b] at values
    exact (Nat.eq_of_mul_eq_mul_right (Nat.two_pow_pos k) values).symm
  · intro same
    apply units_injective
    rw [units_ofNat exponent, units_ofNat exponent, same]

theorem ofNat_eq_zero_iff : ofNat n = 0 ↔ n = 0 := by
  calc ofNat n = 0 ↔ ofNat n = ofNat 0 := by rw [ofNat_zero]
    _ ↔ rounded n = 0 := by rw [ofNat_eq_ofNat_iff, rounded_zero]
    _ ↔ n = 0 := rounded_eq_zero_iff

end Magnitude

/-! ## Integers -/

namespace Binary64

/-- An integer rounded to 53 binary digits. -/
def nearestInt (i : Int) : Int :=
  if i < 0 then -(Magnitude.rounded i.natAbs : Int) else Magnitude.rounded i.natAbs

variable {i j : Int}

/-- Two integers become one double exactly if they round to one integer. -/
theorem sameValue_ofInt_iff :
    (ofInt i).sameValue (ofInt j) = true ↔ nearestInt i = nearestInt j := by
  have first : Magnitude.rounded i.natAbs = 0 ↔ i.natAbs = 0 := Magnitude.rounded_eq_zero_iff
  have second : Magnitude.rounded j.natAbs = 0 ↔ j.natAbs = 0 := Magnitude.rounded_eq_zero_iff
  simp only [sameValue, ofInt, Bool.and_eq_true, Bool.or_eq_true, decide_eq_true_eq,
    decide_eq_decide, Magnitude.ofNat_eq_ofNat_iff, Magnitude.ofNat_eq_zero_iff, nearestInt]
  split <;> split <;> omega

/-- Integers of up to 53 binary digits stay as they are. -/
theorem nearestInt_of_le (small : i.natAbs ≤ 2 ^ 53) : nearestInt i = i := by
  rw [nearestInt, Magnitude.rounded_of_le small]
  split <;> omega

/-- Integers of 64 binary digits that differ by more than 2048 round to different ones. -/
theorem nearestInt_ne_of_lt (first : i.natAbs < 2 ^ 64) (second : j.natAbs < 2 ^ 64)
    (far : 2048 < (i - j).natAbs) : nearestInt i ≠ nearestInt j := by
  have one := Magnitude.rounded_near_of_lt first
  have other := Magnitude.rounded_near_of_lt second
  rw [nearestInt, nearestInt]
  split <;> split <;> omega

end Binary64

end DeviceConsole
