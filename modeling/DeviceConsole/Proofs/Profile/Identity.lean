import Mathlib.Tactic.Ring
import DeviceConsole.ConnectionId

/-!
# Written ids are read back

An id is written as hyphenated digits, and these are one of the forms that are read.  This file
shows:

* `Hex.hexDigit?_digit`: a digit is read as its value;
* `ConnectionId.dropHyphens?_hyphenate`: hyphens that are put in are taken out again;
* `ConnectionId.parse?_text`: a written id is read back.
-/

namespace DeviceConsole

/-! ## Digits -/

namespace Hex

theorem hexDigit?_digit {n : Nat} (h : n < 16) : Json.hexDigit? (digit n) = some n :=
  have digits : ∀ n : Fin 16, Json.hexDigit? (digit n) = some n.val := by decide
  digits ⟨n, h⟩

/-- The last `k` digits of a number, most significant first. -/
def lastDigits (k n : Nat) : List Nat := (List.range k).map fun i => n / 16 ^ (k - 1 - i) % 16

/-- The first of the last digits is the one at the place they start from. -/
theorem lastDigits_succ (k n : Nat) :
    lastDigits (k + 1) n = n / 16 ^ k % 16 :: lastDigits k n := by
  have place : ∀ i, k + 1 - 1 - (i + 1) = k - 1 - i := fun i => by omega
  rw [lastDigits, List.range_succ_eq_map, List.map_cons, List.map_map]
  simp only [Function.comp_def, Nat.succ_eq_add_one, place]
  rfl

theorem lt_of_mem_lastDigits {k n d : Nat} (member : d ∈ lastDigits k n) : d < 16 := by
  obtain ⟨i, -, rfl⟩ := List.mem_map.1 member
  exact Nat.mod_lt _ (by decide)

/-- Digits are put together to the number they are the last digits of. -/
theorem foldl_lastDigits (k n acc : Nat) :
    (lastDigits k n).foldl (fun n d => n * 16 + d) acc = acc * 16 ^ k + n % 16 ^ k := by
  induction k generalizing acc with
  | zero => simp [lastDigits, Nat.mod_one]
  | succ k ih =>
      rw [lastDigits_succ, List.foldl_cons, ih, Nat.mod_pow_succ]
      ring

theorem mapM_hexDigit?_digit {values : List Nat} (small : ∀ d ∈ values, d < 16) :
    (values.map digit).mapM Json.hexDigit? = some values := by
  induction values with
  | nil => rfl
  | cons d rest ih =>
      rw [List.map_cons, List.mapM_cons, hexDigit?_digit (small d List.mem_cons_self),
        ih fun d member => small d (List.mem_cons_of_mem _ member)]
      rfl

end Hex

namespace ConnectionId

theorem digits_eq (id : ConnectionId) :
    id.digits = (Hex.lastDigits 32 id.value.toNat).map Hex.digit := by
  rw [digits, Hex.lastDigits, List.map_map]
  rfl

theorem length_digits (id : ConnectionId) : id.digits.length = 32 := by
  rw [digits, List.length_map, List.length_range]

theorem ofDigits?_digits (id : ConnectionId) : ofDigits? id.digits = some id := by
  have value : id.value.toNat % 16 ^ 32 = id.value.toNat := Nat.mod_eq_of_lt id.value.isLt
  rw [ofDigits?, digits_eq, Hex.mapM_hexDigit?_digit fun d => Hex.lt_of_mem_lastDigits,
    Option.bind_eq_bind, Option.bind_some, Hex.foldl_lastDigits, value]
  simp

/-! ## Hyphens -/

/-- There is one hyphen between two groups. -/
theorem length_hyphenate {n : Nat} {more : List Nat} {digits : List Char}
    (length : digits.length = (n :: more).sum) :
    (hyphenate (n :: more) digits).length = digits.length + more.length := by
  induction more generalizing n digits with
  | nil =>
      rw [List.sum_singleton] at length
      rw [hyphenate, ← length, List.take_length, List.length_nil, Nat.add_zero]
  | cons m more ih =>
      rw [List.sum_cons] at length
      have tail : (digits.drop n).length = (m :: more).sum := by
        rw [List.length_drop, length, Nat.add_sub_cancel_left]
      rw [hyphenate, List.length_append, List.length_cons, ih tail, List.length_take,
        List.length_drop, List.length_cons]
      · omega
      · simp

/-- Hyphens that are put in between groups are taken out again. -/
theorem dropHyphens?_hyphenate {n : Nat} {more : List Nat} {digits : List Char}
    (length : digits.length = (n :: more).sum) :
    dropHyphens? (n :: more) (hyphenate (n :: more) digits) = some digits := by
  induction more generalizing n digits with
  | nil =>
      rw [List.sum_singleton] at length
      rw [hyphenate, ← length, List.take_length, dropHyphens?, if_pos rfl]
  | cons m more ih =>
      rw [List.sum_cons] at length
      have head : (digits.take n).length = n := by rw [List.length_take]; omega
      have tail : (digits.drop n).length = (m :: more).sum := by
        rw [List.length_drop, length, Nat.add_sub_cancel_left]
      rw [hyphenate, dropHyphens?, List.drop_left' head]
      · simp [ih tail, List.take_left' head, head]
      · simp
      · simp

/-! ## Ids -/

/-- The written form starts with a digit. -/
theorem chars_eq_cons (id : ConnectionId) :
    ∃ d rest, d < 16 ∧ id.chars = Hex.digit d :: rest := by
  have first : id.chars = Hex.digit (id.value.toNat / 16 ^ 31 % 16) :: id.chars.tail := by
    rw [chars, digits_eq, Hex.lastDigits_succ]
    rfl
  exact ⟨_, _, Nat.mod_lt _ (by decide), first⟩

theorem parse?_text (id : ConnectionId) : parse? id.text = some id := by
  have length : id.chars.length = 36 := by
    rw [chars, groups, length_hyphenate id.length_digits, length_digits]
    rfl
  have hyphenated : ofHyphenated? id.chars = some id := by
    rw [ofHyphenated?, chars, groups, dropHyphens?_hyphenate id.length_digits, Option.bind_some,
      ofDigits?_digits]
  obtain ⟨d, rest, small, first⟩ := id.chars_eq_cons
  -- A digit neither opens a brace nor starts the mark of the scheme.
  have letters : ∀ d : Fin 16, Hex.digit d ≠ '\x7b' ∧ (Hex.digit d).toLower ≠ 'u' := by decide
  obtain ⟨unbraced, unmarked⟩ := letters ⟨d, small⟩
  have scheme : (id.chars.take 9).map Char.toLower ≠ schemeMark := by
    rw [first]
    exact fun same => unmarked (List.cons.inj same).1
  rw [parse?, text, String.toList_ofList, ofChars?.eq_def]
  split
  · next opened => exact absurd (List.cons.inj (first.symm.trans opened)).1 unbraced
  · rw [if_neg (by omega), if_neg scheme, hyphenated]

end ConnectionId

end DeviceConsole
