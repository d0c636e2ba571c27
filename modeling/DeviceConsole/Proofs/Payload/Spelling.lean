import Mathlib.Data.Nat.ModEq
import Mathlib.Tactic.Ring
import DeviceConsole.Text.Utf8

/-!
# Bytes spelled in an alphabet

Hexadecimal digits and base64 cut the bits of bytes into groups of another length and write a symbol
for each group.  This file defines:

* `bits width n`, the last bits of a number;
* `Spells alphabet width spare bytes symbols`: symbols that stand for groups of `width` bits write
  the bits of bytes, and `spare` zeros after them;

and shows that symbols are determined by the bytes that they spell, `Spells.unique`.
-/

namespace DeviceConsole

/-! ## Bits -/

/-- The last `width` bits of a number, the highest one first. -/
def bits : Nat → Nat → List Bool
  | 0, _ => []
  | width + 1, n => bits width (n / 2) ++ [decide (n % 2 = 1)]

@[simp] theorem length_bits (width n : Nat) : (bits width n).length = width := by
  induction width generalizing n with
  | zero => rfl
  | succ width ih => rw [bits, List.length_append, ih, List.length_singleton]

/-- Numbers that are put together have their bits put together. -/
theorem bits_add (high low x y : Nat) (small : y < 2 ^ low) :
    bits (high + low) (x * 2 ^ low + y) = bits high x ++ bits low y := by
  induction low generalizing y with
  | zero =>
      obtain rfl : y = 0 := by simpa using small
      simp [bits]
  | succ low ih =>
      rw [Nat.pow_succ] at small
      have half : (x * 2 ^ (low + 1) + y) / 2 = x * 2 ^ low + y / 2 := by
        rw [Nat.pow_succ, ← Nat.mul_assoc]
        omega
      have last : (x * 2 ^ (low + 1) + y) % 2 = y % 2 := by
        rw [Nat.pow_succ, ← Nat.mul_assoc]
        omega
      calc bits (high + (low + 1)) (x * 2 ^ (low + 1) + y)
          = bits (high + low) (x * 2 ^ low + y / 2) ++ [decide (y % 2 = 1)] := by
            rw [← Nat.add_assoc, bits, half, last]
        _ = bits high x ++ bits (low + 1) y := by
            rw [ih _ (by omega), bits, List.append_assoc]

/-- A number is cut into two in its bits. -/
theorem bits_split (high low n : Nat) :
    bits (high + low) n = bits high (n / 2 ^ low) ++ bits low (n % 2 ^ low) := by
  rw [← bits_add high low _ _ (Nat.mod_lt _ (Nat.two_pow_pos low)), Nat.div_add_mod']

theorem bits_zero (width : Nat) : bits width 0 = List.replicate width false := by
  induction width with
  | zero => rfl
  | succ width ih => rw [bits, ih, List.replicate_succ']; rfl

/-- Small numbers are told apart by their bits. -/
theorem bits_inj {width m n : Nat} (hm : m < 2 ^ width) (hn : n < 2 ^ width)
    (same : bits width m = bits width n) : m = n := by
  induction width generalizing m n with
  | zero =>
      rw [Nat.pow_zero] at hm hn
      omega
  | succ width ih =>
      rw [Nat.pow_succ] at hm hn
      rw [bits, bits] at same
      rcases List.append_inj' same rfl with ⟨front, last⟩
      have half := ih (m := m / 2) (n := n / 2) (by omega) (by omega) front
      have parity : m % 2 = 1 ↔ n % 2 = 1 := by simpa using last
      omega

theorem length_flatMap_bits (width : Nat) (values : List Nat) :
    (values.flatMap (bits width)).length = width * values.length := by
  induction values with
  | nil => rfl
  | cons v rest ih =>
      rw [List.flatMap_cons, List.length_append, ih, length_bits, List.length_cons]
      ring

theorem flatMap_bits_inj {width : Nat} (positive : 0 < width) {values others : List Nat}
    (small : ∀ v ∈ values, v < 2 ^ width) (small' : ∀ v ∈ others, v < 2 ^ width)
    (same : values.flatMap (bits width) = others.flatMap (bits width)) : values = others := by
  have count : values.length = others.length := by
    have lengths := congrArg List.length same
    rw [length_flatMap_bits, length_flatMap_bits] at lengths
    exact Nat.eq_of_mul_eq_mul_left positive lengths
  induction values generalizing others with
  | nil => exact (List.length_eq_zero_iff.1 count.symm).symm
  | cons v rest ih =>
      cases others with
      | nil => cases count
      | cons w rest' =>
          rw [List.flatMap_cons, List.flatMap_cons] at same
          rcases List.append_inj same (by simp) with ⟨first, later⟩
          have head := bits_inj (small v List.mem_cons_self) (small' w List.mem_cons_self) first
          have tail := ih (fun x member => small x (List.mem_cons_of_mem _ member))
            (fun x member => small' x (List.mem_cons_of_mem _ member)) later
            (Nat.succ.inj count)
          rw [head, tail]

/-! ## Spellings -/

def Bytes.bits (bytes : Bytes) : List Bool := bytes.flatMap fun b => DeviceConsole.bits 8 b.toNat

theorem Bytes.length_bits (bytes : Bytes) : bytes.bits.length = 8 * bytes.length := by
  rw [Bytes.bits, ← List.flatMap_map, length_flatMap_bits, List.length_map]

/-- Whether symbols of an alphabet, each for `width` bits, write the bits of bytes, and `spare`
zeros after them. -/
def Spells (alphabet : List Char) (width spare : Nat) (bytes : Bytes) (symbols : List Char) :
    Prop :=
  ∃ values : List Nat, values.map (alphabet[·]?) = symbols.map some ∧
    values.flatMap (bits width) = bytes.bits ++ List.replicate spare false

namespace Spells

variable {alphabet symbols others : List Char} {width spare spare' : Nat} {bytes : Bytes}

theorem nil : Spells alphabet width 0 [] [] := ⟨[], rfl, rfl⟩

/-- Spellings are put together where no bits are spare. -/
theorem append {first second : Bytes} (h : Spells alphabet width 0 first symbols)
    (h' : Spells alphabet width spare second others) :
    Spells alphabet width spare (first ++ second) (symbols ++ others) := by
  rcases h with ⟨values, named, same⟩
  rcases h' with ⟨values', named', same'⟩
  refine ⟨values ++ values', ?_, ?_⟩
  · rw [List.map_append, List.map_append, named, named']
  · rw [List.flatMap_append, same, same', Bytes.bits, Bytes.bits, Bytes.bits, List.flatMap_append]
    simp

/-- There are as many bits in the symbols as in the bytes, with the spare ones. -/
theorem length_eq (h : Spells alphabet width spare bytes symbols) :
    width * symbols.length = 8 * bytes.length + spare := by
  rcases h with ⟨values, named, same⟩
  have count : values.length = symbols.length := by simpa using congrArg List.length named
  have lengths := congrArg List.length same
  rwa [length_flatMap_bits, List.length_append, List.length_replicate, Bytes.length_bits,
    count] at lengths

/-- Bytes are spelled in one way, if less is spare than a symbol stands for. -/
theorem unique (size : alphabet.length = 2 ^ width) (less : spare < width) (less' : spare' < width)
    (h : Spells alphabet width spare bytes symbols)
    (h' : Spells alphabet width spare' bytes others) : symbols = others := by
  have same : spare = spare' := by
    have count := h.length_eq
    have count' := h'.length_eq
    -- Both leave the same remainder.
    have remainder : (8 * bytes.length + spare) % width = 0 := by
      rw [← count, Nat.mul_mod_right]
    have remainder' : (8 * bytes.length + spare') % width = 0 := by
      rw [← count', Nat.mul_mod_right]
    have congruent : spare ≡ spare' [MOD width] :=
      Nat.ModEq.add_left_cancel' (8 * bytes.length) (remainder.trans remainder'.symm)
    exact Nat.ModEq.eq_of_lt_of_lt congruent less less'
  subst same
  rcases h with ⟨values, named, written⟩
  rcases h' with ⟨values', named', written'⟩
  have small : ∀ {values : List Nat} {symbols : List Char},
      values.map (alphabet[·]?) = symbols.map some → ∀ v ∈ values, v < 2 ^ width := by
    intro values symbols named v member
    have found : alphabet[v]? ∈ symbols.map some := by
      rw [← named]
      exact List.mem_map_of_mem member
    rcases List.mem_map.1 found with ⟨c, -, hc⟩
    rw [← size]
    exact (List.getElem?_eq_some_iff.1 hc.symm).1
  have equal := flatMap_bits_inj (Nat.zero_lt_of_lt less) (small named) (small named')
    (written.trans written'.symm)
  rw [equal, named'] at named
  exact (List.map_inj_right (fun _ _ => Option.some.inj)).1 named.symm

end Spells

end DeviceConsole
