import Mathlib.Algebra.Group.Nat.Even
import Mathlib.Data.List.Basic
import Mathlib.Data.List.Induction
import DeviceConsole.Payload.Hex
import DeviceConsole.Proofs.Payload.Spelling
import DeviceConsole.Proofs.Text.Utf8

/-!
# Texts of hexadecimal digits

A text is read as hexadecimal if it is an even number of digits in any mixture of cases, and bytes
are written in lower case.  This file defines `Hex.IsDigit` and shows:

* `Hex.encode_spells`: each byte is written as the digits of its two halves, the higher one first;
* `Hex.decode_eq_ok_iff`: a text is read as the bytes that are written like it in lower case;
* `Hex.exists_encode_iff`: an even number of digits is what bytes are written as.
-/

namespace DeviceConsole

namespace Hex

/-- The digits in lower case, in the order of their values. -/
def digits : List Char :=
  ['0', '1', '2', '3', '4', '5', '6', '7', '8', '9', 'a', 'b', 'c', 'd', 'e', 'f']

/-- Whether a character is a digit, in either case. -/
def IsDigit (c : Char) : Prop := c.toLower ∈ digits

instance : DecidablePred IsDigit := fun c => inferInstanceAs (Decidable (c.toLower ∈ digits))

variable {a b : UInt8} {n v : Nat} {bytes text : Bytes} {symbols : List Char}

/-! ## Digits and their values -/

theorem digits_getElem? : ∀ n < 16, digits[n]? = some (digit n) := by decide

theorem digit_mem (small : n < 16) : digit n ∈ digits :=
  List.mem_of_getElem? (digits_getElem? n small)

theorem exists_digit (c : Char) (member : c ∈ digits) : ∃ n < 16, digit n = c := by
  rcases List.mem_iff_getElem?.1 member with ⟨n, found⟩
  have small : n < 16 := (List.getElem?_eq_some_iff.1 found).1
  exact ⟨n, small, Option.some.inj ((digits_getElem? n small).symm.trans found)⟩

theorem toLower_digit (c : Char) (member : c ∈ digits) : c.toLower = c := by
  have all : ∀ n < 16, (digit n).toLower = digit n := by decide
  rcases exists_digit c member with ⟨n, small, rfl⟩
  exact all n small

theorem digit_inj : ∀ m < 16, ∀ n < 16, digit m = digit n → m = n := by decide

theorem value?_lt (h : value? b = some v) : v < 16 := by
  have all : ∀ n : Fin 256, ∀ v ∈ value? (UInt8.ofNat n), v < 16 := by decide +kernel
  exact all ⟨b.toNat, b.toNat_lt⟩ v (by simpa using h)

/-- A byte has a value if it is a digit as a character; the digit of the value is in lower case. -/
theorem value?_map_digit (b : UInt8) :
    (value? b).map digit =
      if IsDigit (Char.ofNat b.toNat) then some (Char.ofNat b.toNat).toLower else none := by
  have all : ∀ n : Fin 256, (value? (UInt8.ofNat n)).map digit =
      if IsDigit (Char.ofNat n) then some (Char.ofNat n).toLower else none := by decide +kernel
  simpa using all ⟨b.toNat, b.toNat_lt⟩

theorem value?_eq_some_iff (small : v < 16) :
    value? b = some v ↔ (Char.ofNat b.toNat).toLower = digit v := by
  have known := value?_map_digit b
  constructor
  · intro found
    rw [found, Option.map_some] at known
    split at known
    · exact (Option.some.inj known).symm
    · cases known
  · intro same
    have member : IsDigit (Char.ofNat b.toNat) := by
      rw [IsDigit, same]
      exact digit_mem small
    rw [if_pos member, same] at known
    rcases Option.map_eq_some_iff.1 known with ⟨w, found, equal⟩
    rw [found, digit_inj w (value?_lt found) v small equal]

theorem ascii_of_isDigit {c : Char} (h : IsDigit c) : c.toNat < 0x80 := by
  have ascii : ∀ d ∈ digits, d.toNat < 0x80 := by
    have all : ∀ n < 16, (digit n).toNat < 0x80 := by decide
    intro d member
    rcases exists_digit d member with ⟨n, small, rfl⟩
    exact all n small
  by_contra large
  have same : c.toLower = c := by
    refine dif_neg ?_
    rintro ⟨-, last⟩
    have : c.toNat ≤ 'Z'.toNat := last
    simp at this
    omega
  rw [IsDigit, same] at h
  exact large (ascii c h)

/-! ## Writing -/

/-- The two halves of each byte. -/
def halves (bytes : Bytes) : List Nat := bytes.flatMap fun b => [b.toNat / 16, b.toNat % 16]

theorem halves_cons (b : UInt8) (rest : Bytes) :
    halves (b :: rest) = b.toNat / 16 :: b.toNat % 16 :: halves rest := rfl

theorem lt_of_mem_halves (h : v ∈ halves bytes) : v < 16 := by
  rcases List.mem_flatMap.1 h with ⟨b, -, member⟩
  have := b.toNat_lt
  simp only [List.mem_cons, List.not_mem_nil, or_false] at member
  omega

theorem encode_eq_map (bytes : Bytes) : encode bytes = (halves bytes).map digit := by
  induction bytes with
  | nil => rfl
  | cons b rest ih => rw [encode, ih, halves_cons, List.map_cons, List.map_cons]

theorem mem_digits_of_mem_encode {c : Char} (h : c ∈ encode bytes) : c ∈ digits := by
  rw [encode_eq_map] at h
  rcases List.mem_map.1 h with ⟨v, member, rfl⟩
  exact digit_mem (lt_of_mem_halves member)

/-- Each digit stands for four bits. -/
theorem encode_spells (bytes : Bytes) : Spells digits 4 0 bytes (encode bytes) := by
  refine ⟨halves bytes, ?_, ?_⟩
  · rw [encode_eq_map, List.map_map]
    exact List.map_congr_left fun v member => digits_getElem? v (lt_of_mem_halves member)
  · rw [List.replicate_zero, List.append_nil, Bytes.bits, halves, List.flatMap_assoc]
    refine List.flatMap_congr fun b _ => ?_
    rw [bits_split 4 4]
    simp

/-- Bytes are written as any even number of digits in lower case. -/
theorem exists_encode_iff (symbols : List Char) :
    (∃ bytes, encode bytes = symbols) ↔ Even symbols.length ∧ ∀ c ∈ symbols, c ∈ digits := by
  constructor
  · rintro ⟨bytes, rfl⟩
    have lengths := (encode_spells bytes).length_eq
    exact ⟨⟨bytes.length, by omega⟩, fun c => mem_digits_of_mem_encode⟩
  · rintro ⟨even, all⟩
    induction symbols using List.twoStepInduction with
    | nil => exact ⟨[], rfl⟩
    | singleton c => simp at even
    | cons_cons c d rest ih _ =>
        rcases exists_digit c (all c (by simp)) with ⟨high, hhigh, rfl⟩
        rcases exists_digit d (all d (by simp)) with ⟨low, hlow, rfl⟩
        have fewer : Even rest.length := by simpa [Nat.even_add_one, parity_simps] using even
        rcases ih fewer fun x member => all x (by simp [member]) with ⟨bytes, rfl⟩
        refine ⟨UInt8.ofNat (high * 16 + low) :: bytes, ?_⟩
        have value : (UInt8.ofNat (high * 16 + low)).toNat = high * 16 + low :=
          Utf8.toNat_ofNat (by omega)
        rw [encode, value]
        congr 2
        · omega
        · congr 1
          omega

/-! ## Reading -/

/-- A byte has two values as its halves. -/
theorem halves_eq_iff {high low : Nat} (hhigh : high < 16) (hlow : low < 16) :
    b.toNat / 16 = high ∧ b.toNat % 16 = low ↔ UInt8.ofNat (high * 16 + low) = b := by
  rw [← UInt8.toNat_inj, Utf8.toNat_ofNat (by omega)]
  omega

/-- Symbols are read if their values are the halves of bytes. -/
theorem decodePairs_eq_ok_iff (position : Nat) (text bytes : Bytes) :
    decodePairs position text = .ok bytes ↔ text.map value? = (halves bytes).map some := by
  fun_induction decodePairs position text generalizing bytes with
  | case1 => cases bytes <;> simp [halves]
  | case2 => cases bytes <;> simp [halves]
  | case3 position a b rest none => cases bytes <;> simp [halves, none]
  | case4 position a b rest high none found => cases bytes <;> simp [halves, none]
  | case5 position a b rest high low found' found parsed ok ih =>
      cases bytes with
      | nil => simp [halves]
      | cons c bytes =>
          have pair := halves_eq_iff (b := c) (value?_lt found) (value?_lt found')
          have later := ih bytes
          rw [ok, Except.ok.injEq] at later
          rw [Except.ok.injEq, List.cons.injEq, halves_cons, ← pair, later]
          simp [found, found', and_assoc, eq_comm]
  | case6 position a b rest high low found' found fault failed ih =>
      cases bytes with
      | nil => simp [halves]
      | cons c bytes =>
          have later := ih bytes
          rw [failed] at later
          simp only [reduceCtorEq, false_iff] at later
          simp [halves_cons, later]

theorem map_value?_iff {values : List Nat} (small : ∀ v ∈ values, v < 16) :
    text.map value? = values.map some ↔
      text.map (fun b => (Char.ofNat b.toNat).toLower) = values.map digit := by
  induction text generalizing values with
  | nil => simp
  | cons b rest ih =>
      cases values with
      | nil => simp
      | cons v values =>
          rw [List.forall_mem_cons] at small
          simp only [List.map_cons, List.cons.injEq]
          rw [value?_eq_some_iff small.1, ih small.2]

theorem decode_eq_ok_iff_map (text bytes : Bytes) :
    decode text = .ok bytes ↔
      text.map (fun b => (Char.ofNat b.toNat).toLower) = (halves bytes).map digit := by
  rw [← map_value?_iff fun _ => lt_of_mem_halves, ← decodePairs_eq_ok_iff 0, decode]
  split
  · next odd =>
    simp only [reduceCtorEq, false_iff]
    intro read
    have lengths := congrArg List.length ((decodePairs_eq_ok_iff 0 text bytes).1 read)
    rw [List.length_map, List.length_map, ← List.length_map digit, ← encode_eq_map] at lengths
    have count := (encode_spells bytes).length_eq
    omega
  · rfl

/-- A text is read as the bytes that are written like it, apart from the case of its letters. -/
theorem decode_eq_ok_iff (text : String) (bytes : Bytes) :
    decode (Utf8.ofString text) = .ok bytes ↔ text.toList.map Char.toLower = encode bytes := by
  rw [decode_eq_ok_iff_map, ← encode_eq_map]
  constructor
  · intro same
    -- Bytes of digits are ASCII, so that they are the characters of the text.
    have ascii : ∀ b ∈ Utf8.ofString text, b < 0x80 := by
      intro b member
      have digit : (Char.ofNat b.toNat).toLower ∈ encode bytes := by
        rw [← same]
        exact List.mem_map_of_mem (f := fun b => (Char.ofNat b.toNat).toLower) member
      have small := ascii_of_isDigit (mem_digits_of_mem_encode digit)
      rwa [Utf8.toNat_char] at small
    rw [Utf8.toList_of_ascii ascii, List.map_map, ← same]
    rfl
  · intro same
    have ascii : ∀ c ∈ text.toList, c.toNat < 0x80 := by
      intro c member
      have digit : c.toLower ∈ encode bytes := by
        rw [← same]
        exact List.mem_map_of_mem member
      exact ascii_of_isDigit (mem_digits_of_mem_encode digit)
    rw [Utf8.ofString, Utf8.encode_of_ascii ascii, List.map_map, ← same]
    refine List.map_congr_left fun c member => ?_
    rw [Function.comp_apply, Utf8.char_of_ascii (ascii c member)]

end Hex

end DeviceConsole
