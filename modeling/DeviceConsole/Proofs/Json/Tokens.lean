import Mathlib.Tactic.SplitIfs
import DeviceConsole.Json.Parser
import DeviceConsole.Json.Printer

/-!
# Printed strings and numerals are read back

The parts of a text that have no brackets are read to their end, and no further.  This file shows:

* `Json.readString_quoted`: a string is read from its written form, escapes and all;
* `Json.readNumeral_digits`: a natural number of 64 bits is read from its decimal digits, if what
  follows it is `Json.Delimited`.
-/

namespace DeviceConsole

namespace Json

/-- Whether a text may follow a value inside a printed text: it is empty, or a comma or a closing
bracket comes next. -/
def Delimited : List Char → Prop
  | [] => True
  | c :: _ => c = ',' ∨ c = ']' ∨ c = '\x7d'

/-! ## Strings -/

theorem hexDigit?_hexChar {n : Nat} (h : n < 16) : hexDigit? (hexChar n) = some n :=
  have digits : ∀ n : Fin 16, hexDigit? (hexChar n) = some n.val := by decide
  digits ⟨n, h⟩

/-- The long escape of a control character stands for it. -/
theorem readHexEscape_control {c : Char} (low : c.toNat < 0x20) (rest : List Char) :
    readHexEscape ('0' :: '0' :: hexChar (c.toNat / 16) :: hexChar (c.toNat % 16) :: rest) =
      .ok (c, rest) := by
  have quad : hexQuad? '0' '0' (hexChar (c.toNat / 16)) (hexChar (c.toNat % 16)) =
      some c.toNat := by
    rw [hexQuad?, hexDigit?_hexChar (by omega), hexDigit?_hexChar (by omega)]
    show some (((0 * 16 + 0) * 16 + c.toNat / 16) * 16 + c.toNat % 16) = some c.toNat
    congr 1
    omega
  have read : readHexQuad
      ('0' :: '0' :: hexChar (c.toNat / 16) :: hexChar (c.toNat % 16) :: rest) =
        .ok (c.toNat, rest) := by
    rw [readHexQuad, quad]
  rw [readHexEscape, read]
  show (if 0xDC00 ≤ c.toNat ∧ c.toNat ≤ 0xDFFF then _ else
    if 0xD800 ≤ c.toNat ∧ c.toNat ≤ 0xDBFF then _ else _) = _
  rw [if_neg (by omega), if_neg (by omega), Char.ofNat_toNat]

/-- One character is read from its written form. -/
theorem readString_escape (fuel : Nat) (read rest : List Char) (c : Char) :
    readString (fuel + 1) read (escape c ++ rest) = readString fuel (c :: read) rest := by
  unfold escape
  split_ifs with quote backslash b f n r t low
  · subst quote; rfl
  · subst backslash; rfl
  · subst b; rfl
  · subst f; rfl
  · subst n; rfl
  · subst r; rfl
  · subst t; rfl
  · -- Every other control character has a long escape.
    show (readHexEscape
      ('0' :: '0' :: hexChar (c.toNat / 16) :: hexChar (c.toNat % 16) :: rest) >>=
        fun p => readString fuel (p.1 :: read) p.2) = _
    rw [readHexEscape_control low]
    rfl
  · rw [List.singleton_append, readString]
    · rw [if_neg low]
    · exact quote
    · exact backslash

/-- A string is read up to its closing quote. -/
theorem readString_quoted (fuel : Nat) (read chars rest : List Char)
    (enough : chars.length < fuel) :
    readString fuel read (chars.flatMap escape ++ '"' :: rest) =
      .ok (String.ofList (read.reverse ++ chars), rest) := by
  induction chars generalizing fuel read with
  | nil =>
      obtain ⟨fuel, rfl⟩ : ∃ k, fuel = k + 1 := ⟨fuel - 1, by simp at enough; omega⟩
      simp [readString]
  | cons c chars ih =>
      obtain ⟨fuel, rfl⟩ : ∃ k, fuel = k + 1 := ⟨fuel - 1, by simp at enough; omega⟩
      rw [List.flatMap_cons, List.append_assoc, readString_escape, ih]
      · simp
      · simpa using enough

/-! ## Numerals -/

theorem digit?_of_isDigit {c : Char} (h : c.isDigit = true) :
    digit? c = some (c.toNat - '0'.toNat) := by
  have bounds : '0' ≤ c ∧ c ≤ '9' := by simpa [Char.isDigit, Char.le_def] using h
  rw [digit?, if_pos bounds]

theorem Delimited.startsWithDigit {rest : List Char} (h : Delimited rest) :
    startsWithDigit rest = false := by
  cases rest with
  | nil => rfl
  | cons c rest => rcases h with rfl | rfl | rfl <;> rfl

theorem Delimited.readAfterInteger {rest : List Char} (h : Delimited rest) (negative : Bool)
    (n : Nat) : readAfterInteger negative n rest = .ok (integer negative n, rest) := by
  cases rest with
  | nil => rfl
  | cons c rest => rcases h with rfl | rfl | rfl <;> rfl

theorem le_ofDigitChars (digits : List Char) (number : Nat) :
    number ≤ Nat.ofDigitChars 10 digits number := by
  rw [Nat.ofDigitChars_eq_ofDigitChars_zero]
  have scale : 1 * number ≤ 10 ^ digits.length * number :=
    Nat.mul_le_mul_right _ (Nat.one_le_pow _ _ (by decide))
  omega

/-- Digits are collected to their end if the number stays below the limit. -/
theorem accumulate_digits {limit : Nat} {digits rest : List Char} (number taken : Nat)
    (all : ∀ c ∈ digits, c.isDigit = true) (ends : startsWithDigit rest = false)
    (fits : Nat.ofDigitChars 10 digits number ≤ limit) :
    accumulate limit number taken (digits ++ rest) =
      (Nat.ofDigitChars 10 digits number, taken + digits.length, rest) := by
  induction digits generalizing number taken with
  | nil =>
      cases rest with
      | nil => rfl
      | cons c rest =>
          have other : digit? c = none := by simpa [startsWithDigit] using ends
          simp [accumulate, other]
  | cons c digits ih =>
      rw [Nat.ofDigitChars_cons, Nat.mul_comm] at fits ⊢
      have step := le_ofDigitChars digits (number * 10 + (c.toNat - '0'.toNat))
      rw [List.cons_append, accumulate, digit?_of_isDigit (all c List.mem_cons_self)]
      simp only
      have later := fun c h => all c (List.mem_cons_of_mem _ h)
      rw [if_pos (Nat.le_trans step fits), ih _ _ later fits, List.length_cons, Nat.add_assoc,
        Nat.add_comm 1]

/-- No positive number is written with a zero in front. -/
theorem head?_toDigits {n : Nat} (positive : n ≠ 0) : (Nat.toDigits 10 n).head? ≠ some '0' := by
  induction n using Nat.strongRecOn with
  | _ n ih =>
      rw [Nat.toDigits_eq_if (by decide)]
      split
      · simpa [Nat.digitChar_eq_zero] using positive
      · next large =>
          have front := ih (n / 10) (by omega) (by omega)
          cases written : Nat.toDigits 10 (n / 10) with
          | nil => exact absurd written Nat.toDigits_ne_nil
          | cons c more => rwa [written] at front

/-- A natural number is read from its digits. -/
theorem readNumeral_digits (negative : Bool) {n : Nat} {rest : List Char} (fits : n ≤ wordMax)
    (h : Delimited rest) :
    readNumeral negative (Nat.toDigits 10 n ++ rest) = .ok (integer negative n, rest) := by
  by_cases zero : n = 0
  · subst zero
    show readNumeral negative ('0' :: rest) = _
    rw [readNumeral, h.startsWithDigit, h.readAfterInteger]
    rfl
  · have digits : ∀ c ∈ Nat.toDigits 10 n, c.isDigit = true := fun c =>
      Nat.isDigit_of_mem_toDigits (by decide) (by decide)
    have value : Nat.ofDigitChars 10 (Nat.toDigits 10 n) 0 = n := Nat.ofDigitChars_ten_toDigits
    have small : Nat.ofDigitChars 10 (Nat.toDigits 10 n) 0 ≤ wordMax := value.symm ▸ fits
    have read := accumulate_digits 0 0 digits h.startsWithDigit small
    have front := head?_toDigits zero
    rw [value] at read
    cases written : Nat.toDigits 10 n with
    | nil => exact absurd written Nat.toDigits_ne_nil
    | cons c more =>
        rw [written] at digits read front
        have first : (digit? c).isSome = true := by
          rw [digit?_of_isDigit (digits c List.mem_cons_self)]
          rfl
        rw [List.cons_append] at read ⊢
        rw [readNumeral, if_pos first, read]
        · simp [h.startsWithDigit, h.readAfterInteger]
        · rintro rfl
          exact front rfl

end Json

end DeviceConsole
