import DeviceConsole.Payload.Base64
import DeviceConsole.Proofs.Payload.Spelling
import DeviceConsole.Proofs.Text.Utf8

/-!
# Texts of base64

A text is read as base64 only if it is what bytes are written as: padding fills up the last group of
four, and the bits that no byte uses are zero.  This file defines:

* `Base64.Canonical bytes text`: a text writes bytes in the standard alphabet, with padding;

and shows:

* `Base64.encode_canonical` and `Canonical.unique`: each of all bytes has one such text;
* `Base64.decode_eq_ok_iff`: this text, and no other one, is read as these bytes.
-/

namespace DeviceConsole

namespace Base64

/-- The standard alphabet, in the order of the values of its symbols. -/
def alphabet : List Char :=
  "ABCDEFGHIJKLMNOPQRSTUVWXYZabcdefghijklmnopqrstuvwxyz0123456789+/".toList

/-- Whether a text writes bytes: six bits for each symbol, as few zero bits as fill up the last one,
and as little padding as fills up the last group of four. -/
def Canonical (bytes : Bytes) (text : List Char) : Prop :=
  ∃ symbols padding spare, text = symbols ++ List.replicate padding '=' ∧ 4 ∣ text.length ∧
    padding < 4 ∧ spare < 6 ∧ Spells alphabet 6 spare bytes symbols

variable {b : UInt8} {n v w x y z : Nat} {bytes text rest : Bytes}

/-! ## Symbols and their values -/

theorem alphabet_getElem? : ∀ n < 64, alphabet[n]? = some (Char.ofNat (symbol n).toNat) := by
  decide +kernel

theorem value?_symbol : ∀ n < 64, value? (symbol n) = some n := by decide

theorem symbol_ne_pad : ∀ n < 64, symbol n ≠ pad := by decide

theorem symbol_ascii : ∀ n < 64, symbol n < 0x80 := by decide

/-- A value belongs to one symbol. -/
theorem value?_eq_some (h : value? b = some v) : v < 64 ∧ symbol v = b := by
  have all : ∀ n : Fin 256, ∀ v ∈ value? (UInt8.ofNat n), v < 64 ∧ symbol v = UInt8.ofNat n := by
    decide +kernel
  simpa using all ⟨b.toNat, b.toNat_lt⟩ v (by simpa using h)

/-! ## Groups -/

/-- Four values are three bytes. -/
theorem encode_join (hw : w < 64) (hx : x < 64) (hy : y < 64) (hz : z < 64) (bytes : Bytes) :
    encode (join w x y z ++ bytes) =
      symbol w :: symbol x :: symbol y :: symbol z :: encode bytes := by
  have first : (w * 4 + x / 16) / 4 = w := by omega
  have second : (w * 4 + x / 16) % 4 * 16 + (x % 16 * 16 + y / 4) / 16 = x := by omega
  have third : (x % 16 * 16 + y / 4) % 16 * 4 + (y % 4 * 64 + z) / 64 = y := by omega
  have fourth : (y % 4 * 64 + z) % 64 = z := by omega
  simp only [join, List.cons_append, List.nil_append, encode]
  rw [Utf8.toNat_ofNat (by omega), Utf8.toNat_ofNat (by omega), Utf8.toNat_ofNat (by omega),
    first, second, third, fourth]

theorem join_split (a b c : UInt8) :
    join (a.toNat / 4) (a.toNat % 4 * 16 + b.toNat / 16) (b.toNat % 16 * 4 + c.toNat / 64)
      (c.toNat % 64) = [a, b, c] := by
  have ha := a.toNat_lt
  have hb := b.toNat_lt
  have hc := c.toNat_lt
  have first : a.toNat / 4 * 4 + (a.toNat % 4 * 16 + b.toNat / 16) / 16 = a.toNat := by omega
  have second :
      (a.toNat % 4 * 16 + b.toNat / 16) % 16 * 16 + (b.toNat % 16 * 4 + c.toNat / 64) / 4 =
        b.toNat := by omega
  have third : (b.toNat % 16 * 4 + c.toNat / 64) % 4 * 64 + c.toNat % 64 = c.toNat := by omega
  simp only [join, first, second, third, UInt8.ofNat_toNat]

theorem encode_pair (hw : w < 64) (hx : x < 64) (unused : x % 16 = 0) :
    encode [UInt8.ofNat (w * 4 + x / 16)] = [symbol w, symbol x, pad, pad] := by
  have first : (w * 4 + x / 16) / 4 = w := by omega
  have second : (w * 4 + x / 16) % 4 * 16 = x := by omega
  simp only [encode]
  rw [Utf8.toNat_ofNat (by omega), first, second]

theorem encode_triple (hw : w < 64) (hx : x < 64) (hy : y < 64) (unused : y % 4 = 0) :
    encode [UInt8.ofNat (w * 4 + x / 16), UInt8.ofNat (x % 16 * 16 + y / 4)] =
      [symbol w, symbol x, symbol y, pad] := by
  have first : (w * 4 + x / 16) / 4 = w := by omega
  have second : (w * 4 + x / 16) % 4 * 16 + (x % 16 * 16 + y / 4) / 16 = x := by omega
  have third : (x % 16 * 16 + y / 4) % 16 * 4 = y := by omega
  simp only [encode]
  rw [Utf8.toNat_ofNat (by omega), Utf8.toNat_ofNat (by omega), first, second, third]

/-! ## What is read -/

/-- How much padding has been seen. -/
def Tail.filled (tail : Tail) : Nat := (tail.padding.map (·.2)).getD 0

/-- The last group is read if it is symbols with padding after them. -/
theorem readTail_eq_ok {offset place : Nat} {tail tail' : Tail} {last : Bytes}
    (h : readTail offset place tail last = .ok tail') :
    ∃ values count, last = values.map symbol ++ List.replicate count pad ∧
      (∀ v ∈ values, v < 64) ∧ tail'.values = values.reverse ++ tail.values ∧
      tail'.filled = tail.filled + count ∧ (tail.padding.isSome → values = []) := by
  fun_induction readTail offset place tail last with
  | case1 place tail =>
      obtain rfl := Except.ok.inj h
      exact ⟨[], 0, rfl, nofun, rfl, rfl, fun _ => rfl⟩
  | case2 => cases h
  | case3 place tail rest _ padding ih =>
      rcases ih h with ⟨values, count, rfl, small, read, filled, none⟩
      obtain rfl := none rfl
      refine ⟨[], count + 1, rfl, small, read, ?_, fun _ => rfl⟩
      rw [filled]
      rcases seen : tail.padding with _ | ⟨first, before⟩ <;>
        simp [Tail.filled, padding, seen] <;> omega
  | case4 => cases h
  | case5 => cases h
  | case6 place tail b rest _ none v found ih =>
      rcases ih h with ⟨values, count, rfl, small, read, filled, -⟩
      rcases value?_eq_some found with ⟨hv, rfl⟩
      refine ⟨v :: values, count, rfl, ?_, ?_, ?_, ?_⟩
      · exact List.forall_mem_cons.2 ⟨hv, small⟩
      · rw [read, List.reverse_cons, List.append_assoc, List.singleton_append]
      · rw [filled, Tail.filled, Tail.filled, none]
      · rw [none]
        nofun

/-- It is closed if these are what some bytes are written as. -/
theorem closeTail_eq_ok {offset : Nat} {tail : Tail} {last : Bytes} (short : last.length ≤ 4)
    (read : readTail offset 0 ⟨[], 0, none⟩ last = .ok tail)
    (closed : closeTail offset tail = .ok bytes) : last = encode bytes := by
  rcases readTail_eq_ok read with ⟨values, count, rfl, small, found, filled, -⟩
  rw [List.append_nil] at found
  rw [Tail.filled, Tail.filled] at filled
  simp only [Option.map_none, Option.getD_none, Nat.zero_add] at filled
  simp only [closeTail, found, List.reverse_reverse, filled] at closed
  split at closed
  · next w x =>
    rw [List.forall_mem_cons, List.forall_mem_singleton] at small
    split at closed
    · cases closed
    · next full =>
      split at closed
      · cases closed
      · next unused =>
        obtain rfl := Except.ok.inj closed
        obtain rfl : count = 2 := by omega
        exact (encode_pair small.1 small.2 (by omega)).symm
  · next w x y =>
    rw [List.forall_mem_cons, List.forall_mem_cons, List.forall_mem_singleton] at small
    split at closed
    · cases closed
    · next full =>
      split at closed
      · cases closed
      · next unused =>
        obtain rfl := Except.ok.inj closed
        obtain rfl : count = 1 := by omega
        exact (encode_triple small.1 small.2.1 small.2.2 (by omega)).symm
  · next w x y z =>
    rw [List.forall_mem_cons, List.forall_mem_cons, List.forall_mem_cons,
      List.forall_mem_singleton] at small
    rw [List.length_append, List.length_replicate] at short
    obtain rfl := Except.ok.inj closed
    obtain rfl : count = 0 := by simpa using short
    have group := encode_join small.1 small.2.1 small.2.2.1 small.2.2.2 []
    rwa [List.append_nil, encode, eq_comm] at group
  · cases closed

theorem values_eq_ok {offset : Nat} {front : Bytes} {read : List Nat}
    (h : values offset front = .ok read) : front = read.map symbol ∧ ∀ v ∈ read, v < 64 := by
  fun_induction values offset front generalizing read with
  | case1 =>
      obtain rfl := Except.ok.inj h
      exact ⟨rfl, nofun⟩
  | case2 => cases h
  | case3 offset b rest v found later ok ih =>
      obtain rfl := Except.ok.inj h
      rcases value?_eq_some found with ⟨hv, rfl⟩
      rcases ih ok with ⟨rfl, small⟩
      exact ⟨rfl, List.forall_mem_cons.2 ⟨hv, small⟩⟩
  | case4 => cases h

/-- Groups are read if they are what some bytes are written as. -/
theorem eq_encode_of_decodeGroups {offset : Nat} (h : decodeGroups offset text = .ok bytes) :
    text = encode bytes := by
  fun_induction decodeGroups offset text generalizing bytes with
  | case1 =>
      obtain rfl := Except.ok.inj h
      rfl
  | case2 => cases h
  | case3 => cases h
  | case4 offset a b c d e rest bytes' ok w x y z read ih =>
      obtain rfl := Except.ok.inj h
      rcases values_eq_ok read with ⟨group, small⟩
      simp only [List.forall_mem_cons] at small
      rw [encode_join small.1 small.2.1 small.2.2.1 small.2.2.2.1, ← ih ok]
      simpa using group
  | case5 offset a b c d e rest vs read bytes' ok other ih =>
      have four := congrArg List.length (values_eq_ok read).1
      rw [List.length_map] at four
      rcases vs with _ | ⟨w, _ | ⟨x, _ | ⟨y, _ | ⟨z, _ | _⟩⟩⟩⟩ <;> simp at four
      exact (other w x y z rfl).elim
  | case6 offset last _ short tail read =>
      have few : last.length ≤ 4 := by
        by_contra many
        rcases last with _ | ⟨a, _ | ⟨b, _ | ⟨c, _ | ⟨d, _ | ⟨e, rest⟩⟩⟩⟩⟩ <;> simp at many
        exact short a b c d e rest rfl
      exact closeTail_eq_ok few read h
  | case7 => cases h

/-! ## What bytes are written as -/

theorem values_symbols (offset : Nat) {read : List Nat} (small : ∀ v ∈ read, v < 64) :
    values offset (read.map symbol) = .ok read := by
  induction read generalizing offset with
  | nil => rfl
  | cons v read ih =>
      rw [List.forall_mem_cons] at small
      simp only [List.map_cons, values, value?_symbol v small.1, ih _ small.2]

theorem readTail_padding (offset place : Nat) (tail : Tail) (count : Nat) (inside : 2 ≤ place) :
    ∃ tail', readTail offset place tail (List.replicate count pad) = .ok tail' ∧
      tail'.values = tail.values ∧ tail'.filled = tail.filled + count := by
  induction count generalizing place tail with
  | zero => exact ⟨tail, rfl, rfl, rfl⟩
  | succ count ih =>
      rw [List.replicate_succ, readTail, if_pos rfl, if_neg (by omega)]
      rcases seen : tail.padding with _ | ⟨first, before⟩
      all_goals
        rcases ih (place + 1) ⟨tail.values, tail.last, _⟩ (Nat.le_succ_of_le inside) with
          ⟨tail', read, same, filled⟩
        refine ⟨tail', read, same, ?_⟩
        rw [filled, Tail.filled, Tail.filled, seen]
        simp
        omega

theorem readTail_symbols (offset place : Nat) {read : List Nat} (small : ∀ v ∈ read, v < 64)
    (before : List Nat) (last : UInt8) (rest : Bytes) :
    ∃ last', readTail offset place ⟨before, last, none⟩ (read.map symbol ++ rest) =
      readTail offset (place + read.length) ⟨read.reverse ++ before, last', none⟩ rest := by
  induction read generalizing place before last with
  | nil => exact ⟨last, rfl⟩
  | cons v read ih =>
      rw [List.forall_mem_cons] at small
      rcases ih (place + 1) small.2 (v :: before) (symbol v) with ⟨last', same⟩
      refine ⟨last', ?_⟩
      rw [List.map_cons, List.cons_append, readTail, if_neg (symbol_ne_pad v small.1)]
      simp only [value?_symbol v small.1, same, List.length_cons, List.reverse_cons,
        List.append_assoc, List.singleton_append, Nat.add_assoc, Nat.add_comm 1]

theorem decodeGroups_four {offset : Nat} {group : Bytes} {tail : Tail} (four : group.length = 4)
    (read : readTail offset 0 ⟨[], 0, none⟩ group = .ok tail) :
    decodeGroups offset group = closeTail offset tail := by
  rcases group with _ | ⟨a, _ | ⟨b, _ | ⟨c, _ | ⟨d, _ | _⟩⟩⟩⟩ <;> simp at four
  simp only [decodeGroups, read]

/-- Groups of four symbols are followed by the others, or by nothing. -/
theorem decodeGroups_symbols {offset : Nat} (hw : w < 64) (hx : x < 64) (hy : y < 64) (hz : z < 64)
    (later : decodeGroups (offset + 4) rest = .ok bytes) :
    decodeGroups offset ([w, x, y, z].map symbol ++ rest) = .ok (join w x y z ++ bytes) := by
  have small : ∀ v ∈ [w, x, y, z], v < 64 := by simp [hw, hx, hy, hz]
  cases rest with
  | nil =>
      obtain rfl := Except.ok.inj later
      rcases readTail_symbols offset 0 small [] 0 [] with ⟨last, read⟩
      exact (decodeGroups_four rfl read).trans rfl
  | cons e rest =>
      have read := values_symbols offset small
      simp only [List.map_cons, List.map_nil, List.cons_append, List.nil_append] at read ⊢
      simp only [decodeGroups, read, later]

/-- A last group of symbols and padding is closed. -/
theorem decodeGroups_last (offset : Nat) (read : List Nat) (count : Nat)
    (small : ∀ v ∈ read, v < 64) (two : 2 ≤ read.length) (four : read.length + count = 4) :
    ∃ tail, decodeGroups offset (read.map symbol ++ List.replicate count pad) =
      closeTail offset tail ∧ tail.values = read.reverse ∧ tail.filled = count := by
  rcases readTail_symbols offset 0 small [] 0 (List.replicate count pad) with
    ⟨last, first⟩
  rcases readTail_padding offset (0 + read.length)
    ⟨read.reverse ++ [], last, none⟩ count (by omega) with ⟨tail, second, same, filled⟩
  have length : (read.map symbol ++ List.replicate count pad).length = 4 := by simpa using four
  refine ⟨tail, decodeGroups_four length (first.trans second), ?_, ?_⟩
  · rw [same, List.append_nil]
  · rw [filled, Tail.filled, Option.map_none, Option.getD_none, Nat.zero_add]

/-- What bytes are written as is read as these bytes. -/
theorem decodeGroups_encode (offset : Nat) (bytes : Bytes) :
    decodeGroups offset (encode bytes) = .ok bytes := by
  induction bytes using encode.induct generalizing offset with
  | case1 => rfl
  | case2 a =>
      have ha := a.toNat_lt
      have high : a.toNat / 4 < 64 := by omega
      have low : a.toNat % 4 * 16 < 64 := by omega
      have back : a.toNat / 4 * 4 + a.toNat % 4 * 16 / 16 = a.toNat := by omega
      have unused : a.toNat % 4 * 16 % 16 = 0 := by omega
      rcases decodeGroups_last offset [a.toNat / 4, a.toNat % 4 * 16] 2 (by simp [high, low])
        (by simp) rfl with ⟨tail, read, same, filled⟩
      rw [Tail.filled] at filled
      refine read.trans ?_
      simp only [closeTail, same, List.reverse_reverse, filled, unused, ne_eq, not_true_eq_false,
        if_false, back, UInt8.ofNat_toNat]
  | case3 a b =>
      have ha := a.toNat_lt
      have hb := b.toNat_lt
      have high : a.toNat / 4 < 64 := by omega
      have middle : a.toNat % 4 * 16 + b.toNat / 16 < 64 := by omega
      have low : b.toNat % 16 * 4 < 64 := by omega
      have first : a.toNat / 4 * 4 + (a.toNat % 4 * 16 + b.toNat / 16) / 16 = a.toNat := by omega
      have second :
          (a.toNat % 4 * 16 + b.toNat / 16) % 16 * 16 + b.toNat % 16 * 4 / 4 = b.toNat := by omega
      have unused : b.toNat % 16 * 4 % 4 = 0 := by omega
      rcases decodeGroups_last offset
        [a.toNat / 4, a.toNat % 4 * 16 + b.toNat / 16, b.toNat % 16 * 4] 1
        (by simp [high, middle, low]) (by simp) rfl with ⟨tail, read, same, filled⟩
      rw [Tail.filled] at filled
      refine read.trans ?_
      simp only [closeTail, same, List.reverse_reverse, filled, unused, ne_eq, not_true_eq_false,
        if_false, first, second, UInt8.ofNat_toNat]
  | case4 a b c rest ih =>
      have ha := a.toNat_lt
      have hb := b.toNat_lt
      have hc := c.toNat_lt
      refine (decodeGroups_symbols (by omega) (by omega) (by omega) (by omega) (ih _)).trans ?_
      rw [join_split]
      rfl

theorem four_dvd_length_encode (bytes : Bytes) : 4 ∣ (encode bytes).length := by
  induction bytes using encode.induct with
  | case1 => simp [encode]
  | case2 a => simp [encode]
  | case3 a b => simp [encode]
  | case4 a b c rest ih =>
      simp only [encode, List.length_cons]
      omega

/-- A text is read as bytes if it is what these are written as. -/
theorem decode_eq_ok_iff (text bytes : Bytes) : decode text = .ok bytes ↔ text = encode bytes := by
  constructor
  · intro h
    rw [decode] at h
    split at h
    · next empty =>
      obtain rfl := Except.ok.inj h
      exact List.getLast?_eq_none_iff.1 empty
    · split at h
      · cases h
      · exact eq_encode_of_decodeGroups h
  · rintro rfl
    have whole := four_dvd_length_encode bytes
    rw [decode]
    split
    · next empty =>
      have read := decodeGroups_encode 0 bytes
      rwa [List.getLast?_eq_none_iff.1 empty] at read
    · rw [if_neg (by omega)]
      exact decodeGroups_encode 0 bytes

/-! ## What is canonical -/

/-- The characters of symbols and padding. -/
def characters (text : Bytes) : List Char := text.map fun b => Char.ofNat b.toNat

theorem spells_of_bits {values : List Nat} {spare : Nat} (small : ∀ v ∈ values, v < 64)
    (same : values.flatMap (bits 6) = bytes.bits ++ List.replicate spare false) :
    Spells alphabet 6 spare bytes (characters (values.map symbol)) := by
  refine ⟨values, ?_, same⟩
  rw [characters, List.map_map, List.map_map]
  exact List.map_congr_left fun v member => alphabet_getElem? v (small v member)

/-- The bits of a byte are cut after the sixth one, of the next byte after the fourth one, and of
the last byte after the second one. -/
theorem spells_three (a b c : UInt8) :
    Spells alphabet 6 0 [a, b, c] (characters ([a.toNat / 4, a.toNat % 4 * 16 + b.toNat / 16,
      b.toNat % 16 * 4 + c.toNat / 64, c.toNat % 64].map symbol)) := by
  have ha := a.toNat_lt
  have hb := b.toNat_lt
  have hc := c.toNat_lt
  have second : bits 6 (a.toNat % 4 * 16 + b.toNat / 16) =
      bits 2 (a.toNat % 4) ++ bits 4 (b.toNat / 16) := bits_add 2 4 _ _ (by omega)
  have third : bits 6 (b.toNat % 16 * 4 + c.toNat / 64) =
      bits 4 (b.toNat % 16) ++ bits 2 (c.toNat / 64) := bits_add 4 2 _ _ (by omega)
  refine spells_of_bits ?_ ?_
  · simp only [List.forall_mem_cons]
    exact ⟨by omega, by omega, by omega, by omega, nofun⟩
  · simp only [List.flatMap_cons, List.flatMap_nil, Bytes.bits]
    rw [bits_split 6 2 a.toNat, bits_split 4 4 b.toNat, bits_split 2 6 c.toNat, second, third]
    simp

theorem spells_two (a b : UInt8) :
    Spells alphabet 6 2 [a, b] (characters ([a.toNat / 4, a.toNat % 4 * 16 + b.toNat / 16,
      b.toNat % 16 * 4].map symbol)) := by
  have ha := a.toNat_lt
  have hb := b.toNat_lt
  have second : bits 6 (a.toNat % 4 * 16 + b.toNat / 16) =
      bits 2 (a.toNat % 4) ++ bits 4 (b.toNat / 16) := bits_add 2 4 _ _ (by omega)
  have third : bits 6 (b.toNat % 16 * 4) = bits 4 (b.toNat % 16) ++ bits 2 0 :=
    bits_add 4 2 _ 0 (by omega)
  refine spells_of_bits ?_ ?_
  · simp only [List.forall_mem_cons]
    exact ⟨by omega, by omega, by omega, nofun⟩
  · simp only [List.flatMap_cons, List.flatMap_nil, Bytes.bits]
    rw [bits_split 6 2 a.toNat, bits_split 4 4 b.toNat, second, third, bits_zero]
    simp

theorem spells_one (a : UInt8) :
    Spells alphabet 6 4 [a] (characters ([a.toNat / 4, a.toNat % 4 * 16].map symbol)) := by
  have ha := a.toNat_lt
  have second : bits 6 (a.toNat % 4 * 16) = bits 2 (a.toNat % 4) ++ bits 4 0 :=
    bits_add 2 4 _ 0 (by omega)
  refine spells_of_bits ?_ ?_
  · simp only [List.forall_mem_cons]
    exact ⟨by omega, by omega, nofun⟩
  · simp only [List.flatMap_cons, List.flatMap_nil, Bytes.bits]
    rw [bits_split 6 2 a.toNat, second, bits_zero]
    simp

/-- What bytes are written as is canonical. -/
theorem encode_canonical (bytes : Bytes) : Canonical bytes (characters (encode bytes)) := by
  induction bytes using encode.induct with
  | case1 => exact ⟨[], 0, 0, rfl, by decide, by decide, by decide, .nil⟩
  | case2 a => exact ⟨_, 2, 4, rfl, ⟨1, rfl⟩, by decide, by decide, spells_one a⟩
  | case3 a b => exact ⟨_, 1, 2, rfl, ⟨1, rfl⟩, by decide, by decide, spells_two a b⟩
  | case4 a b c rest ih =>
      rcases ih with ⟨symbols, padding, spare, same, four, some, few, spelled⟩
      refine ⟨_, padding, spare, ?_, ?_, some, few, (spells_three a b c).append spelled⟩
      · rw [List.append_assoc, ← same]
        rfl
      · have longer : (characters (encode (a :: b :: c :: rest))).length =
            4 + (characters (encode rest)).length := by
          simp only [characters, encode, List.map_cons, List.length_cons]
          omega
        omega

/-- Bytes have one canonical text. -/
theorem Canonical.unique {text other : List Char} (h : Canonical bytes text)
    (h' : Canonical bytes other) : text = other := by
  rcases h with ⟨symbols, padding, spare, rfl, four, some, few, spelled⟩
  rcases h' with ⟨symbols', padding', spare', rfl, four', some', few', spelled'⟩
  obtain rfl := spelled.unique (by decide +kernel) few few' spelled'
  rw [List.length_append, List.length_replicate] at four four'
  obtain rfl : padding = padding' := by omega
  rfl

theorem canonical_iff (bytes : Bytes) (text : List Char) :
    Canonical bytes text ↔ text = characters (encode bytes) :=
  ⟨fun h => h.unique (encode_canonical bytes), fun same => same ▸ encode_canonical bytes⟩

theorem encode_ascii (bytes : Bytes) : ∀ b ∈ encode bytes, b < 0x80 := by
  induction bytes using encode.induct with
  | case1 => exact nofun
  | case2 a =>
      have ha := a.toNat_lt
      simp only [encode, List.forall_mem_cons]
      exact ⟨symbol_ascii _ (by omega), symbol_ascii _ (by omega), by decide, by decide, nofun⟩
  | case3 a b =>
      have ha := a.toNat_lt
      have hb := b.toNat_lt
      simp only [encode, List.forall_mem_cons]
      exact ⟨symbol_ascii _ (by omega), symbol_ascii _ (by omega), symbol_ascii _ (by omega),
        by decide, nofun⟩
  | case4 a b c rest ih =>
      have ha := a.toNat_lt
      have hb := b.toNat_lt
      have hc := c.toNat_lt
      simp only [encode, List.forall_mem_cons]
      exact ⟨symbol_ascii _ (by omega), symbol_ascii _ (by omega), symbol_ascii _ (by omega),
        symbol_ascii _ (by omega), ih⟩

/-- A text is read as bytes if it is their canonical one. -/
theorem decode_ofString_iff (text : String) (bytes : Bytes) :
    decode (Utf8.ofString text) = .ok bytes ↔ Canonical bytes text.toList := by
  have ascii := encode_ascii bytes
  rw [decode_eq_ok_iff, canonical_iff]
  constructor
  · intro same
    rw [← same] at ascii
    rw [Utf8.toList_of_ascii ascii, same]
    rfl
  · intro same
    rw [Utf8.ofString, same]
    exact Utf8.encode_map_char ascii

end Base64

end DeviceConsole
