import DeviceConsole.Text.Utf8

/-!
# Text that is read back from its bytes

The bytes of a text are read as this text, and all other bytes as a text with other bytes.  This
file shows:

* `Utf8.readChar_utf8EncodeChar`, which reads one character;
* `Utf8.decodeLossy_encode`, which reads a text, and `Utf8.encode_inj`;
* `Utf8.ofString_toString_iff`: reading loses nothing exactly of bytes that are valid;
* `Utf8.encode_of_ascii` and `Utf8.toList_of_ascii`, for characters of one byte;
* `Utf8.exists_append_of_encode_prefix`: bytes of ASCII occur only where their characters do.
-/

namespace DeviceConsole

namespace Utf8

variable {a b : UInt8} {bits n : Nat} {rest : Bytes}

/-! ## Bytes of a character -/

theorem toNat_ofNat (small : n < 256) : (UInt8.ofNat n).toNat = n :=
  UInt8.toNat_ofNat_of_lt' small

/-- The byte that goes on a character with the last six bits of a number. -/
def tailByte (bits : Nat) : UInt8 := UInt8.ofNat (bits % 64 + 128)

theorem toNat_tailByte (bits : Nat) : (tailByte bits).toNat = bits % 64 + 128 :=
  toNat_ofNat (by omega)

theorem isTail_tailByte (bits : Nat) : isTail (tailByte bits) = true := by
  simp only [isTail, Bool.and_eq_true, decide_eq_true_eq, UInt8.le_iff_toNat_le, toNat_tailByte,
    UInt8.reduceToNat]
  omega

theorem push_tailByte (above bits : Nat) : push above (tailByte bits) = above * 64 + bits % 64 := by
  have value := toNat_tailByte bits
  unfold push
  omega

theorem lead?_ofNat (small : n < 256) :
    lead? (UInt8.ofNat n) =
      if n < 0x80 then some ⟨n, 0, 0, 0⟩
      else if 0xC2 ≤ n ∧ n ≤ 0xDF then some ⟨n - 0xC0, 1, 0x80, 0xBF⟩
      else if n = 0xE0 then some ⟨0, 2, 0xA0, 0xBF⟩
      else if n = 0xED then some ⟨0xD, 2, 0x80, 0x9F⟩
      else if 0xE1 ≤ n ∧ n ≤ 0xEF then some ⟨n - 0xE0, 2, 0x80, 0xBF⟩
      else if n = 0xF0 then some ⟨0, 3, 0x90, 0xBF⟩
      else if 0xF1 ≤ n ∧ n ≤ 0xF3 then some ⟨n - 0xF0, 3, 0x80, 0xBF⟩
      else if n = 0xF4 then some ⟨4, 3, 0x80, 0x8F⟩
      else none := by
  simp only [lead?, UInt8.lt_iff_toNat_lt, UInt8.le_iff_toNat_le, ← UInt8.toNat_inj,
    toNat_ofNat small, UInt8.reduceToNat]

/-- Whether a byte may follow the first one of a character with so many bytes after it. -/
def Leads (a : UInt8) (bits following : Nat) (b : UInt8) : Prop :=
  ∃ least greatest, lead? a = some ⟨bits, following, least, greatest⟩ ∧ least ≤ b ∧ b ≤ greatest

theorem leads_two (least : 0x80 ≤ n) (greatest : n < 0x800) :
    Leads (UInt8.ofNat (n / 64 % 32 + 192)) (n / 64) 1 (tailByte n) := by
  have bits : n / 64 % 32 + 192 - 0xC0 = n / 64 := by omega
  refine ⟨0x80, 0xBF, ?_, by simpa [isTail] using isTail_tailByte n⟩
  rw [lead?_ofNat (by omega), if_neg (by omega), if_pos (by omega), bits]

/-- The byte after the first one rules out longer forms of characters with fewer bits, and
surrogates. -/
theorem leads_three (least : 0x800 ≤ n) (greatest : n < 0x10000)
    (whole : n < 0xD800 ∨ 0xDFFF < n) :
    Leads (UInt8.ofNat (n / 4096 % 16 + 224)) (n / 4096) 2 (tailByte (n / 64)) := by
  have small : n / 4096 % 16 + 224 < 256 := by omega
  have bits : n / 4096 % 16 + 224 - 0xE0 = n / 4096 := by omega
  simp only [Leads, lead?_ofNat small, UInt8.le_iff_toNat_le, toNat_tailByte]
  rw [if_neg (by omega), if_neg (by omega)]
  split
  · have lead : n / 4096 = 0 := by omega
    rw [lead]
    refine ⟨0xA0, 0xBF, rfl, ?_⟩
    simp only [UInt8.reduceToNat]
    omega
  split
  · have lead : n / 4096 = 13 := by omega
    rw [lead]
    refine ⟨0x80, 0x9F, rfl, ?_⟩
    simp only [UInt8.reduceToNat]
    omega
  · rw [if_pos (by omega), bits]
    refine ⟨0x80, 0xBF, rfl, ?_⟩
    simp only [UInt8.reduceToNat]
    omega

/-- Here it rules out longer forms, and characters beyond the last one. -/
theorem leads_four (least : 0x10000 ≤ n) (greatest : n < 0x110000) :
    Leads (UInt8.ofNat (n / 262144 % 8 + 240)) (n / 262144) 3 (tailByte (n / 4096)) := by
  have small : n / 262144 % 8 + 240 < 256 := by omega
  have bits : n / 262144 % 8 + 240 - 0xF0 = n / 262144 := by omega
  simp only [Leads, lead?_ofNat small, UInt8.le_iff_toNat_le, toNat_tailByte]
  rw [if_neg (by omega), if_neg (by omega), if_neg (by omega), if_neg (by omega),
    if_neg (by omega)]
  split
  · have lead : n / 262144 = 0 := by omega
    rw [lead]
    refine ⟨0x90, 0xBF, rfl, ?_⟩
    simp only [UInt8.reduceToNat]
    omega
  split
  · rw [bits]
    refine ⟨0x80, 0xBF, rfl, ?_⟩
    simp only [UInt8.reduceToNat]
    omega
  · have lead : n / 262144 = 4 := by omega
    rw [if_pos (by omega), lead]
    refine ⟨0x80, 0x8F, rfl, ?_⟩
    simp only [UInt8.reduceToNat]
    omega

/-! ## Reading one character -/

theorem readChar_two (leads : Leads a bits 1 b) :
    readChar a (b :: rest) = (Char.ofNat (push bits b), 1) := by
  rcases leads with ⟨least, greatest, lead, first, last⟩
  simp [readChar, lead, first, last]

theorem readChar_three {c : UInt8} (leads : Leads a bits 2 b) (tail : isTail c = true) :
    readChar a (b :: c :: rest) = (Char.ofNat (push (push bits b) c), 2) := by
  rcases leads with ⟨least, greatest, lead, first, last⟩
  simp [readChar, lead, first, last, tail]

theorem readChar_four {c d : UInt8} (leads : Leads a bits 3 b) (tail : isTail c = true)
    (tail' : isTail d = true) :
    readChar a (b :: c :: d :: rest) = (Char.ofNat (push (push (push bits b) c) d), 3) := by
  rcases leads with ⟨least, greatest, lead, first, last⟩
  simp [readChar, lead, first, last, tail, tail']

/-- A character is read from its bytes, whatever follows them. -/
theorem readChar_utf8EncodeChar (c : Char) (rest : Bytes) :
    ∃ a tail, String.utf8EncodeChar c = a :: tail ∧
      readChar a (tail ++ rest) = (c, tail.length) := by
  have valid : c.toNat < 0xD800 ∨ 0xDFFF < c.toNat ∧ c.toNat < 0x110000 := c.valid
  have same : ∀ n, n = c.toNat → Char.ofNat n = c := by
    rintro n rfl
    exact c.ofNat_toNat
  have value : c.val.toNat = c.toNat := rfl
  simp only [String.utf8EncodeChar, value]
  generalize c.toNat = n at valid same
  -- One case for each number of bytes.
  split
  · refine ⟨_, [], rfl, ?_⟩
    have one : lead? (UInt8.ofNat n) = some ⟨n, 0, 0, 0⟩ := by
      rw [lead?_ofNat (by omega), if_pos (by omega)]
    simp [readChar, one, same]
  split
  · refine ⟨_, [tailByte n], rfl, ?_⟩
    refine (readChar_two (leads_two (by omega) (by omega))).trans ?_
    rw [push_tailByte, same _ (by omega)]
    rfl
  split
  · refine ⟨_, [tailByte (n / 64), tailByte n], rfl, ?_⟩
    have leads := leads_three (n := n) (by omega) (by omega) (by omega)
    refine (readChar_three leads (isTail_tailByte n)).trans ?_
    rw [push_tailByte, push_tailByte, same _ (by omega)]
    rfl
  · refine ⟨_, [tailByte (n / 4096), tailByte (n / 64), tailByte n], rfl, ?_⟩
    have leads := leads_four (n := n) (by omega) (by omega)
    refine (readChar_four leads (isTail_tailByte _) (isTail_tailByte n)).trans ?_
    rw [push_tailByte, push_tailByte, push_tailByte, same _ (by omega)]
    rfl

/-! ## Reading a text -/

theorem decodeFrom_length (tail rest : Bytes) :
    decodeFrom tail.length (tail ++ rest) = decodeFrom 0 rest := by
  induction tail with
  | nil => rfl
  | cons b tail ih => exact ih

/-- A text is read from its bytes. -/
theorem decodeLossy_encode (text : List Char) : decodeLossy (encode text) = text := by
  induction text with
  | nil => rfl
  | cons c text ih =>
      rcases readChar_utf8EncodeChar c (encode text) with ⟨a, tail, bytes, read⟩
      have whole : encode (c :: text) = a :: (tail ++ encode text) := by
        rw [encode, List.flatMap_cons, bytes]
        rfl
      rw [whole, decodeLossy, decodeFrom, read, decodeFrom_length]
      exact congrArg (c :: ·) ih

theorem encode_inj {text other : List Char} : encode text = encode other ↔ text = other := by
  constructor
  · intro same
    rw [← decodeLossy_encode text, same, decodeLossy_encode]
  · exact congrArg encode

@[simp] theorem toString_ofString (text : String) : toString (ofString text) = text := by
  rw [toString, ofString, decodeLossy_encode, String.ofList_toList]

theorem ofString_ofList (text : List Char) : ofString (String.ofList text) = encode text := by
  rw [ofString, String.toList_ofList]

/-- Bytes that are not the bytes of a text are read as the text of others. -/
theorem ofString_toString_iff (bytes : Bytes) :
    ofString (toString bytes) = bytes ↔ bytes.toByteArray.IsValidUTF8 := by
  constructor
  · intro same
    exact ⟨(toString bytes).toList, congrArg List.toByteArray same.symm⟩
  · rintro ⟨text, same⟩
    have written : bytes = text.flatMap String.utf8EncodeChar := by
      simpa [List.utf8Encode] using congrArg (·.data.toList) same
    obtain rfl : bytes = encode text := written
    rw [toString, ofString_ofList, decodeLossy_encode]

/-! ## Characters of one byte -/

/-- The first 256 characters stand for bytes. -/
theorem toNat_char (b : UInt8) : (Char.ofNat b.toNat).toNat = b.toNat := by
  have small := b.toNat_lt
  have valid : b.toNat.isValidChar := Or.inl (by omega)
  rw [Char.ofNat, dif_pos valid]
  rfl

theorem char_of_ascii {c : Char} (ascii : c.toNat < 0x80) :
    Char.ofNat (UInt8.ofNat c.toNat).toNat = c := by
  rw [toNat_ofNat (by omega), c.ofNat_toNat]

/-- A character of ASCII is its own byte. -/
theorem utf8EncodeChar_of_ascii {c : Char} (ascii : c.toNat < 0x80) :
    String.utf8EncodeChar c = [UInt8.ofNat c.toNat] := by
  have value : c.val.toNat = c.toNat := rfl
  simp only [String.utf8EncodeChar, value]
  rw [if_pos (by omega)]

theorem encode_of_ascii {text : List Char} (ascii : ∀ c ∈ text, c.toNat < 0x80) :
    encode text = text.map fun c => UInt8.ofNat c.toNat := by
  induction text with
  | nil => rfl
  | cons c rest ih =>
      rw [List.forall_mem_cons] at ascii
      rw [encode, List.flatMap_cons, utf8EncodeChar_of_ascii ascii.1, List.map_cons, ← ih ascii.2]
      rfl

/-- Bytes of ASCII are the bytes of their characters. -/
theorem encode_map_char {bytes : Bytes} (ascii : ∀ b ∈ bytes, b < 0x80) :
    encode (bytes.map fun b => Char.ofNat b.toNat) = bytes := by
  have small : ∀ c ∈ bytes.map fun b => Char.ofNat b.toNat, c.toNat < 0x80 := by
    rw [List.forall_mem_map]
    intro b member
    rw [toNat_char]
    exact ascii b member
  rw [encode_of_ascii small, List.map_map]
  refine (List.map_congr_left fun b _ => ?_).trans (List.map_id bytes)
  rw [Function.comp_apply, toNat_char, UInt8.ofNat_toNat, id]

theorem toList_of_ascii {text : String} (ascii : ∀ b ∈ ofString text, b < 0x80) :
    text.toList = (ofString text).map fun b => Char.ofNat b.toNat := by
  rw [← encode_inj, encode_map_char ascii, ofString]

/-! ## Occurrences among bytes -/

theorem encode_cons (c : Char) (text : List Char) :
    encode (c :: text) = String.utf8EncodeChar c ++ encode text := rfl

theorem encode_append (text other : List Char) :
    encode (text ++ other) = encode text ++ encode other := List.flatMap_append

/-- No byte of a longer character is one of ASCII. -/
theorem le_of_mem_utf8EncodeChar {c : Char} (wide : 0x80 ≤ c.toNat) {b : UInt8}
    (member : b ∈ String.utf8EncodeChar c) : 0x80 ≤ b := by
  have value : c.val.toNat = c.toNat := rfl
  have limit : c.toNat < 0x110000 := by
    rcases c.valid with small | ⟨-, small⟩
    · exact Nat.lt_trans small (by decide)
    · exact small
  have byte : ∀ n, 0x80 ≤ n → n < 256 → 0x80 ≤ UInt8.ofNat n := fun n least small => by
    rw [UInt8.le_iff_toNat_le, toNat_ofNat small]
    exact least
  simp only [String.utf8EncodeChar, value, if_neg (show ¬ c.toNat ≤ 0x7F by omega)] at member
  -- One case for each number of bytes.
  split at member
  · simp only [List.mem_cons, List.not_mem_nil, or_false] at member
    rcases member with rfl | rfl <;> exact byte _ (by omega) (by omega)
  split at member
  · simp only [List.mem_cons, List.not_mem_nil, or_false] at member
    rcases member with rfl | rfl | rfl <;> exact byte _ (by omega) (by omega)
  · simp only [List.mem_cons, List.not_mem_nil, or_false] at member
    rcases member with rfl | rfl | rfl | rfl <;> exact byte _ (by omega) (by omega)

theorem ofNat_lt_of_ascii {c : Char} (ascii : c.toNat < 0x80) : UInt8.ofNat c.toNat < 0x80 := by
  rw [UInt8.lt_iff_toNat_lt, toNat_ofNat (by omega)]
  exact ascii

/-- A text of ASCII whose bytes start those of another text starts this text. -/
theorem prefix_of_encode_prefix {mark text : List Char} (ascii : ∀ c ∈ mark, c.toNat < 0x80)
    (here : encode mark <+: encode text) : mark <+: text := by
  induction mark generalizing text with
  | nil => exact List.nil_prefix
  | cons c mark ih =>
      rw [List.forall_mem_cons] at ascii
      rw [encode_cons, utf8EncodeChar_of_ascii ascii.1] at here
      cases text with
      | nil => simp [encode] at here
      | cons d text =>
          by_cases wide : 0x80 ≤ d.toNat
          · obtain ⟨b, tail, bytes, -⟩ := readChar_utf8EncodeChar d []
            rw [encode_cons, bytes] at here
            obtain ⟨same, -⟩ := List.cons_prefix_cons.1 here
            have high : 0x80 ≤ b := le_of_mem_utf8EncodeChar wide (bytes ▸ List.mem_cons_self)
            exact absurd (same ▸ ofNat_lt_of_ascii ascii.1) (UInt8.not_lt.2 high)
          · have narrow : d.toNat < 0x80 := Nat.lt_of_not_le wide
            rw [encode_cons, utf8EncodeChar_of_ascii narrow] at here
            obtain ⟨same, later⟩ := List.cons_prefix_cons.1 here
            have equal : c = d := by
              rw [← char_of_ascii ascii.1, ← char_of_ascii narrow, same]
            exact List.cons_prefix_cons.2 ⟨equal, ih ascii.2 later⟩

/-- Where the bytes of a text of ASCII occur, the text itself occurs: no occurrence starts inside a
character. -/
theorem exists_append_of_encode_prefix {mark text : List Char} {start : Nat} (some : mark ≠ [])
    (ascii : ∀ c ∈ mark, c.toNat < 0x80) (here : encode mark <+: (encode text).drop start) :
    ∃ before rest, text = before ++ mark ++ rest ∧ (encode before).length = start := by
  obtain ⟨m, marks, rfl⟩ := List.exists_cons_of_ne_nil some
  have narrow := ascii m List.mem_cons_self
  induction text generalizing start with
  | nil => simp [encode, utf8EncodeChar_of_ascii narrow] at here
  | cons c text ih =>
      by_cases first : start = 0
      · subst first
        obtain ⟨rest, same⟩ := prefix_of_encode_prefix ascii here
        exact ⟨[], rest, same.symm, rfl⟩
      · rw [encode_cons c, List.drop_append] at here
        by_cases within : start < (String.utf8EncodeChar c).length
        · -- The byte at the start goes on a longer character, so it is none of ASCII.
          have wide : 0x80 ≤ c.toNat := by
            refine Nat.le_of_not_lt fun narrow => ?_
            rw [utf8EncodeChar_of_ascii narrow, List.length_singleton] at within
            omega
          rw [List.drop_eq_getElem_cons within, encode_cons, utf8EncodeChar_of_ascii narrow] at here
          obtain ⟨same, -⟩ := List.cons_prefix_cons.1 here
          have high := le_of_mem_utf8EncodeChar wide (List.getElem_mem within)
          exact absurd (same ▸ ofNat_lt_of_ascii narrow) (UInt8.not_lt.2 high)
        · rw [List.drop_of_length_le (Nat.le_of_not_lt within), List.nil_append] at here
          obtain ⟨before, rest, rfl, length⟩ := ih here
          refine ⟨c :: before, rest, rfl, ?_⟩
          rw [encode_cons, List.length_append, length]
          omega

end Utf8

end DeviceConsole
