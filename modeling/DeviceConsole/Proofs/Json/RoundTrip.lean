import Mathlib.Algebra.Group.Int.Defs
import DeviceConsole.Proofs.Json.Tokens

/-!
# Printed values are read back

A value without doubles, whose integers have 64 bits and whose brackets do not lie too deep inside
each other, is read back from its text.  This file defines:

* `Json.Printable d v`: `v` is such a value, with at most `d` brackets inside each other;
* `Json.ReadBack d v`: the reader takes `v` from the front of a text, and nothing else;
* `Json.parse?_text`, for whole texts.
-/

namespace DeviceConsole

namespace Json

/-- Values that are read back from their text, by how many of their brackets lie inside each
other. -/
inductive Printable : Nat → Json → Prop where
  | null (d : Nat) : Printable d .null
  | bool (d : Nat) (b : Bool) : Printable d (.bool b)
  | int {i : Int} (d : Nat) : -(2 ^ 63) ≤ i → i < 2 ^ 64 → Printable d (.ofInt i)
  | str (d : Nat) (s : String) : Printable d (.str s)
  | arr {d : Nat} {items : List Json} :
      (∀ item ∈ items, Printable d item) → Printable (d + 1) (.arr items)
  | obj {d : Nat} {members : List (String × Json)} :
      (∀ member ∈ members, Printable d member.2) → Printable (d + 1) (.obj members)

/-- A value is taken from the front of a text if there is fuel for its characters and if enough
brackets may be opened. -/
def ReadBack (d : Nat) (v : Json) : Prop :=
  -- A value takes one step of fuel, one as an item or member and one for what separates it.
  ∀ {fuel depth : Nat} {rest : List Char}, 3 * v.render.length ≤ fuel → d < depth →
    Delimited rest → readValue fuel depth (v.render ++ rest) = .ok (v, rest)

/-- Whether a text starts with a character that a value can start with, as opposed to one that goes
on with a list or ends it. -/
def Opens (text : List Char) : Prop :=
  ∃ c rest, text = c :: rest ∧ isBlank c = false ∧ c ≠ ',' ∧ c ≠ ']'

/-! ## Values without brackets -/

theorem quote_append (s : String) (rest : List Char) :
    quote s ++ rest = '"' :: (s.toList.flatMap escape ++ '"' :: rest) := by
  simp [quote]

theorem length_le_flatMap_escape (chars : List Char) :
    chars.length ≤ (chars.flatMap escape).length := by
  induction chars with
  | nil => exact Nat.le_refl 0
  | cons c chars ih =>
      have one : 1 ≤ (escape c).length := by
        unfold escape
        split_ifs <;> simp
      rw [List.flatMap_cons, List.length_append, List.length_cons]
      omega

/-- A string is read after its opening quote, whatever fuel the text gives. -/
theorem readString_toList (s : String) (rest : List Char) :
    readString ((s.toList.flatMap escape ++ '"' :: rest).length + 1) []
      (s.toList.flatMap escape ++ '"' :: rest) = .ok (s, rest) := by
  have enough := length_le_flatMap_escape s.toList
  rw [readString_quoted]
  · simp
  · rw [List.length_append]
    omega

theorem readValue_quote (fuel depth : Nat) (text : List Char) :
    readValue (fuel + 1) depth ('"' :: text) =
      (readString (text.length + 1) [] text).bind fun p => .ok (.str p.1, p.2) := by
  rw [readValue]
  rfl

theorem skipBlanks_of_solid {c : Char} (solid : isBlank c = false) (text : List Char) :
    skipBlanks (c :: text) = c :: text := by
  simp [skipBlanks, solid]

theorem isBlank_of_isDigit {c : Char} (digit : c.isDigit = true) : isBlank c = false := by
  rw [Bool.eq_false_iff]
  intro blank
  simp only [isBlank, Bool.or_eq_true, decide_eq_true_eq] at blank
  rcases blank with ((rfl | rfl) | rfl) | rfl <;> exact absurd digit (by decide)

/-- A numeral is recognized by its first digit. -/
theorem readValue_digit (fuel depth : Nat) {c : Char} (digit : c.isDigit = true)
    (text : List Char) : readValue (fuel + 1) depth (c :: text) =
      (readNumeral false (c :: text)).bind fun p => .ok (.num p.1, p.2) := by
  have value : (digit? c).isSome = true := by
    rw [digit?_of_isDigit digit]
    rfl
  rw [readValue, skipBlanks_of_solid (isBlank_of_isDigit digit)]
  split
  case h_9 same =>
    cases same
    rw [if_pos value]
    rfl
  -- No digit is one of the characters that other values start with.
  all_goals
    rename_i same
    cases same <;> exact absurd digit (by decide)

theorem readBack_str (d : Nat) (s : String) : ReadBack d (.str s) := by
  intro fuel depth rest enough _ _
  obtain ⟨fuel, rfl⟩ : ∃ k, fuel = k + 1 := ⟨fuel - 1, by simp [render, quote] at enough; omega⟩
  rw [render, quote_append, readValue_quote, readString_toList]
  rfl

theorem readValue_toDigits (fuel depth : Nat) {n : Nat} {rest : List Char} (fits : n ≤ wordMax)
    (follows : Delimited rest) :
    readValue (fuel + 1) depth (Nat.toDigits 10 n ++ rest) = .ok (.ofNat n, rest) := by
  have digits : ∀ c ∈ Nat.toDigits 10 n, c.isDigit = true := fun c =>
    Nat.isDigit_of_mem_toDigits (by decide) (by decide)
  have read := readNumeral_digits false fits follows
  cases written : Nat.toDigits 10 n with
  | nil => exact absurd written Nat.toDigits_ne_nil
  | cons c more =>
      rw [written] at digits read
      rw [List.cons_append] at read ⊢
      rw [readValue_digit _ _ (digits c List.mem_cons_self), read]
      rfl

theorem readValue_minus (fuel depth : Nat) (text : List Char) :
    readValue (fuel + 1) depth ('-' :: text) =
      (readNumeral true text).bind fun p => .ok (.num p.1, p.2) := by
  rw [readValue]
  rfl

/-- An integer is written with its digits, after a sign if it is negative. -/
theorem render_ofInt (i : Int) : render (.ofInt i) =
    if 0 ≤ i then Nat.toDigits 10 i.toNat else '-' :: Nat.toDigits 10 (-i).toNat := by
  rw [ofInt, render, renderNumber, Int.toString_eq_repr, Int.repr_eq_if]
  split
  · rw [Nat.repr_eq_ofList_toDigits, String.toList_ofList]
  · rw [Nat.repr_eq_ofList_toDigits, String.toList_append, String.toList_ofList,
      String.toList_ofList]
    rfl

theorem readBack_int {i : Int} (d : Nat) (low : -(2 ^ 63) ≤ i) (high : i < 2 ^ 64) :
    ReadBack d (.ofInt i) := by
  intro fuel depth rest enough _ follows
  rw [render_ofInt] at enough ⊢
  split at enough
  · next natural =>
      obtain ⟨n, rfl⟩ := Int.eq_ofNat_of_zero_le natural
      have fits : n ≤ wordMax := by simp only [wordMax, UInt64.size]; omega
      have fuelled := List.length_pos_iff.2 (Nat.toDigits_ne_nil (n := n) (b := 10))
      obtain ⟨fuel, rfl⟩ : ∃ k, fuel = k + 1 := ⟨fuel - 1, by simp at enough; omega⟩
      rw [if_pos natural]
      exact readValue_toDigits fuel depth fits follows
  · next negative =>
      obtain ⟨n, rfl⟩ : ∃ n : Nat, i = -(n + 1 : Nat) := ⟨(-i).toNat - 1, by omega⟩
      obtain ⟨fuel, rfl⟩ : ∃ k, fuel = k + 1 :=
        ⟨fuel - 1, by rw [List.length_cons] at enough; omega⟩
      have fits : n + 1 ≤ wordMax := by simp only [wordMax, UInt64.size]; omega
      -- Only a zero behind a sign, or a number below the 64 bits, would become a double.
      have value : integer true (n + 1) = .int (-(n + 1 : Nat)) := by
        have small : ¬ (n + 1 = 0 ∨ Nat.pow 2 63 < n + 1) := by
          show ¬ (n + 1 = 0 ∨ 2 ^ 63 < n + 1)
          omega
        rw [integer, if_pos rfl, if_neg small]
      rw [if_neg negative, List.cons_append, readValue_minus, Int.neg_neg, Int.toNat_natCast,
        readNumeral_digits true fits follows, value]
      rfl

/-! ## Lists of values -/

theorem Opens.skipBlanks {text : List Char} (h : Opens text) : skipBlanks text = text := by
  obtain ⟨c, rest, rfl, solid, -, -⟩ := h
  exact skipBlanks_of_solid solid rest

theorem Opens.append {text : List Char} (h : Opens text) (rest : List Char) :
    Opens (text ++ rest) := by
  obtain ⟨c, more, rfl, traits⟩ := h
  exact ⟨c, more ++ rest, rfl, traits⟩

theorem Opens.of_isDigit {text : List Char} (some : text ≠ [])
    (digits : ∀ c ∈ text, c.isDigit = true) : Opens text := by
  cases text with
  | nil => exact absurd rfl some
  | cons c rest =>
      have digit := digits c List.mem_cons_self
      refine ⟨c, rest, rfl, isBlank_of_isDigit digit, ?_, ?_⟩ <;>
        (rintro rfl; exact absurd digit (by decide))

theorem Printable.opens {d : Nat} {v : Json} (h : Printable d v) : Opens v.render := by
  cases h with
  | null => exact ⟨_, _, rfl, rfl, by decide, by decide⟩
  | bool d b => cases b <;> exact ⟨_, _, rfl, rfl, by decide, by decide⟩
  | @int i =>
      rw [render_ofInt]
      split
      · exact .of_isDigit Nat.toDigits_ne_nil fun c =>
          Nat.isDigit_of_mem_toDigits (by decide) (by decide)
      · exact ⟨_, _, rfl, rfl, by decide, by decide⟩
  | str | arr | obj => exact ⟨_, _, rfl, rfl, by decide, by decide⟩

/-- In the first place an item comes at once. -/
theorem readItems_first (fuel depth : Nat) {text : List Char} (h : Opens text) :
    readItems (fuel + 1) depth true text = readItem fuel depth text := by
  rw [readItems, h.skipBlanks]
  obtain ⟨c, rest, rfl, -, comma, close⟩ := h
  split
  case h_1 same => cases same
  case h_2 same => exact absurd (List.cons.inj same).1 close
  case h_3 same => exact absurd (List.cons.inj same).1 comma
  case h_4 => rfl

/-- In the other places an item comes after a comma. -/
theorem readItems_comma (fuel depth : Nat) {text : List Char} (h : Opens text) :
    readItems (fuel + 1) depth false (',' :: text) = readItem fuel depth text := by
  have skip : skipBlanks (',' :: text) = ',' :: text := rfl
  rw [readItems, skip]
  simp only [h.skipBlanks]
  obtain ⟨c, rest, rfl, -, -, close⟩ := h
  rw [if_neg Bool.false_ne_true]
  split
  case h_1 same => cases same
  case h_2 same => exact absurd (List.cons.inj same).1 close
  case h_3 => rfl

theorem readItems_close (fuel depth : Nat) (first : Bool) (rest : List Char) :
    readItems (fuel + 1) depth first (']' :: rest) = .ok ([], rest) := by
  rw [readItems]
  rfl

theorem readItem_eq (fuel depth : Nat) (text : List Char) : readItem (fuel + 1) depth text =
    (readValue fuel depth text).bind fun item =>
      (readItems fuel depth false item.2).bind fun items => .ok (item.1 :: items.1, items.2) := by
  rw [readItem]
  rfl

theorem opens_renderItems {item : Json} (items : List Json) (h : Opens item.render) :
    Opens (renderItems (item :: items)) := by
  cases items with
  | nil => exact h
  | cons next items =>
      rw [renderItems]
      · exact h.append _
      · simp

/-- The items of a printed list are read up to its closing bracket. -/
theorem readItem_renderItems {d depth : Nat} {item : Json} {items : List Json} {rest : List Char}
    (opens : ∀ v ∈ item :: items, Opens v.render) (reads : ∀ v ∈ item :: items, ReadBack d v)
    (deep : d < depth) {fuel : Nat} (enough : 3 * (renderItems (item :: items)).length + 2 ≤ fuel) :
    readItem fuel depth (renderItems (item :: items) ++ ']' :: rest) =
      .ok (item :: items, rest) := by
  induction items generalizing item fuel with
  | nil =>
      obtain ⟨fuel, rfl⟩ : ∃ k, fuel = k + 2 := ⟨fuel - 2, by omega⟩
      have value : readValue (fuel + 1) depth (item.render ++ ']' :: rest) =
          .ok (item, ']' :: rest) :=
        reads item List.mem_cons_self (by simp only [renderItems] at enough; omega) deep
          (Or.inr (Or.inl rfl))
      rw [renderItems, readItem_eq, value]
      show (readItems (fuel + 1) depth false (']' :: rest)).bind _ = _
      rw [readItems_close]
      rfl
  | cons next items ih =>
      have written : renderItems (item :: next :: items) =
          item.render ++ ',' :: renderItems (next :: items) := by
        rw [renderItems]
        simp
      rw [written, List.length_append, List.length_cons] at enough
      obtain ⟨fuel, rfl⟩ : ∃ k, fuel = k + 2 := ⟨fuel - 2, by omega⟩
      have value : readValue (fuel + 1) depth
          (item.render ++ ',' :: (renderItems (next :: items) ++ ']' :: rest)) =
          .ok (item, ',' :: (renderItems (next :: items) ++ ']' :: rest)) :=
        reads item List.mem_cons_self (by omega) deep (Or.inl rfl)
      -- The comma is not part of a value, so the next item starts behind it.
      have others : readItem fuel depth (renderItems (next :: items) ++ ']' :: rest) =
          .ok (next :: items, rest) :=
        ih (fun v member => opens v (List.mem_cons_of_mem _ member))
          (fun v member => reads v (List.mem_cons_of_mem _ member)) (by omega)
      have opensNext : Opens (renderItems (next :: items)) :=
        opens_renderItems items (opens next (List.mem_cons_of_mem _ List.mem_cons_self))
      rw [written, List.append_assoc, List.cons_append, readItem_eq, value]
      show (readItems (fuel + 1) depth false
        (',' :: (renderItems (next :: items) ++ ']' :: rest))).bind _ = _
      rw [readItems_comma _ _ (opensNext.append _), others]
      rfl

theorem readValue_bracket {fuel depth : Nat} (deep : 1 < depth) (text : List Char) :
    readValue (fuel + 1) depth ('[' :: text) =
      (readItems fuel (depth - 1) true text).bind fun p => .ok (.arr p.1, p.2) := by
  have opened : skipBlanks ('[' :: text) = '[' :: text := rfl
  rw [readValue, opened]
  show (if depth ≤ 1 then _ else _) = _
  rw [if_neg (by omega)]
  rfl

theorem readBack_arr {d : Nat} {items : List Json} (opens : ∀ v ∈ items, Opens v.render)
    (reads : ∀ v ∈ items, ReadBack d v) : ReadBack (d + 1) (.arr items) := by
  intro fuel depth rest enough deep _
  have written : render (.arr items) ++ rest = '[' :: (renderItems items ++ ']' :: rest) := by
    simp [render]
  have length : (render (.arr items)).length = (renderItems items).length + 2 := by
    simp [render]
  obtain ⟨fuel, rfl⟩ : ∃ k, fuel = k + 2 := ⟨fuel - 2, by omega⟩
  rw [written, readValue_bracket (by omega)]
  cases items with
  | nil =>
      rw [renderItems, List.nil_append, readItems_close]
      rfl
  | cons item items =>
      have opened := opens_renderItems items (opens item List.mem_cons_self)
      rw [readItems_first _ _ (opened.append _),
        readItem_renderItems opens reads (by omega) (by omega)]
      rfl

/-! ## Members -/

theorem readMembers_close (fuel depth : Nat) (first : Bool) (rest : List Char) :
    readMembers (fuel + 1) depth first ('\x7d' :: rest) = .ok ([], rest) := by
  rw [readMembers]
  rfl

theorem readMembers_first (fuel depth : Nat) (text : List Char) :
    readMembers (fuel + 1) depth true ('"' :: text) = readMember fuel depth text := by
  rw [readMembers]
  rfl

theorem readMembers_comma (fuel depth : Nat) (text : List Char) :
    readMembers (fuel + 1) depth false (',' :: '"' :: text) = readMember fuel depth text := by
  rw [readMembers]
  rfl

/-- The name of a member and the colon after it are taken from the front of a text. -/
theorem readMember_eq (fuel depth : Nat) (name : String) (text : List Char) :
    readMember (fuel + 1) depth (name.toList.flatMap escape ++ '"' :: ':' :: text) =
      (readValue fuel depth text).bind fun value =>
        (readMembers fuel depth false value.2).bind fun members =>
          .ok ((name, value.1) :: members.1, members.2) := by
  rw [readMember, readString_toList]
  rfl

/-- What follows a member in a printed object: a closing bracket, or a comma and more members. -/
def afterMember (rest : List Char) : List (String × Json) → List Char
  | [] => '\x7d' :: rest
  | members => ',' :: (renderMembers members ++ '\x7d' :: rest)

theorem delimited_afterMember (rest : List Char) (members : List (String × Json)) :
    Delimited (afterMember rest members) := by
  cases members with
  | nil => exact Or.inr (Or.inr rfl)
  | cons member members => exact Or.inl rfl

theorem renderMembers_append (name : String) (value : Json) (members : List (String × Json))
    (rest : List Char) : renderMembers ((name, value) :: members) ++ '\x7d' :: rest =
      '"' :: (name.toList.flatMap escape ++ '"' :: ':' ::
        (value.render ++ afterMember rest members)) := by
  cases members <;> simp [renderMembers, afterMember, quote]

theorem le_length_renderMembers (name : String) (value : Json) (members : List (String × Json)) :
    value.render.length + (renderMembers members).length + 2 ≤
      (renderMembers ((name, value) :: members)).length := by
  cases members <;> simp [renderMembers, quote] <;> omega

/-- The members after the first one are read up to the closing bracket. -/
theorem readMembers_afterMember {d depth : Nat} {members : List (String × Json)}
    {rest : List Char} (reads : ∀ m ∈ members, ReadBack d m.2) (deep : d < depth) {fuel : Nat}
    (enough : 3 * (renderMembers members).length + 1 ≤ fuel) :
    readMembers fuel depth false (afterMember rest members) = .ok (members, rest) := by
  induction members generalizing fuel with
  | nil =>
      obtain ⟨fuel, rfl⟩ : ∃ k, fuel = k + 1 := ⟨fuel - 1, by omega⟩
      exact readMembers_close fuel depth false rest
  | cons member members ih =>
      obtain ⟨name, value⟩ := member
      have count := le_length_renderMembers name value members
      obtain ⟨fuel, rfl⟩ : ∃ k, fuel = k + 2 := ⟨fuel - 2, by omega⟩
      have room : 3 * value.render.length ≤ fuel := by omega
      have read : readValue fuel depth (value.render ++ afterMember rest members) =
          .ok (value, afterMember rest members) :=
        reads (name, value) List.mem_cons_self room deep (delimited_afterMember rest members)
      have others : readMembers fuel depth false (afterMember rest members) = .ok (members, rest) :=
        ih (fun m member => reads m (List.mem_cons_of_mem _ member)) (by omega)
      rw [afterMember, renderMembers_append, readMembers_comma, readMember_eq, read]
      · show (readMembers fuel depth false (afterMember rest members)).bind _ = _
        rw [others]
        rfl
      · simp

theorem readMembers_renderMembers {d depth : Nat} {members : List (String × Json)}
    {rest : List Char} (reads : ∀ m ∈ members, ReadBack d m.2) (deep : d < depth) {fuel : Nat}
    (enough : 3 * (renderMembers members).length + 1 ≤ fuel) :
    readMembers fuel depth true (renderMembers members ++ '\x7d' :: rest) =
      .ok (members, rest) := by
  cases members with
  | nil =>
      obtain ⟨fuel, rfl⟩ : ∃ k, fuel = k + 1 := ⟨fuel - 1, by omega⟩
      exact readMembers_close fuel depth true rest
  | cons member members =>
      -- The first member differs from the others only in that no comma is in front of it.
      obtain ⟨name, value⟩ := member
      have others : readMembers fuel depth false (afterMember rest ((name, value) :: members)) =
          .ok ((name, value) :: members, rest) := readMembers_afterMember reads deep enough
      obtain ⟨fuel, rfl⟩ : ∃ k, fuel = k + 1 := ⟨fuel - 1, by omega⟩
      rw [afterMember, renderMembers_append, readMembers_comma] at others
      · rw [renderMembers_append, readMembers_first, others]
      · simp

theorem readValue_brace {fuel depth : Nat} (deep : 1 < depth) (text : List Char) :
    readValue (fuel + 1) depth ('\x7b' :: text) =
      (readMembers fuel (depth - 1) true text).bind fun p => .ok (.obj p.1, p.2) := by
  have opened : skipBlanks ('\x7b' :: text) = '\x7b' :: text := rfl
  rw [readValue, opened]
  show (if depth ≤ 1 then _ else _) = _
  rw [if_neg (by omega)]
  rfl

theorem readBack_obj {d : Nat} {members : List (String × Json)}
    (reads : ∀ m ∈ members, ReadBack d m.2) : ReadBack (d + 1) (.obj members) := by
  intro fuel depth rest enough deep _
  have written : render (.obj members) ++ rest =
      '\x7b' :: (renderMembers members ++ '\x7d' :: rest) := by
    simp [render]
  have length : (render (.obj members)).length = (renderMembers members).length + 2 := by
    simp [render]
  obtain ⟨fuel, rfl⟩ : ∃ k, fuel = k + 1 := ⟨fuel - 1, by omega⟩
  rw [written, readValue_brace (by omega), readMembers_renderMembers reads (by omega) (by omega)]
  rfl

/-! ## Texts -/

theorem Printable.readBack {d : Nat} {v : Json} (h : Printable d v) : ReadBack d v := by
  -- The rules for brackets add one to the depth, and the reader takes one off again.
  induction h with
  | null =>
      intro fuel depth rest enough _ _
      obtain ⟨fuel, rfl⟩ : ∃ k, fuel = k + 1 := ⟨fuel - 1, by simp [render] at enough; omega⟩
      rw [readValue]
      rfl
  | bool d b =>
      intro fuel depth rest enough _ _
      obtain ⟨fuel, rfl⟩ : ∃ k, fuel = k + 1 :=
        ⟨fuel - 1, by cases b <;> simp [render] at enough <;> omega⟩
      cases b <;> (rw [readValue]; rfl)
  | int d low high => exact readBack_int d low high
  | str d s => exact readBack_str d s
  | arr printable reads => exact readBack_arr (fun v member => (printable v member).opens) reads
  | obj _ reads => exact readBack_obj reads

/-- A text is as deep as the reader goes if no more than 127 brackets lie inside each other. -/
theorem parse?_text {v : Json} (h : Printable 127 v) : parse? v.text = some v := by
  have read : readValue (3 * v.render.length + 3) depthLimit v.render = .ok (v, []) := by
    have ends : Delimited [] := trivial
    have back := h.readBack (Nat.le_add_right _ 3) (by decide : 127 < depthLimit) ends
    rwa [List.append_nil] at back
  rw [parse?, parse, text, String.toList_ofList, parseChars, read]
  rfl

end Json

end DeviceConsole
