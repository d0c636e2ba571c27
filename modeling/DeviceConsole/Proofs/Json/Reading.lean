import Mathlib.Data.List.Infix
import DeviceConsole.Proofs.Json.RoundTrip

/-!
# What readers take and what they leave

A reader takes a value from the front of a text and leaves a suffix of it.  This file defines:

* `Json.isPlain`, the characters that stand for themselves between two quotes;
* `Json.Spells written chars`: `written` may stand between two quotes for `chars`;
* `Json.escapeSigns`, how many backslashes and letters u a text has;
* `Json.SpelledIn text v`: if `v` is a string, it is spelled somewhere in `text`.

An escape has more such signs than the character it stands for, so a string that is written with no
more of them than it has itself is written as it is, `Json.Spells.eq_of_le`.  The members of an
object have their strings from the text of the object, `Json.exists_of_parse?_brace`.
-/

namespace DeviceConsole

namespace Json

variable {α β : Type} {text rest : List Char}

theorem bind_eq_ok_iff {x : Except Failure α} {f : α → Except Failure β} {b : β} :
    x >>= f = .ok b ↔ ∃ a, x = .ok a ∧ f a = .ok b := by
  cases x with
  | error failure => exact ⟨nofun, nofun⟩
  | ok a => exact ⟨fun h => ⟨a, rfl, h⟩, fun ⟨_, same, h⟩ => Except.ok.inj same ▸ h⟩

/-! ## Strings -/

/-- How many backslashes and letters u a text has. -/
def escapeSigns (text : List Char) : Nat := text.countP fun c => c = '\\' || c = 'u'

/-- Whether a character may stand for itself between two quotes. -/
def isPlain (c : Char) : Bool := c ≠ '"' && c ≠ '\\' && 0x20 ≤ c.toNat

/-- What may be written between two quotes, and the characters it stands for. -/
inductive Spells : List Char → List Char → Prop where
  | nil : Spells [] []
  | plain {c : Char} {written chars : List Char} :
      isPlain c = true → Spells written chars → Spells (c :: written) (c :: chars)
  | escape {c : Char} {taken rest written chars : List Char} :
      readEscape (taken ++ rest) = .ok (c, rest) → Spells written chars →
        Spells ('\\' :: (taken ++ written)) (c :: chars)

theorem escape_of_isPlain {c : Char} (plain : isPlain c = true) : escape c = [c] := by
  simp only [isPlain, Bool.and_eq_true, decide_eq_true_eq] at plain
  obtain ⟨⟨quote, backslash⟩, high⟩ := plain
  rw [escape, if_neg quote, if_neg backslash]
  -- All other escapes are for control characters.
  split_ifs with b f n r t low
  · exact absurd high (b ▸ by decide)
  · exact absurd high (f ▸ by decide)
  · exact absurd high (n ▸ by decide)
  · exact absurd high (r ▸ by decide)
  · exact absurd high (t ▸ by decide)
  · exact absurd high (Nat.not_le.2 low)
  · rfl

theorem isPlain_of_hexDigit? {c : Char} (hex : (hexDigit? c).isSome) : isPlain c = true := by
  have above : ∀ {low : Char}, 0x20 ≤ low.toNat → low ≤ c → 0x20 ≤ c.toNat :=
    fun reached within => reached.trans (UInt32.le_iff_toNat_le.1 (Char.le_def.1 within))
  have high : 0x20 ≤ c.toNat := by
    unfold hexDigit? at hex
    split_ifs at hex with digit lower upper
    · exact above (by decide) digit.1
    · exact above (by decide) lower.1
    · exact above (by decide) upper.1
    · cases hex
  have quote : c ≠ '"' := by
    rintro rfl
    cases hex
  have backslash : c ≠ '\\' := by
    rintro rfl
    cases hex
  simp [isPlain, quote, backslash, high]

/-- A string of such characters is written as it is. -/
theorem quote_of_isPlain {s : String} (plain : ∀ c ∈ s.toList, isPlain c = true) :
    quote s = '"' :: (s.toList ++ ['"']) := by
  rw [quote, List.flatMap_congr fun c member => escape_of_isPlain (plain c member)]
  simp

theorem escapeSigns_cons (c : Char) (text : List Char) :
    escapeSigns (c :: text) = escapeSigns [c] + escapeSigns text := by
  rw [← List.singleton_append, escapeSigns, List.countP_append]
  rfl

theorem escapeSigns_append (front text : List Char) :
    escapeSigns (front ++ text) = escapeSigns front + escapeSigns text :=
  List.countP_append

theorem readHexQuad_suffix {n : Nat} (read : readHexQuad text = .ok (n, rest)) :
    rest <:+ text := by
  unfold readHexQuad at read
  split at read
  case h_1 a b c d more =>
    split at read
    · cases read
      exact List.suffix_append [a, b, c, d] rest
    · cases read
  case h_2 => split at read <;> cases read

theorem readLowSurrogate_suffix {high : Nat} {c : Char}
    (read : readLowSurrogate high text = .ok (c, rest)) : rest <:+ text := by
  unfold readLowSurrogate at read
  split at read
  case h_1 more =>
    obtain ⟨⟨low, left⟩, quad, read⟩ := bind_eq_ok_iff.1 read
    dsimp only at read
    split at read
    · rw [Except.ok.injEq, Prod.mk.injEq] at read
      exact read.2 ▸ (readHexQuad_suffix quad).trans (List.suffix_append ['\\', 'u'] more)
    · cases read
  all_goals cases read

theorem readHexEscape_suffix {c : Char} (read : readHexEscape text = .ok (c, rest)) :
    rest <:+ text := by
  obtain ⟨⟨n, left⟩, quad, read⟩ := bind_eq_ok_iff.1 read
  dsimp only at read
  split at read
  · cases read
  · split at read
    · exact (readLowSurrogate_suffix read).trans (readHexQuad_suffix quad)
    · cases read
      exact readHexQuad_suffix quad

/-- What an escape has after its backslash costs no less than the character it stands for. -/
theorem readEscape_eq_ok {c : Char} (read : readEscape text = .ok (c, rest)) :
    ∃ taken, text = taken ++ rest ∧ escapeSigns [c] ≤ escapeSigns taken := by
  unfold readEscape at read
  split at read
  case h_10 more =>
    obtain ⟨digits, rfl⟩ := readHexEscape_suffix read
    refine ⟨'u' :: digits, rfl, ?_⟩
    have one : escapeSigns [c] ≤ 1 := List.countP_le_length
    rw [escapeSigns_cons 'u']
    exact one.trans (Nat.le_add_right 1 _)
  all_goals cases read
  all_goals exact ⟨[_], rfl, by decide⟩

theorem readString_eq_ok {fuel : Nat} {read : List Char} {s : String}
    (done : readString fuel read text = .ok (s, rest)) :
    ∃ written chars, text = written ++ '"' :: rest ∧ s.toList = read.reverse ++ chars ∧
      Spells written chars := by
  induction fuel generalizing read text with
  | zero => cases done
  | succ fuel ih =>
      unfold readString at done
      split at done
      case h_1 => cases done
      case h_2 =>
        cases done
        exact ⟨[], [], rfl, by simp, .nil⟩
      case h_3 =>
        obtain ⟨⟨c, left⟩, escaped, done⟩ := bind_eq_ok_iff.1 done
        obtain ⟨written, chars, rfl, same, spells⟩ := ih done
        obtain ⟨taken, rfl, -⟩ := readEscape_eq_ok escaped
        exact ⟨_, c :: chars, by simp, by simpa using same, .escape escaped spells⟩
      case h_4 c more quote backslash =>
        split at done
        · cases done
        · next high =>
          obtain ⟨written, chars, rfl, same, spells⟩ := ih done
          exact ⟨c :: written, c :: chars, rfl, by simpa using same,
            .plain (by simp [isPlain]; grind) spells⟩

theorem Spells.le {written chars : List Char} (h : Spells written chars) :
    escapeSigns chars ≤ escapeSigns written := by
  induction h with
  | nil => exact Nat.le_refl 0
  | @plain c written chars _ _ ih =>
      rw [escapeSigns_cons c chars, escapeSigns_cons c written]
      exact Nat.add_le_add_left ih _
  | @escape c taken rest written chars escaped _ ih =>
      obtain ⟨same, whole, costs⟩ := readEscape_eq_ok escaped
      obtain rfl := List.append_cancel_right whole
      rw [escapeSigns_cons c chars, escapeSigns_cons '\\', escapeSigns_append]
      omega

/-- A string that is written with no more signs of an escape than it has is written as it is. -/
theorem Spells.eq_of_le {written chars : List Char} (h : Spells written chars)
    (cheap : escapeSigns written ≤ escapeSigns chars) :
    written = chars ∧ ∀ c ∈ chars, isPlain c = true := by
  induction h with
  | nil => exact ⟨rfl, by simp⟩
  | @plain c written chars plain _ ih =>
      rw [escapeSigns_cons c chars, escapeSigns_cons c written] at cheap
      obtain ⟨same, all⟩ := ih (Nat.le_of_add_le_add_left cheap)
      exact ⟨congrArg (c :: ·) same, List.forall_mem_cons.2 ⟨plain, all⟩⟩
  | @escape c taken rest written chars escaped spells =>
      -- The backslash itself is one sign too many.
      obtain ⟨same, whole, costs⟩ := readEscape_eq_ok escaped
      have backslash : escapeSigns ['\\'] = 1 := rfl
      have later := spells.le
      obtain rfl := List.append_cancel_right whole
      rw [escapeSigns_cons c chars, escapeSigns_cons '\\', escapeSigns_append] at cheap
      omega

/-! ## Numerals -/

theorem accumulate_suffix (limit number taken : Nat) (text : List Char) :
    (accumulate limit number taken text).2.2 <:+ text := by
  fun_induction accumulate limit number taken text with
  | case1 => exact List.suffix_rfl
  | case2 => exact List.suffix_rfl
  | case3 _ _ c rest _ _ _ ih => exact ih.trans (List.suffix_cons c rest)
  | case4 => exact List.suffix_rfl

theorem skipDigits_suffix (count : Nat) (text : List Char) :
    (skipDigits count text).2 <:+ text := by
  fun_induction skipDigits count text with
  | case1 => exact List.suffix_rfl
  | case2 _ c rest _ ih => exact ih.trans (List.suffix_cons c rest)
  | case3 => exact List.suffix_rfl

variable {negative : Bool} {digits : Nat} {exponent : Int} {n : Number}

theorem finish_suffix (read : finish negative digits exponent text = .ok (n, rest)) :
    rest <:+ text := by
  unfold finish at read
  split at read
  · cases read
    exact List.suffix_rfl
  · cases read

theorem readExponent_suffix {start : Int}
    (read : readExponent negative digits start text = .ok (n, rest)) : rest <:+ text := by
  unfold readExponent at read
  split at read
  next down unsigned opened =>
    -- After its sign, if it has one, the exponent is a run of digits.
    have sign : unsigned <:+ text := by
      split at opened <;> cases opened
      · exact List.suffix_cons '+' unsigned
      · exact List.suffix_cons '-' unsigned
      · exact List.suffix_rfl
    have run := accumulate_suffix exponentMax 0 0 unsigned
    split at read
    · dsimp only at read
      split at read
      · split at read
        · cases read
        · cases read
          exact (skipDigits_suffix 0 _).trans (run.trans sign)
      · exact (finish_suffix read).trans (run.trans sign)
    · split at read <;> cases read

theorem readTail_suffix (read : readTail negative digits exponent text = .ok (n, rest)) :
    rest <:+ text := by
  unfold readTail at read
  split at read
  · exact (readExponent_suffix read).trans (List.suffix_cons 'e' _)
  · exact (readExponent_suffix read).trans (List.suffix_cons 'E' _)
  · exact finish_suffix read

theorem readFraction_suffix (read : readFraction negative digits exponent text = .ok (n, rest)) :
    rest <:+ text := by
  unfold readFraction at read
  split at read
  · exact (readTail_suffix read).trans
      ((skipDigits_suffix 0 _).trans (accumulate_suffix wordMax digits 0 text))
  · cases read

theorem readAfterInteger_suffix (read : readAfterInteger negative digits text = .ok (n, rest)) :
    rest <:+ text := by
  unfold readAfterInteger at read
  split at read
  · exact (readFraction_suffix read).trans (List.suffix_cons '.' _)
  · exact (readExponent_suffix read).trans (List.suffix_cons 'e' _)
  · exact (readExponent_suffix read).trans (List.suffix_cons 'E' _)
  · cases read
    exact List.suffix_rfl

theorem readAfterLongInteger_suffix
    (read : readAfterLongInteger negative digits text = .ok (n, rest)) : rest <:+ text := by
  have run := skipDigits_suffix 0 text
  unfold readAfterLongInteger at read
  dsimp only at read
  split at read
  next more same =>
    rw [same] at run
    exact (readFraction_suffix read).trans ((List.suffix_cons '.' more).trans run)
  · exact (readTail_suffix read).trans run

theorem readNumeral_suffix (read : readNumeral negative text = .ok (n, rest)) :
    rest <:+ text := by
  unfold readNumeral at read
  split at read
  · cases read
  · split at read
    · cases read
    · exact (readAfterInteger_suffix read).trans (List.suffix_cons '0' _)
  next c more zero =>
    have run := accumulate_suffix wordMax 0 0 (c :: more)
    split at read
    · dsimp only at read
      split at read
      · exact (readAfterLongInteger_suffix read).trans run
      · exact (readAfterInteger_suffix read).trans run
    · cases read

/-! ## Values -/

theorem skipBlanks_suffix (text : List Char) : skipBlanks text <:+ text :=
  List.dropWhile_suffix isBlank

/-- What comes after the first character that is no blank. -/
theorem suffix_of_skipBlanks {c : Char} (same : skipBlanks text = c :: rest) : rest <:+ text :=
  (List.suffix_cons c rest).trans (same ▸ skipBlanks_suffix text)

theorem readWord_suffix {value v : Json} {word : List Char}
    (read : readWord value word text = .ok (v, rest)) : rest <:+ text ∧ v = value := by
  induction word generalizing text with
  | nil =>
      cases read
      exact ⟨List.suffix_rfl, rfl⟩
  | cons w word ih =>
      cases text with
      | nil => cases read
      | cons c text =>
          rw [readWord] at read
          split at read
          · exact ⟨(ih read).1.trans (List.suffix_cons c text), (ih read).2⟩
          · cases read

theorem expectColon_suffix (read : expectColon text = .ok rest) : rest <:+ text := by
  unfold expectColon at read
  split at read
  next more same =>
    cases read
    exact suffix_of_skipBlanks same
  all_goals cases read

/-- A value that is no string, or a string that is spelled somewhere in the text. -/
def SpelledIn (text : List Char) : Json → Prop
  | .str s => ∃ written, written <:+: text ∧ Spells written s.toList
  | _ => True

theorem SpelledIn.mono {v : Json} {more : List Char} (h : SpelledIn text v)
    (within : text <:+: more) : SpelledIn more v := by
  cases v with
  | str s => exact h.imp fun written spelled => ⟨spelled.1.trans within, spelled.2⟩
  | null | bool | num | arr | obj => trivial

theorem spelledIn_of_readString {fuel : Nat} {s : String}
    (read : readString fuel [] text = .ok (s, rest)) : rest <:+ text ∧ SpelledIn text (.str s) := by
  obtain ⟨written, chars, rfl, same, spells⟩ := readString_eq_ok read
  rw [List.reverse_nil, List.nil_append] at same
  exact ⟨(List.suffix_cons '"' rest).trans (List.suffix_append written _), written,
    (List.prefix_append written _).isInfix, same ▸ spells⟩

mutual

theorem readValue_sound : {fuel depth : Nat} → {text rest : List Char} → {v : Json} →
    readValue fuel depth text = .ok (v, rest) → rest <:+ text ∧ SpelledIn text v
  | 0, _, _, _, _, read => by simp [readValue] at read
  | fuel + 1, depth, text, rest, v, read => by
      unfold readValue at read
      split at read
      case h_1 => cases read
      case h_5 more same =>
        obtain ⟨⟨s, left⟩, string, read⟩ := bind_eq_ok_iff.1 read
        cases read
        have inside := suffix_of_skipBlanks same
        have sound := spelledIn_of_readString string
        exact ⟨sound.1.trans inside, sound.2.mono inside.isInfix⟩
      case h_6 more same =>
        split at read
        · cases read
        · obtain ⟨⟨items, left⟩, list, read⟩ := bind_eq_ok_iff.1 read
          cases read
          exact ⟨(readItems_suffix list).trans (suffix_of_skipBlanks same), trivial⟩
      case h_7 more same =>
        split at read
        · cases read
        · obtain ⟨⟨members, left⟩, object, read⟩ := bind_eq_ok_iff.1 read
          cases read
          exact ⟨(readMembers_sound object).1.trans (suffix_of_skipBlanks same), trivial⟩
      case h_8 more same =>
        obtain ⟨⟨n, left⟩, numeral, read⟩ := bind_eq_ok_iff.1 read
        cases read
        exact ⟨(readNumeral_suffix numeral).trans (suffix_of_skipBlanks same), trivial⟩
      case h_9 c more _ _ _ _ _ _ _ same =>
        split at read
        · obtain ⟨⟨n, left⟩, numeral, read⟩ := bind_eq_ok_iff.1 read
          cases read
          exact ⟨(readNumeral_suffix numeral).trans (same ▸ skipBlanks_suffix text), trivial⟩
        · cases read
      -- What is left are the words.
      all_goals
        rename_i same
        obtain ⟨left, rfl⟩ := readWord_suffix read
        exact ⟨left.trans (suffix_of_skipBlanks same), trivial⟩

theorem readItems_suffix : {fuel depth : Nat} → {first : Bool} → {text rest : List Char} →
    {items : List Json} → readItems fuel depth first text = .ok (items, rest) → rest <:+ text
  | 0, _, _, _, _, _, read => by simp [readItems] at read
  | fuel + 1, depth, first, text, rest, items, read => by
      have blanks := skipBlanks_suffix text
      unfold readItems at read
      split at read
      case h_1 => cases read
      case h_2 more same =>
        cases read
        exact suffix_of_skipBlanks same
      case h_3 more same =>
        split at read
        · exact (readItem_suffix read).trans (same ▸ blanks)
        · split at read
          · cases read
          · cases read
          · exact (readItem_suffix read).trans
              ((skipBlanks_suffix more).trans (suffix_of_skipBlanks same))
      case h_4 =>
        split at read
        · exact (readItem_suffix read).trans blanks
        · cases read

theorem readItem_suffix : {fuel depth : Nat} → {text rest : List Char} →
    {items : List Json} → readItem fuel depth text = .ok (items, rest) → rest <:+ text
  | 0, _, _, _, _, read => by simp [readItem] at read
  | fuel + 1, depth, text, rest, items, read => by
      unfold readItem at read
      obtain ⟨⟨item, left⟩, value, read⟩ := bind_eq_ok_iff.1 read
      obtain ⟨⟨others, final⟩, list, read⟩ := bind_eq_ok_iff.1 read
      cases read
      exact (readItems_suffix list).trans (readValue_sound value).1

theorem readMembers_sound : {fuel depth : Nat} → {first : Bool} → {text rest : List Char} →
    {members : List (String × Json)} → readMembers fuel depth first text = .ok (members, rest) →
      rest <:+ text ∧ ∀ member ∈ members, SpelledIn text member.2
  | 0, _, _, _, _, _, read => by simp [readMembers] at read
  | fuel + 1, depth, first, text, rest, members, read => by
      unfold readMembers at read
      split at read
      case h_1 => cases read
      case h_2 more same =>
        cases read
        exact ⟨suffix_of_skipBlanks same, by simp⟩
      case h_3 more same =>
        have inside := suffix_of_skipBlanks same
        split at read
        · have sound := readMember_sound read
          exact ⟨sound.1.trans inside, fun member known =>
            (sound.2 member known).mono inside.isInfix⟩
        · cases read
      case h_4 more same =>
        split at read
        · cases read
        · split at read
          case h_2 later next =>
            have inside := (suffix_of_skipBlanks next).trans (suffix_of_skipBlanks same)
            have sound := readMember_sound read
            exact ⟨sound.1.trans inside, fun member known =>
              (sound.2 member known).mono inside.isInfix⟩
          all_goals cases read
      case h_5 => cases read

theorem readMember_sound : {fuel depth : Nat} → {text rest : List Char} →
    {members : List (String × Json)} → readMember fuel depth text = .ok (members, rest) →
      rest <:+ text ∧ ∀ member ∈ members, SpelledIn text member.2
  | 0, _, _, _, _, read => by simp [readMember] at read
  | fuel + 1, depth, text, rest, members, read => by
      unfold readMember at read
      obtain ⟨⟨name, named⟩, string, read⟩ := bind_eq_ok_iff.1 read
      obtain ⟨opened, colon, read⟩ := bind_eq_ok_iff.1 read
      obtain ⟨⟨value, left⟩, first, read⟩ := bind_eq_ok_iff.1 read
      obtain ⟨⟨others, final⟩, list, read⟩ := bind_eq_ok_iff.1 read
      cases read
      have start := (expectColon_suffix colon).trans (spelledIn_of_readString string).1
      have head := readValue_sound first
      have tail := readMembers_sound list
      refine ⟨tail.1.trans (head.1.trans start), List.forall_mem_cons.2
        ⟨head.2.mono start.isInfix, fun member known => ?_⟩⟩
      exact (tail.2 member known).mono (head.1.trans start).isInfix

end

/-- An object that is a whole text has its strings from there. -/
theorem exists_of_parse?_brace {v : Json}
    (read : parse? (String.ofList ('\x7b' :: text)) = some v) :
    ∃ members, v = .obj members ∧ ∀ member ∈ members, SpelledIn text member.2 := by
  rw [parse?, parse, String.toList_ofList] at read
  cases parsed : parseChars ('\x7b' :: text) with
  | error failure =>
      rw [parsed] at read
      cases read
  | ok w =>
      rw [parsed] at read
      cases read
      obtain ⟨⟨value, rest⟩, object, ends⟩ := bind_eq_ok_iff.1 parsed
      obtain ⟨⟨members, left⟩, inside, same⟩ := bind_eq_ok_iff.1
        ((readValue_brace (by decide) text).symm.trans object)
      cases same
      dsimp only at ends
      split at ends
      · cases ends
        exact ⟨members, rfl, (readMembers_sound inside).2⟩
      · cases ends

end Json

end DeviceConsole
