import DeviceConsole.Proofs.Catalog.Resolving
import DeviceConsole.Proofs.Text.Utf8
import DeviceConsole.Topic.ThingId

/-!
# The id that is found in a topic

The search tries every `things/` in turn and stops at the first one that an id follows.  This file
defines:

* `Topic.Marked`, what the search looks for, and `Topic.IsRun`, ids that cannot be made longer;
* `Topic.thingId?_at_first_mark`: what is found, where, and that it is cut out between characters;
  from the topics of the built-in templates the id comes back.
-/

namespace DeviceConsole

namespace Topic

/-- Whether a text starts with the mark and a character of an id. -/
def Marked (text : List Char) : Prop :=
  ∃ c rest, text = idMark ++ c :: rest ∧ isIdChar c = true

/-- An id that the text behind it does not go on. -/
structure IsRun (id after : List Char) : Prop where
  some : id ≠ []
  chars : ∀ c ∈ id, isIdChar c = true
  ends : ∀ c ∈ after.head?, isIdChar c = false

variable {text id after : List Char}

/-! ## Runs of characters -/

theorem IsRun.takeWhile (run : IsRun id after) : (id ++ after).takeWhile isIdChar = id := by
  rw [List.takeWhile_append_of_pos run.chars]
  cases after with
  | nil => simp
  | cons c rest => simp [run.ends c rfl]

/-- The longest run at the front of a text is taken. -/
theorem leadingId?_eq_some_iff :
    leadingId? text = some id ↔ ∃ after, text = id ++ after ∧ IsRun id after := by
  constructor
  · intro found
    have whole : text.takeWhile isIdChar ++ text.dropWhile isIdChar = text :=
      List.takeWhile_append_dropWhile
    unfold leadingId? at found
    split at found
    next => cases found
    next some =>
      cases found
      have ends := List.head?_dropWhile_not isIdChar text
      refine ⟨text.dropWhile isIdChar, whole.symm, some,
        List.all_eq_true.1 List.all_takeWhile, fun c first => ?_⟩
      rwa [Option.mem_def.1 first] at ends
  · rintro ⟨after, rfl, run⟩
    rw [leadingId?, run.takeWhile]
    obtain ⟨c, rest, rfl⟩ := List.exists_cons_of_ne_nil run.some
    rfl

theorem leadingId?_eq_none_iff :
    leadingId? text = none ↔ ∀ c ∈ text.head?, isIdChar c = false := by
  cases text with
  | nil => simp [leadingId?]
  | cons c rest =>
      by_cases first : isIdChar c = true <;> simp [leadingId?, first]

/-! ## One mark -/

theorem markedId?_append : markedId? (idMark ++ text) = leadingId? text := by
  rw [markedId?, if_pos (List.isPrefixOf_iff_prefix.2 (List.prefix_append _ _)),
    List.drop_left]

theorem markedId?_of_elsewhere (other : ¬ idMark <+: text) : markedId? text = none := by
  rw [markedId?, if_neg (List.isPrefixOf_iff_prefix.not.2 other)]

theorem markedId?_eq_some_iff :
    markedId? text = some id ↔ ∃ after, text = idMark ++ id ++ after ∧ IsRun id after := by
  by_cases here : idMark <+: text
  · obtain ⟨rest, rfl⟩ := here
    simp [markedId?_append, leadingId?_eq_some_iff]
  · rw [markedId?_of_elsewhere here]
    constructor
    · intro found
      cases found
    · rintro ⟨after, rfl, -⟩
      exact absurd (by simp) here

theorem markedId?_eq_none_iff : markedId? text = none ↔ ¬ Marked text := by
  by_cases here : idMark <+: text
  · obtain ⟨rest, rfl⟩ := here
    rw [markedId?_append, leadingId?_eq_none_iff]
    cases rest <;> simp [Marked]
  · simp only [markedId?_of_elsewhere here, true_iff]
    rintro ⟨c, rest, rfl, -⟩
    exact here (List.prefix_append _ _)

/-! ## All marks -/

theorem findId?_eq_none_iff : findId? text = none ↔ ∀ n, ¬ Marked (text.drop n) := by
  induction text with
  | nil =>
      have never : ¬ Marked [] := by
        rintro ⟨c, rest, same, -⟩
        simp at same
      simp [findId?, never]
  | cons c rest ih =>
      rw [findId?, Option.or_eq_none_iff, markedId?_eq_none_iff, ih]
      constructor
      · rintro ⟨first, later⟩ (_ | n)
        · exact first
        · exact later n
      · exact fun never => ⟨never 0, fun n => never (n + 1)⟩

/-- The search stops at the first mark that an id follows. -/
theorem findId?_eq_some_iff :
    findId? text = some id ↔ ∃ before after, text = before ++ idMark ++ id ++ after ∧
      IsRun id after ∧ ∀ n < before.length, ¬ Marked (text.drop n) := by
  induction text with
  | nil => simp [findId?, idMark]
  | cons c rest ih =>
      rw [findId?, Option.or_eq_some_iff, markedId?_eq_some_iff, markedId?_eq_none_iff, ih]
      constructor
      · rintro (⟨after, whole, run⟩ | ⟨first, before, after, whole, run, never⟩)
        · exact ⟨[], after, by simpa using whole, run, fun n small => absurd small (by simp)⟩
        · refine ⟨c :: before, after, by simp [whole], run, fun n small => ?_⟩
          cases n with
          | zero => exact first
          | succ n => exact never n (Nat.lt_of_succ_lt_succ small)
      · rintro ⟨before, after, whole, run, never⟩
        cases before with
        | nil => exact Or.inl ⟨after, by simpa using whole, run⟩
        | cons d before =>
            rw [List.cons_append, List.cons_append, List.cons_append] at whole
            obtain ⟨rfl, rfl⟩ := List.cons.inj whole
            exact Or.inr ⟨never 0 (Nat.succ_pos _), before, after, rfl, run,
              fun n small => never (n + 1) (Nat.succ_lt_succ small)⟩

/-! ## Bytes -/

def isIdByte (b : UInt8) : Bool := isIdChar (Char.ofNat b.toNat)

theorem ascii_of_isIdChar {c : Char} (char : isIdChar c = true) : c.toNat < 0x80 := by
  have ranges : ((((c.val ≥ 'A'.val ∧ c.val ≤ 'Z'.val : Bool) ||
      c.val ≥ 'a'.val && c.val ≤ 'z'.val) || c.val ≥ '0'.val && c.val ≤ '9'.val) ||
        c = '_' || c = '-') = true := char
  simp only [Bool.or_eq_true, Bool.and_eq_true, decide_eq_true_eq,
    UInt32.le_iff_toNat_le] at ranges
  rcases ranges with (((⟨-, h⟩ | ⟨-, h⟩) | ⟨-, h⟩) | rfl) | rfl
  · exact Nat.lt_of_le_of_lt h (by decide)
  · exact Nat.lt_of_le_of_lt h (by decide)
  · exact Nat.lt_of_le_of_lt h (by decide)
  · decide
  · decide

/-- A run of bytes is as long as the run of characters. -/
theorem takeWhile_encode (text : List Char) :
    (Utf8.encode text).takeWhile isIdByte = Utf8.encode (text.takeWhile isIdChar) := by
  induction text with
  | nil => rfl
  | cons c text ih =>
      by_cases narrow : c.toNat < 0x80
      · have same : isIdByte (UInt8.ofNat c.toNat) = isIdChar c := by
          rw [isIdByte, Utf8.char_of_ascii narrow]
        rw [Utf8.encode_cons, Utf8.utf8EncodeChar_of_ascii narrow, List.singleton_append,
          List.takeWhile_cons, List.takeWhile_cons, same, ih]
        split
        next => rw [Utf8.encode_cons, Utf8.utf8EncodeChar_of_ascii narrow, List.singleton_append]
        next => rfl
      · obtain ⟨b, tail, bytes, -⟩ := Utf8.readChar_utf8EncodeChar c []
        have high : 0x80 ≤ b := Utf8.le_of_mem_utf8EncodeChar (Nat.le_of_not_lt narrow)
          (bytes ▸ List.mem_cons_self)
        have byte : ¬ isIdByte b = true := fun char => by
          have low := ascii_of_isIdChar char
          rw [Utf8.toNat_char] at low
          exact absurd high (UInt8.not_le.2 low)
        have other : ¬ isIdChar c = true := fun char => narrow (ascii_of_isIdChar char)
        rw [Utf8.encode_cons, bytes, List.cons_append, List.takeWhile_cons_of_neg byte,
          List.takeWhile_cons_of_neg other]
        rfl

theorem isValid_of_append {topic : String} {before rest : List Char} {n : Nat}
    (whole : topic.toList = before ++ rest) (length : (Utf8.encode before).length = n) :
    String.Pos.Raw.IsValid topic ⟨n⟩ := by
  refine String.Pos.Raw.isValid_iff_exists_append.2
    ⟨String.ofList before, String.ofList rest, ?_, ?_⟩
  · rw [← String.toList_inj, whole]
    simp
  · subst length
    simp [Utf8.encode, String.rawEndPos, List.utf8Encode, ← String.size_toByteArray]

/-- The slice behind a mark lies between characters, wherever the bytes of the mark occur. -/
theorem isValid_slice {topic : String} {start : Nat}
    (here : Utf8.encode idMark <+: (Utf8.ofString topic).drop start) :
    String.Pos.Raw.IsValid topic ⟨start + 7⟩ ∧
      String.Pos.Raw.IsValid topic
        ⟨start + 7 + (((Utf8.ofString topic).drop (start + 7)).takeWhile isIdByte).length⟩ := by
  have ascii : ∀ c ∈ idMark, c.toNat < 0x80 := by simp [idMark]
  obtain ⟨before, rest, whole, length⟩ :=
    Utf8.exists_append_of_encode_prefix (by decide) ascii here
  have mark : (Utf8.encode (before ++ idMark)).length = start + 7 := by
    rw [Utf8.encode_append, List.length_append, length]
    rfl
  have behind : (Utf8.ofString topic).drop (start + 7) = Utf8.encode rest := by
    rw [Utf8.ofString, whole, Utf8.encode_append, ← mark, List.drop_left]
  have cut : topic.toList = before ++ idMark ++ rest.takeWhile isIdChar ++
      rest.dropWhile isIdChar := by
    rw [whole, List.append_assoc, List.append_assoc, List.takeWhile_append_dropWhile,
      List.append_assoc]
  refine ⟨isValid_of_append whole mark, isValid_of_append cut ?_⟩
  rw [Utf8.encode_append, List.length_append, mark, behind, takeWhile_encode]

/-! ## Texts -/

theorem isSome_thingId?_iff {topic : String} :
    (∃ id, thingId? topic = some id) ↔ ∃ n, Marked (topic.toList.drop n) := by
  rw [← Option.isSome_iff_exists, thingId?, Option.isSome_map, Option.isSome_iff_ne_none, ne_eq,
    findId?_eq_none_iff, not_forall_not]

theorem thingId?_eq_some_iff {topic id : String} :
    thingId? topic = some id ↔
      ∃ before after, topic = before ++ "things/" ++ id ++ after ∧ IsRun id.toList after.toList ∧
        ∀ n < before.length, ¬ Marked (topic.toList.drop n) := by
  rw [thingId?, Option.map_eq_some_iff]
  constructor
  · rintro ⟨chars, found, rfl⟩
    obtain ⟨before, after, whole, run, never⟩ := findId?_eq_some_iff.1 found
    refine ⟨String.ofList before, String.ofList after, ?_, by simpa using run, by simpa using never⟩
    rw [← String.toList_inj, whole]
    simp [idMark]
  · rintro ⟨before, after, whole, run, never⟩
    refine ⟨id.toList, findId?_eq_some_iff.2 ⟨before.toList, after.toList, ?_, run, ?_⟩,
      String.ofList_toList⟩
    · simp [whole, idMark]
    · rwa [String.length_toList]

/-! ## Topics of the catalog -/

/-- A start that ends in the mark has no earlier one, whatever follows it. -/
theorem not_marked_drop {start rest : List Char} {n : Nat}
    (absent : ∀ n < start.length - 7, ¬ idMark <+: start.drop n)
    (small : n < start.length - 7) : ¬ Marked ((start ++ rest).drop n) := by
  rintro ⟨c, tail, whole, -⟩
  have long : idMark.length ≤ (start.drop n).length := by
    have seven : idMark.length = 7 := rfl
    rw [List.length_drop]
    omega
  rw [List.drop_append_of_le_length (by omega)] at whole
  have here : idMark <+: start.drop n ++ rest := whole ▸ List.prefix_append _ _
  exact absent n small (List.prefix_of_prefix_length_le here (List.prefix_append _ rest) long)

/-- The id comes back from a built-in topic, also one that looks like the mark. -/
theorem thingId?_placed {start rest id : String} (member : start ∈ Builtin.starts)
    (some : id ≠ "") (chars : ∀ c ∈ id.toList, isIdChar c = true) :
    thingId? (Builtin.placed start rest id) = .some id := by
  have ends : ∀ start ∈ Builtin.starts, ∃ before ∈ ["$iothub/", "$iothub/user/"],
      start = before ++ "things/" := by decide
  have absent : ∀ start ∈ Builtin.starts, ∀ n < start.toList.length - 7,
      ¬ idMark <+: start.toList.drop n := by decide
  obtain ⟨before, -, rfl⟩ := ends start member
  refine thingId?_eq_some_iff.2 ⟨before, "/" ++ rest, ?_, ⟨?_, chars, ?_⟩, fun n small => ?_⟩
  · simp [Builtin.placed, String.append_assoc]
  · simpa using some
  · simp [isIdChar]
  · rw [Builtin.placed, String.append_assoc, String.append_assoc, String.toList_append]
    refine not_marked_drop (absent _ member) ?_
    rw [String.toList_append, List.length_append, String.length_toList]
    exact small

/-! ## The law of the search -/

/-- What is found in a topic: the longest id behind the first mark that an id follows.  Its slice
lies between characters, and from the topics of the catalog it comes back. -/
theorem thingId?_at_first_mark (topic : String) :
    ((∃ id, thingId? topic = some id) ↔ ∃ n, Marked (topic.toList.drop n)) ∧
    (∀ id, thingId? topic = some id ↔
      ∃ before after, topic = before ++ "things/" ++ id ++ after ∧ IsRun id.toList after.toList ∧
        ∀ n < before.length, ¬ Marked (topic.toList.drop n)) ∧
    (∀ start, Utf8.encode idMark <+: (Utf8.ofString topic).drop start →
      String.Pos.Raw.IsValid topic ⟨start + 7⟩ ∧
        String.Pos.Raw.IsValid topic
          ⟨start + 7 + (((Utf8.ofString topic).drop (start + 7)).takeWhile isIdByte).length⟩) ∧
    ∀ t ∈ Catalog.builtin.subscribe ++ Catalog.builtin.publish.map (·.topic), ∀ id, id ≠ "" →
      (∀ c ∈ id.toList, isIdChar c = true) → thingId? (t.resolve id) = some id := by
  refine ⟨isSome_thingId?_iff, fun _ => thingId?_eq_some_iff, fun _ => isValid_slice,
    fun t known id some chars => ?_⟩
  obtain ⟨start, member, rest, topic⟩ := Builtin.exists_placement known
  rw [topic]
  exact thingId?_placed member some chars

/-- The first `things/` has no id behind it and stands after a character of two bytes; an id that
is called `things` comes back from its topic. -/
theorem thingId?_at_first_mark_of_two :
    thingId? "é/things/+/things/y" = some "y" ∧
    String.Pos.Raw.IsValid "é/things/+/things/y" ⟨10⟩ ∧
    thingId? ((Builtin.subscribe "Common" "Presence" (Builtin.thingTopic "presence")
      false true false).resolve "things") = some "things" := by
  have law := thingId?_at_first_mark "é/things/+/things/y"
  have earlier : ∀ n < "é/things/+/".length,
      markedId? ("é/things/+/things/y".toList.drop n) = none := by decide
  have run : IsRun "y".toList "".toList := ⟨by decide, List.all_eq_true.1 (by decide), by simp⟩
  have chars : ∀ c ∈ "things".toList, isIdChar c = true := List.all_eq_true.1 (by decide)
  exact ⟨(law.2.1 "y").2 ⟨"é/things/+/", "", by decide, run,
      fun n small => markedId?_eq_none_iff.1 (earlier n small)⟩,
    (law.2.2.1 3 (by decide)).1, law.2.2.2 _ (by decide +kernel) "things" (by decide) chars⟩

end Topic

end DeviceConsole
