import DeviceConsole.Proofs.Topic.Matching

/-!
# Widening a filter

A filter becomes wider when one of its segments gives way to `+`, or everything behind its first few
segments to `#`.  This file shows that it then accepts all it accepted before:

* `Topic.join`, the text with given segments, and `Topic.segments_join`;
* `Topic.loosened` and `Topic.cut`, the two ways to widen a filter;
* `Topic.Matches.loosened` and `Topic.Matches.cut`, what becomes of a match;
* `Topic.accepts_widened`, for texts, where a filter must not turn into a shared one.
-/

namespace DeviceConsole

namespace Topic

/-! ## Segments and their text -/

/-- The text that has these segments. -/
def join (parts : List Segment) : String := String.ofList (['/'].intercalate parts)

/-- The first segment of a shared filter. -/
def sharedName : Segment := sharedMark.dropLast

variable {segment : Segment} {filter topic parts : List Segment} {place count : Nat}

theorem not_mem_of_mem_split {text : List Char} (member : segment ∈ split text) :
    '/' ∉ segment := by
  induction text generalizing segment with
  | nil => simp_all [split]
  | cons c text ih =>
      by_cases slash : c = '/'
      · simp only [split, slash, if_true, List.mem_cons] at member
        rcases member with rfl | member
        · simp
        · exact ih member
      · cases rest : split text with
        | nil =>
            simp only [split, slash, if_false, rest, List.mem_singleton] at member
            simpa [member] using Ne.symm slash
        | cons first others =>
            rw [rest] at ih
            simp only [split, slash, if_false, rest, List.mem_cons] at member
            rcases member with rfl | member
            · have := ih List.mem_cons_self
              simpa [Ne.symm slash] using this
            · exact ih (List.mem_cons_of_mem _ member)

theorem segments_join (filled : parts ≠ []) (whole : ∀ part ∈ parts, '/' ∉ part) :
    segments (join parts) = parts := by
  rw [segments_eq_splitOn, join, String.toList_ofList, List.splitOn_intercalate '/' whole filled]

theorem head?_segments_of_shared {text : String} (shared : sharedMark <+: text.toList) :
    (segments text).head? = some sharedName := by
  obtain ⟨rest, parted⟩ := shared
  have mark : sharedMark = sharedName ++ ['/'] := rfl
  rw [segments_eq_splitOn, ← parted, mark, List.append_assoc, List.singleton_append,
    List.splitOn_append_cons_self_of_not_mem (by decide), List.head?_cons]

theorem filterSegments_of_not_shared {text : String} (alone : ¬ sharedMark <+: text.toList) :
    filterSegments text = segments text := by
  rw [filterSegments, if_neg]
  rwa [List.isPrefixOf_iff_prefix]

theorem filterSegments_of_head {text : String} (first : (segments text).head? ≠ some sharedName) :
    filterSegments text = segments text :=
  filterSegments_of_not_shared fun shared => first (head?_segments_of_shared shared)

theorem single_ne_sharedName : single ≠ sharedName := by decide

theorem multi_ne_sharedName : multi ≠ sharedName := by decide

theorem head?_set_ne (first : parts.head? ≠ some sharedName) :
    (parts.set place single).head? ≠ some sharedName := by
  cases parts with
  | nil => simp
  | cons part parts =>
      cases place with
      | zero => simpa using single_ne_sharedName
      | succ place => exact first

theorem head?_take_append_ne (first : parts.head? ≠ some sharedName) :
    (parts.take count ++ [multi]).head? ≠ some sharedName := by
  cases count with
  | zero => simpa using multi_ne_sharedName
  | succ count =>
      cases parts with
      | nil => simpa using multi_ne_sharedName
      | cons part parts => exact first

/-! ## Matches of wider filters -/

theorem covers_of_matches (h : Matches filter topic) : covers filter topic = true := by
  induction h with
  | finish => exact covers_nil.2 rfl
  | rest topic => exact covers_multi.2 (Nat.zero_le _)
  | any segment _ ih => exact (covers_cons_cons (by decide)).2 ⟨by simp [admits], ih⟩
  | same _ plain _ ih => exact (covers_cons_cons plain).2 ⟨by simp [admits], ih⟩

/-- A match survives when a segment that stands for one segment gives way to `+`. -/
theorem Matches.loosened (h : Matches filter topic) (found : filter[place]? = some segment)
    (plain : segment ≠ multi) : Matches (filter.set place single) topic := by
  induction h generalizing place with
  | finish => simp at found
  | rest topic =>
      -- The only segment is the `#`.
      cases place with
      | zero => exact absurd (Option.some.inj found).symm plain
      | succ place => simp at found
  | any other h ih =>
      cases place with
      | zero => exact .any other h
      | succ place => exact .any other (ih found)
  | @same same filter topic fixed plain' h ih =>
      cases place with
      | zero => exact .any same h
      | succ place => exact .same fixed plain' (ih found)

/-- A match survives when `#` takes the place of everything behind the first few segments. -/
theorem Matches.cut (h : Matches filter topic) (within : count ≤ filter.countP (· ≠ multi)) :
    Matches (filter.take count ++ [multi]) topic := by
  induction h generalizing count with
  | finish =>
      rw [List.take_nil]
      exact .rest []
  | rest topic =>
      -- None of its segments is left.
      obtain rfl : count = 0 := by simpa using within
      exact .rest topic
  | any other h ih =>
      cases count with
      | zero => exact .rest _
      | succ count =>
          rw [List.countP_cons_of_pos (by decide)] at within
          exact .any other (ih (Nat.le_of_succ_le_succ within))
  | same fixed plain h ih =>
      cases count with
      | zero => exact .rest _
      | succ count =>
          rw [List.countP_cons_of_pos (by simpa using plain)] at within
          exact .same fixed plain (ih (Nat.le_of_succ_le_succ within))

/-- Segments cover themselves, also those with a `#` amid them. -/
theorem covers_self (parts : List Segment) : covers parts parts = true := by
  induction parts with
  | nil => exact covers_nil.2 rfl
  | cons segment parts ih =>
      by_cases plain : segment = multi
      · subst plain
        exact covers_multi.2 (by simp)
      · exact (covers_cons_cons plain).2 ⟨by simp [admits], ih⟩

/-! ## Wider filters as texts -/

/-- The filter with `+` in place of one of its segments. -/
def loosened (filter : String) (place : Nat) : String := join ((segments filter).set place single)

/-- The filter with `#` in place of everything behind its first few segments. -/
def cut (filter : String) (count : Nat) : String := join ((segments filter).take count ++ [multi])

/-- A text accepts what its segments match, if the first of them does not make it shared. -/
theorem accepts_join {text : String} (filled : parts ≠ []) (whole : ∀ part ∈ parts, '/' ∉ part)
    (first : parts.head? ≠ some sharedName) (h : Matches parts (segments text)) :
    accepts (join parts) text = true := by
  have same := segments_join filled whole
  have alone : (segments (join parts)).head? ≠ some sharedName := by rwa [same]
  rw [accepts, filterSegments_of_head alone, same]
  exact covers_of_matches h

/-- Let the first segment of a filter not be `$share`, and `#` be its last segment at most.  Each
topic that the filter accepts is also accepted when `+` takes the place of any segment other than
`#`, and when `#` takes the place of everything behind any number of segments other than `#`.  And
every topic that is no shared filter accepts itself. -/
theorem accepts_widened (filter topic : String) :
    ((segments filter).head? ≠ some sharedName → multi ∉ (segments filter).dropLast →
      accepts filter topic = true →
      (∀ place segment, (segments filter)[place]? = some segment → segment ≠ multi →
        accepts (loosened filter place) topic = true) ∧
      ∀ count ≤ (segments filter).countP (· ≠ multi), accepts (cut filter count) topic = true) ∧
    (¬ sharedMark <+: topic.toList → accepts topic topic = true) := by
  refine ⟨fun first last accepted => ?_, fun alone => ?_⟩
  · have matched : Matches (segments filter) (segments topic) := by
      rw [accepts, filterSegments_of_head first] at accepted
      exact (covers_iff_matches last).1 accepted
    have whole : ∀ part ∈ segments filter, '/' ∉ part := fun part => not_mem_of_mem_split
    constructor
    · intro place segment found plain
      refine accepts_join ?_ ?_ ?_ (matched.loosened found plain)
      · exact List.ne_nil_of_mem (List.mem_set (List.getElem?_eq_some_iff.1 found).1 single)
      · intro part member
        rcases List.mem_or_eq_of_mem_set member with member | rfl
        · exact whole part member
        · decide
      · exact head?_set_ne first
    · intro count within
      refine accepts_join (by simp) ?_ ?_ (matched.cut within)
      · intro part member
        rcases List.mem_append.1 member with member | member
        · exact whole part (List.mem_of_mem_take member)
        · obtain rfl := List.mem_singleton.1 member
          decide
      · exact head?_take_append_ne first
  · rw [accepts, filterSegments_of_not_shared alone]
    exact covers_self _

/-- A parent level is accepted with a wider filter too, and so is a text with wildcards of its own
by itself. -/
theorem accepts_widened_parent :
    (segments "a/+/#").head? ≠ some sharedName ∧ multi ∉ (segments "a/+/#").dropLast ∧
      accepts "a/+/#" "a/b" = true ∧ accepts (loosened "a/+/#" 0) "a/b" = true ∧
      loosened "a/+/#" 0 = "+/+/#" ∧ accepts (cut "a/+/#" 1) "a/b" = true ∧
      cut "a/+/#" 1 = "a/#" ∧ accepts "a/#/+" "a/#/+" = true := by
  have first : (segments "a/+/#").head? ≠ some sharedName := by decide
  have last : multi ∉ (segments "a/+/#").dropLast := by decide
  have accepted : accepts "a/+/#" "a/b" = true := by decide
  have wider := (accepts_widened "a/+/#" "a/b").1 first last accepted
  exact ⟨first, last, accepted, wider.1 0 ['a'] (by decide) (by decide), by decide,
    wider.2 1 (by decide), by decide, (accepts_widened "" "a/#/+").2 (by decide)⟩

end Topic

end DeviceConsole
