import DeviceConsole.Topic.Filter

/-!
# The relation between filters and topics

The comparison of segments looks at lengths and at pairs of segments.  This file shows that it
decides a relation that goes from segment to segment:

* `Topic.Matches filter topic`, the relation, with one rule for each kind of segment;
* `Topic.covers_iff_matches`, for filters in which `#` can only be the last segment, and
  `Topic.covers_iff_of_mem`, for those with a `#` anywhere;
* `Topic.accepts_iff`, both for texts, whose segments `Topic.segments_eq_splitOn` describes.
-/

namespace DeviceConsole

namespace Topic

/-! ## The relation -/

/-- When the segments of a filter match those of a topic. -/
inductive Matches : List Segment → List Segment → Prop where
  | finish : Matches [] []
  /-- `#` stands for all that is left, also for nothing. -/
  | rest (topic : List Segment) : Matches [multi] topic
  /-- `+` stands for one segment. -/
  | any (segment : Segment) {filter topic : List Segment} :
      Matches filter topic → Matches (single :: filter) (segment :: topic)
  | same {segment : Segment} {filter topic : List Segment} :
      segment ≠ single → segment ≠ multi → Matches filter topic →
      Matches (segment :: filter) (segment :: topic)

variable {segment other : Segment} {filter topic front later : List Segment}

theorem matches_nil_iff : Matches [] topic ↔ topic = [] := by
  constructor
  · intro h
    cases h
    rfl
  · rintro rfl
    exact .finish

theorem not_matches_cons_nil (plain : segment ≠ multi) : ¬ Matches (segment :: filter) [] := by
  intro h
  cases h
  exact plain rfl

theorem matches_cons_cons_iff (plain : segment ≠ multi) :
    Matches (segment :: filter) (other :: topic) ↔
      admits (segment, other) = true ∧ Matches filter topic := by
  constructor
  · intro h
    cases h with
    | rest => exact absurd rfl plain
    | any _ h => exact ⟨by simp [admits], h⟩
    | same _ _ h => exact ⟨by simp [admits], h⟩
  · rintro ⟨admitted, h⟩
    by_cases wild : segment = single
    · subst wild
      exact .any other h
    · obtain rfl : segment = other := by simpa [admits, wild] using admitted
      exact .same wild plain h

/-! ## The comparison, segment by segment -/

theorem covers_nil : covers [] topic = true ↔ topic = [] := by
  simp [covers, eq_comm]

/-- From a `#` on only the numbers of segments count. -/
theorem covers_multi : covers (multi :: filter) topic = true ↔ filter.length ≤ topic.length := by
  simp [covers]

theorem covers_cons_nil (plain : segment ≠ multi) : ¬ covers (segment :: filter) [] = true := by
  intro h
  -- Where a `#` follows, the filter would be longer by two segments.
  simp [covers, plain] at h
  rcases h with ⟨shorter, rfl⟩
  simp at shorter

theorem covers_cons_cons (plain : segment ≠ multi) :
    covers (segment :: filter) (other :: topic) = true ↔
      admits (segment, other) = true ∧ covers filter topic = true := by
  simp [covers, plain, and_assoc]

/-! ## What the comparison decides -/

/-- A filter in which `#` is the last segment at most covers what it matches. -/
theorem covers_iff_matches (last : multi ∉ filter.dropLast) :
    covers filter topic = true ↔ Matches filter topic := by
  induction filter generalizing topic with
  | nil => rw [covers_nil, matches_nil_iff]
  | cons segment filter ih =>
      by_cases plain : segment = multi
      · subst plain
        -- Nothing follows the `#`.
        obtain rfl : filter = [] := by
          cases filter with
          | nil => rfl
          | cons => simp at last
        simp [covers_multi, Matches.rest]
      · have rest : multi ∉ filter.dropLast := by
          intro member
          cases filter with
          | nil => simp at member
          | cons => exact last (List.mem_cons_of_mem _ member)
        cases topic with
        | nil => simp [covers_cons_nil plain, not_matches_cons_nil plain]
        | cons other topic => rw [covers_cons_cons plain, matches_cons_cons_iff plain, ih rest]

/-- Up to its first `#` a filter has to match; behind it the topic only has to be long enough. -/
theorem covers_append_multi (plain : multi ∉ front) :
    covers (front ++ multi :: later) topic = true ↔
      front.length + later.length ≤ topic.length ∧ Matches front (topic.take front.length) := by
  induction front generalizing topic with
  | nil => simp [covers_multi, Matches.finish]
  | cons segment front ih =>
      have first : segment ≠ multi := fun same => plain (same ▸ List.mem_cons_self)
      have rest : multi ∉ front := fun member => plain (List.mem_cons_of_mem _ member)
      rw [List.cons_append]
      cases topic with
      | nil => simp [covers_cons_nil first]
      | cons other topic =>
          rw [covers_cons_cons first, ih rest, List.length_cons, List.take_succ_cons,
            matches_cons_cons_iff first, List.length_cons, Nat.add_right_comm,
            Nat.add_le_add_iff_right]
          exact and_left_comm

theorem covers_iff_of_mem (member : multi ∈ filter) :
    covers filter topic = true ↔
      filter.length - 1 ≤ topic.length ∧
        Matches (filter.take (filter.idxOf multi)) (topic.take (filter.idxOf multi)) := by
  obtain ⟨front, later, rfl, plain⟩ := List.eq_append_cons_of_mem member
  have index : (front ++ multi :: later).idxOf multi = front.length := by
    simp [List.idxOf_append, plain]
  rw [index, covers_append_multi plain]
  simp

/-! ## Texts -/

theorem split_eq_splitOn (text : List Char) : split text = text.splitOn '/' := by
  induction text with
  | nil => rfl
  | cons c text ih =>
      rw [List.splitOn_eq_splitOnP, List.splitOnP_cons_eq_if_modifyHead,
        ← List.splitOn_eq_splitOnP, ← ih, split]
      by_cases slash : c = '/'
      · simp [slash]
      · cases rest : split text with
        | nil => exact absurd (ih ▸ rest) (List.splitOn_ne_nil '/' text)
        | cons => simp [slash]

/-- The segments of a text are its parts between slashes. -/
theorem segments_eq_splitOn (topic : String) : segments topic = topic.toList.splitOn '/' :=
  split_eq_splitOn _

/-- Nothing is left of a shared filter that ends with its group. -/
theorem filterSegments_group {group : String} (whole : '/' ∉ group.toList) :
    filterSegments ("$share/" ++ group) = [] := by
  have letters : ("$share/" ++ group).toList =
      ['$', 's', 'h', 'a', 'r', 'e'] ++ '/' :: group.toList := by
    simp
  have alone : group.toList.splitOn '/' = [group.toList] := by
    refine List.splitOnP_eq_singleton fun c member => ?_
    rw [beq_eq_false_iff_ne]
    rintro rfl
    exact whole member
  have shared : sharedMark.isPrefixOf ("$share/" ++ group).toList = true := by
    simp [sharedMark]
  rw [filterSegments, if_pos shared, segments_eq_splitOn, letters,
    List.splitOn_append_cons_self_of_not_mem (by decide), alone]
  rfl

/-- A filter accepts the topics that it matches segment by segment, if `#` is its last segment at
most.  With a `#` in front of other segments, it accepts the topics that match it up to the first
`#` and have no fewer segments than it has besides that one.  A shared filter that ends with its
group accepts nothing. -/
theorem accepts_iff (filter topic : String) :
    (multi ∉ (filterSegments filter).dropLast →
      (accepts filter topic = true ↔ Matches (filterSegments filter) (segments topic))) ∧
    (multi ∈ (filterSegments filter).dropLast →
      (accepts filter topic = true ↔
        (filterSegments filter).length - 1 ≤ (segments topic).length ∧
          Matches ((filterSegments filter).take ((filterSegments filter).idxOf multi))
            ((segments topic).take ((filterSegments filter).idxOf multi)))) ∧
    ∀ group : String, '/' ∉ group.toList → accepts ("$share/" ++ group) topic = false := by
  refine ⟨fun last => covers_iff_matches last,
    fun earlier => covers_iff_of_mem (List.dropLast_subset _ earlier), ?_⟩
  intro group whole
  have some : segments topic ≠ [] := by
    rw [segments_eq_splitOn]
    exact List.splitOn_ne_nil _ _
  rw [accepts, filterSegments_group whole, Bool.eq_false_iff]
  exact fun covered => some (covers_nil.1 covered)

/-- A shared filter matches what is behind its group; a `#` amid a filter asks for as many segments
as the filter has, save one. -/
theorem accepts_iff_shared_and_amid :
    accepts "$share/g/a/+/#" "a/b" = true ∧ Matches [['a'], single, multi] [['a'], ['b']] ∧
      multi ∈ (filterSegments "a/#/b").dropLast ∧ accepts "a/#/b" "a" = false ∧
        accepts "a/#/b" "a/x" = true := by
  have last : multi ∉ (filterSegments "$share/g/a/+/#").dropLast := by decide
  have amid : multi ∈ (filterSegments "a/#/b").dropLast := by decide
  have long : Matches [['a']] [['a']] := .same (by decide) (by decide) .finish
  refine ⟨by decide, ((accepts_iff "$share/g/a/+/#" "a/b").1 last).1 (by decide), amid, ?_, ?_⟩
  · rw [Bool.eq_false_iff]
    intro accepted
    exact absurd (((accepts_iff "a/#/b" "a").2.1 amid).1 accepted).1 (by decide)
  · exact ((accepts_iff "a/#/b" "a/x").2.1 amid).2 ⟨by decide, long⟩

end Topic

end DeviceConsole
