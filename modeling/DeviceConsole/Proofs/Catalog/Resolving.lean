import Mathlib.Data.List.Nodup
import DeviceConsole.Catalog.Basic
import DeviceConsole.Proofs.Text.Substitution

/-!
# Templates and the topics of a thing

The topics of a thing are found in the catalog again.  This file shows:

* `TopicTemplate.resolve_thingMark`: for the mark itself a template gives its own pattern;
* `Builtin.exists_placement`: a built-in topic has the id at one place, behind one of two starts;
* `Catalog.lookup_resolve`, for any catalog without two templates for one topic;
* `Catalog.lookup_inverts_resolve`: a lookup finds the template a topic comes from.
-/

namespace DeviceConsole

/-! ## The place of an id -/

theorem thingMark_ne_nil : thingMark.toList ≠ [] := by decide

namespace TopicTemplate

/-- A pattern is its own topic for the mark. -/
theorem resolve_thingMark (t : TopicTemplate) : t.resolve thingMark = t.pattern := by
  rw [resolve, Text.replaceAll, Text.replaceFrom_self thingMark_ne_nil, List.drop_zero,
    String.ofList_toList]

end TopicTemplate

namespace Builtin

variable {t u : TopicTemplate} {thing : String}

/-- What the topics of the platform start with, up to the id. -/
def starts : List String := ["$iothub/things/", "$iothub/user/things/"]

/-- A topic with an id behind its start. -/
def placed (start rest thing : String) : String := start ++ thing ++ "/" ++ rest

/-- Patterns that have the mark behind one of the starts and nowhere else. -/
def Placed (pattern : String) : Prop :=
  ∃ start ∈ starts, ∃ rest, '\x7b' ∉ rest.toList ∧ pattern = placed start rest thingMark

theorem placed_thingTopic {rest : String} (absent : '\x7b' ∉ rest.toList) :
    Placed (thingTopic rest) :=
  ⟨"$iothub/things/", List.mem_cons_self, rest, absent, rfl⟩

theorem placed_userTopic {rest : String} (absent : '\x7b' ∉ rest.toList) :
    Placed (userTopic rest) :=
  ⟨"$iothub/user/things/", List.mem_cons_of_mem _ List.mem_cons_self, rest, absent, rfl⟩

theorem placed_shadowTopic {rest : String} (absent : '\x7b' ∉ rest.toList) :
    Placed (shadowTopic rest) := by
  refine placed_thingTopic ?_
  rw [String.toList_append, List.mem_append, not_or]
  exact ⟨by decide, absent⟩

def topics : List TopicTemplate := subscribeTemplates ++ publishTemplates.map (·.topic)

theorem placed_topics : ∀ t ∈ topics, Placed t.pattern := by
  simp [topics, subscribeTemplates, publishTemplates, subscribe, publish, placed_thingTopic,
    placed_userTopic, placed_shadowTopic]

theorem not_infix_of_brace {text : List Char} (absent : '\x7b' ∉ text) :
    ¬ thingMark.toList <:+: text :=
  fun inside => absent (inside.subset (by decide))

/-- The id takes the place of the mark. -/
theorem resolve_placed {start rest : String} (member : start ∈ starts)
    (absent : '\x7b' ∉ rest.toList) (pattern : t.pattern = placed start rest thingMark)
    (thing : String) : t.resolve thing = placed start rest thing := by
  have plain : ∀ start ∈ starts, '\x7b' ∉ start.toList := by decide
  have ends : ∀ start ∈ starts, start.toList = start.toList.dropLast ++ ['/'] := by decide
  have apart : '/' ∉ thingMark.toList := by decide
  have cut : t.pattern.toList = start.toList.dropLast ++
      '/' :: (thingMark.toList ++ '/' :: rest.toList) := by
    rw [pattern, placed, String.toList_append, String.toList_append, String.toList_append,
      ends start member]
    simp
  have front : ¬ thingMark.toList <:+: start.toList.dropLast := not_infix_of_brace fun inside =>
    plain start member (List.dropLast_subset _ inside)
  have behind : ¬ thingMark.toList <:+: '/' :: rest.toList := not_infix_of_brace
    (List.not_mem_cons_of_ne_of_not_mem (by decide) absent)
  rw [TopicTemplate.resolve, Text.replaceAll, cut,
    Text.replaceFrom_append_cons thingMark_ne_nil apart (Nat.zero_le _),
    Text.replaceFrom_of_absent front, Text.replaceFrom_mark thingMark_ne_nil,
    Text.replaceFrom_of_absent behind, ← String.toList_inj, String.toList_ofList, placed,
    String.toList_append, String.toList_append, String.toList_append, ends start member]
  simp

/-- An id has one place in a built-in topic. -/
theorem exists_placement (known : t ∈ topics) :
    ∃ start ∈ starts, ∃ rest, ∀ thing, t.resolve thing = placed start rest thing := by
  obtain ⟨start, member, rest, absent, pattern⟩ := placed_topics t known
  exact ⟨start, member, rest, resolve_placed member absent pattern⟩

/-- Two built-in topics of one thing are equal only if they are equal for every thing. -/
theorem resolve_eq_of_eq (known : t ∈ topics) (known' : u ∈ topics)
    (same : t.resolve thing = u.resolve thing) (other : String) :
    t.resolve other = u.resolve other := by
  obtain ⟨start, member, rest, topic⟩ := exists_placement known
  obtain ⟨start', member', rest', topic'⟩ := exists_placement known'
  rw [topic, topic'] at same ⊢
  have starts_eq : start = start' := by
    simp only [starts, List.mem_cons, List.not_mem_nil, or_false] at member member'
    rcases member with rfl | rfl <;> rcases member' with rfl | rfl
    · rfl
    -- The ninth character tells the starts apart, whatever the id is.
    · simp [placed, ← String.toList_inj] at same
    · simp [placed, ← String.toList_inj] at same
    · rfl
  subst starts_eq
  have rests_eq : rest = rest' := by simpa [placed] using same
  rw [rests_eq]

theorem eq_of_resolve_eq (known : t ∈ subscribeTemplates) (known' : u ∈ subscribeTemplates)
    (same : t.resolve thing = u.resolve thing) : t = u := by
  have patterns : t.pattern = u.pattern := by
    rw [← t.resolve_thingMark, ← u.resolve_thingMark]
    exact resolve_eq_of_eq (List.mem_append_left _ known) (List.mem_append_left _ known') same _
  have distinct : (subscribeTemplates.map (·.pattern)).Nodup := by decide +kernel
  exact List.inj_on_of_nodup_map distinct known known' patterns

end Builtin

/-! ## Looking a topic up -/

namespace Catalog

variable {t : TopicTemplate} {thing topic : String}

/-- A lookup takes the first of the templates with this topic. -/
theorem lookup_eq_some_iff (catalog : Catalog) :
    catalog.lookup thing topic = some t ↔
      t.resolve thing = topic ∧ ∃ before after, catalog.subscribe = before ++ t :: after ∧
        ∀ u ∈ before, u.resolve thing ≠ topic := by
  simp [lookup, List.find?_eq_some_iff_append]

theorem lookup_eq_none_iff (catalog : Catalog) :
    catalog.lookup thing topic = none ↔ ∀ t ∈ catalog.subscribe, t.resolve thing ≠ topic := by
  simp [lookup]

/-- The topic of some template is found, maybe by another template. -/
theorem isSome_lookup_resolve {catalog : Catalog} (known : t ∈ catalog.subscribe) :
    (catalog.lookup thing (t.resolve thing)).isSome := by
  rw [Option.isSome_iff_ne_none, ne_eq, lookup_eq_none_iff]
  exact fun missed => missed t known rfl

/-- Where no two templates have one topic, a topic leads back to its template. -/
theorem lookup_resolve {catalog : Catalog}
    (unique : ∀ u ∈ catalog.subscribe, u.resolve thing = t.resolve thing → u = t)
    (known : t ∈ catalog.subscribe) : catalog.lookup thing (t.resolve thing) = some t := by
  obtain ⟨u, found⟩ := Option.isSome_iff_exists.1 (isSome_lookup_resolve known)
  obtain ⟨same, before, after, split, -⟩ := catalog.lookup_eq_some_iff.1 found
  rw [found, unique u (by simp [split]) same]

/-! ## Suggested subscriptions -/

theorem mem_suggestedFor {catalog : Catalog} {fresh : Nat → String} {s : Subscription}
    (suggested : s ∈ catalog.suggestedFor fresh thing) :
    ∃ t ∈ catalog.subscribe, s.topic = t.resolve thing ∧ s.name = some t.name := by
  obtain ⟨⟨t, n⟩, member, rfl⟩ := List.mem_map.1 suggested
  have known : t ∈ catalog.suggested := (List.mem_zipIdx' member).2 ▸ List.getElem_mem _
  exact ⟨t, (List.mem_filter.1 known).1, rfl, rfl⟩

theorem topics_suggestedFor (catalog : Catalog) (fresh : Nat → String) (thing : String) :
    (catalog.suggestedFor fresh thing).map (·.topic) =
      catalog.suggested.map (·.resolve thing) := by
  have each : ((·.topic) ∘ fun p : TopicTemplate × Nat => p.1.subscription (fresh p.2) thing) =
      (·.resolve thing) ∘ Prod.fst := rfl
  rw [suggestedFor, List.map_map, each, ← List.map_map, List.zipIdx_map_fst]

theorem nodup_suggestedFor {catalog : Catalog} {fresh : Nat → String}
    (distinct : catalog.subscribe.Nodup)
    (unique : ∀ t ∈ catalog.subscribe, ∀ u ∈ catalog.subscribe,
      t.resolve thing = u.resolve thing → t = u) :
    ((catalog.suggestedFor fresh thing).map (·.topic)).Nodup := by
  rw [topics_suggestedFor]
  refine List.Nodup.map_on (fun t member u member' => ?_) (distinct.filter _)
  exact unique t (List.mem_filter.1 member).1 u (List.mem_filter.1 member').1

/-! ## The law of lookups -/

/-- For the built-in templates a lookup inverts `resolve`, whatever the id of the thing is; in any
catalog it finds the first template for a topic, and every suggested topic. -/
theorem lookup_inverts_resolve (fresh : Nat → String) (thing : String) :
    (∀ t ∈ builtin.subscribe, builtin.lookup thing (t.resolve thing) = some t) ∧
    ((builtin.suggestedFor fresh thing).map (·.topic)).Nodup ∧
    (∀ s ∈ builtin.suggestedFor fresh thing,
      ∃ t, builtin.lookup thing s.topic = some t ∧ s.name = some t.name) ∧
    ∀ catalog : Catalog,
      (∀ topic t, catalog.lookup thing topic = some t ↔
        t.resolve thing = topic ∧ ∃ before after, catalog.subscribe = before ++ t :: after ∧
          ∀ u ∈ before, u.resolve thing ≠ topic) ∧
      (∀ topic, catalog.lookup thing topic = none ↔
        ∀ t ∈ catalog.subscribe, t.resolve thing ≠ topic) ∧
      ∀ s ∈ catalog.suggestedFor fresh thing, (catalog.lookup thing s.topic).isSome := by
  have unique : ∀ t ∈ builtin.subscribe, ∀ u ∈ builtin.subscribe,
      t.resolve thing = u.resolve thing → t = u := fun _ known _ known' =>
    Builtin.eq_of_resolve_eq known known'
  have found : ∀ t ∈ builtin.subscribe, builtin.lookup thing (t.resolve thing) = some t :=
    fun t known => lookup_resolve (fun u known' => unique u known' t known) known
  refine ⟨found, nodup_suggestedFor (by decide +kernel) unique, fun s suggested => ?_,
    fun catalog => ⟨fun _ _ => catalog.lookup_eq_some_iff, fun _ => catalog.lookup_eq_none_iff,
      fun s suggested => ?_⟩⟩
  · obtain ⟨t, known, topic, name⟩ := mem_suggestedFor suggested
    exact ⟨t, topic ▸ found t known, name⟩
  · obtain ⟨t, known, topic, -⟩ := mem_suggestedFor suggested
    exact topic ▸ isSome_lookup_resolve known

/-- An id that has the mark in itself is not replaced again, so its topics are found as well. -/
theorem lookup_inverts_resolve_for_mark :
    let presence := Builtin.subscribe "Common" "Presence" (Builtin.thingTopic "presence")
      false true false
    presence ∈ builtin.subscribe ∧
      builtin.lookup "a/{thingId}" "$iothub/things/a/{thingId}/presence" =
        some presence := by
  intro presence
  have known : presence ∈ builtin.subscribe := by decide +kernel
  have topic : presence.resolve "a/{thingId}" =
      "$iothub/things/a/{thingId}/presence" := by decide +kernel
  have found := (lookup_inverts_resolve (fun _ => "") "a/{thingId}").1 presence known
  exact ⟨known, topic ▸ found⟩

end Catalog

end DeviceConsole
