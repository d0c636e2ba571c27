import DeviceConsole.Proofs.Catalog.Forms

/-!
# What example payloads say

The marks of a skeleton are replaced as text, and the id of a thing is not escaped for that.  So it
depends on the id whether a payload is the JSON that its template shows.  This file defines:

* `PublishTemplate.Truthful`: the payload is JSON, with the id and the time in their places.

`PublishTemplate.truthful_iff_embeds` tells for which things this is so.  That the id has to embed
is shown by counting: every escape, and every mark that a later pass takes away, would leave the
payload with fewer characters of some kind than the id that is read from it.
-/

namespace DeviceConsole

open Text Json

namespace PublishTemplate

/-- Whether the example payload is JSON and has the id of the thing and the time wherever the form
of the template has their marks. -/
def Truthful (t : PublishTemplate) (thing : String) (now : Int) (token : String) : Prop :=
  ∃ form v, t.form? = some form ∧ parse? (t.payload thing now token) = some v ∧ ∀ path,
    (form.canonical.at? path = some (.str thingMark) →
      v.canonical.at? path = some (.str thing)) ∧
    (form.canonical.at? path = some (.str timeMark) → v.canonical.at? path = some (.ofInt now))

variable {t : PublishTemplate} {thing token : String} {now : Int} {form : Json} {c : Char}
  {front back : List Char}

/-! ## Ids that embed -/

theorem truthful_of_shows (shows : t.Shows form) (low : -(2 ^ 63) ≤ now) (high : now < 2 ^ 63)
    (hex : ∀ c ∈ token.toList, (hexDigit? c).isSome) (embeds : t.NamesThing → Embeds thing) :
    t.Truthful thing now token := by
  have leaf : ∀ text, (filling thing (.ofInt now) token text).canonical =
      filling thing (.ofInt now) token text := by
    intro text
    unfold filling
    split_ifs <;> rfl
  have flat : ∀ text name, (filling thing (.ofInt now) token text).member? name = none := by
    intro text name
    unfold filling
    split_ifs <;> rfl
  refine ⟨form, _, shows.form?, shows.payload low high hex embeds, fun path => ?_⟩
  rw [canonical_fill leaf, at?_fill flat]
  constructor
  · intro here
    rw [here]
    rfl
  · intro here
    rw [here]
    rfl

/-! ## Ids that do not fit -/

theorem isTelling_render_ofInt : ∀ c ∈ (Json.ofInt now).render, isTelling c = false := by
  intro c member
  rw [Bool.eq_false_iff]
  intro telling
  simp only [isTelling, Bool.or_eq_true, decide_eq_true_eq] at telling
  rcases telling with (rfl | rfl) | rfl <;>
    exact not_mem_render_ofInt (by decide) (by decide) member

theorem isTelling_of_hex (hex : (hexDigit? c).isSome) : isTelling c = false := by
  rw [Bool.eq_false_iff]
  intro telling
  simp only [isTelling, Bool.or_eq_true, decide_eq_true_eq] at telling
  rcases telling with (rfl | rfl) | rfl <;> cases hex

section Telling

variable {p : Char → Bool} (telling : ∀ c, p c = true → isTelling c = true)

include telling in
theorem not_of_isTelling (dull : isTelling c = false) : ¬ p c = true :=
  fun holds => Bool.eq_false_iff.1 dull (telling c holds)

include telling in
/-- The later passes bring in nothing telling. -/
theorem countP_embedded_le (thing : String) (now : Int)
    (hex : ∀ c ∈ token.toList, (hexDigit? c).isSome) :
    (embedded thing now token).countP p ≤
        (replaceFrom timeMark.toList (Json.ofInt now).render 0 thing.toList).countP p ∧
      (replaceFrom timeMark.toList (Json.ofInt now).render 0 thing.toList).countP p ≤
        thing.toList.countP p :=
  ⟨countP_replaceFrom_le (by decide) fun c member =>
      not_of_isTelling telling (isTelling_of_hex (hex c member)),
    countP_replaceFrom_le (by decide) fun c member =>
      not_of_isTelling telling (isTelling_render_ofInt c member)⟩

include telling in
/-- All that is telling in a payload has come with the id. -/
theorem NamesOnce.countP_surrounded (once : t.NamesOnce front back) :
    (surrounded front back thing now token).countP p = (embedded thing now token).countP p := by
  have clean : ∀ c ∈ front ++ replaceFrom timeMark.toList [] 0 back, ¬ p c = true := by
    intro c member
    have dull := List.any_eq_false.1 once.clean c member
    exact not_of_isTelling telling (Bool.eq_false_iff.2 dull)
  have before : front.countP p = 0 :=
    List.countP_eq_zero.2 fun c member => clean c (List.mem_append_left _ member)
  have after : (replaceFrom timeMark.toList (Json.ofInt now).render 0 back).countP p = 0 :=
    List.countP_eq_zero.2 fun c member => (mem_replaceFrom member).elim
      (fun digit => not_of_isTelling telling (isTelling_render_ofInt c digit))
      (fun kept => clean c (List.mem_append_right _ kept))
  have quote : ¬ p '"' = true := not_of_isTelling telling rfl
  rw [surrounded, List.countP_append, List.countP_cons_of_neg quote, List.countP_append,
    List.countP_cons_of_neg quote, before, after]
  omega

end Telling

/-- If the id can be read from the payload, then it is spelled there. -/
theorem NamesOnce.spelledIn_of_truthful (name : String) (once : t.NamesOnce front back)
    (shows : t.Shows form) (place : form.canonical.at? [name] = some (.str thingMark))
    (truthful : t.Truthful thing now token) :
    SpelledIn (surrounded front back thing now token) (.str thing) := by
  obtain ⟨form, v, same, read, paths⟩ := truthful
  obtain rfl := Option.some.inj (shows.form?.symm.trans same)
  have found := (paths [name]).1 place
  rw [← String.ofList_toList (s := t.payload thing now token), once.payload_toList] at read
  obtain ⟨members, rfl, spelled⟩ := exists_of_parse?_brace read
  obtain ⟨value, member, text⟩ := exists_of_member?_canonical (at?_singleton.symm.trans found)
  obtain rfl := eq_str_of_canonical text
  exact spelled _ member

theorem NamesOnce.embeds_of_spelledIn (once : t.NamesOnce front back)
    (hex : ∀ c ∈ token.toList, (hexDigit? c).isSome)
    (spelled : SpelledIn (surrounded front back thing now token) (.str thing)) : Embeds thing := by
  obtain ⟨written, inside, spells⟩ := spelled
  -- An escape has more telling characters than it stands for, and the text has no more than the id.
  have signs : ∀ c, (c = '\\' || c = 'u') = true → isTelling c = true := by
    intro c sign
    simp only [isTelling, Bool.or_assoc, sign, Bool.or_true]
  have cheap : escapeSigns written ≤ escapeSigns thing.toList := by
    have all : escapeSigns written ≤ escapeSigns _ := inside.sublist.countP_le
    have passes := countP_embedded_le signs thing now hex
    rw [escapeSigns, escapeSigns, once.countP_surrounded signs] at all
    exact all.trans (passes.1.trans passes.2)
  obtain ⟨rfl, plain⟩ := spells.eq_of_le cheap
  -- A mark in the id would be taken away, and no bracket comes back for it.
  have opens : ∀ c, decide (c = '\x7b') = true → isTelling c = true := by
    intro c bracket
    simp only [isTelling, bracket, Bool.true_or]
  have kept : thing.toList.countP (fun c => decide (c = '\x7b')) ≤ List.countP _ _ :=
    inside.sublist.countP_le
  rw [once.countP_surrounded opens] at kept
  have passes := countP_embedded_le opens thing now hex
  have timeless : ¬ timeMark.toList <:+: thing.toList := fun marked =>
    Nat.not_lt.2 (kept.trans passes.1) (countP_replaceFrom_lt ⟨'\x7b', by decide, rfl⟩
      (fun c member => not_of_isTelling opens (isTelling_render_ofInt c member)) marked)
  refine ⟨List.all_eq_true.2 plain, timeless, fun marked => Nat.not_lt.2 kept ?_⟩
  rw [embedded, replaceFrom_of_absent timeless]
  exact countP_replaceFrom_lt ⟨'\x7b', by decide, rfl⟩
    (fun c member => not_of_isTelling opens (isTelling_of_hex (hex c member))) marked

/-! ## All ids -/

/-- A payload says what it should, unless the template has a place for the id and the id does not
embed. -/
theorem truthful_iff_embeds (known : t ∈ Catalog.builtin.publish) (low : -(2 ^ 63) ≤ now)
    (high : now < 2 ^ 63) (hex : ∀ c ∈ token.toList, (hexDigit? c).isSome) :
    t.Truthful thing now token ↔ (t.NamesThing → Embeds thing) := by
  constructor
  · intro truthful names
    have once := namesOnce_of_namesThing known names
    exact once.embeds_of_spelledIn hex
      (once.spelledIn_of_truthful "thingId" once.shows_presence rfl truthful)
  · intro embeds
    obtain ⟨form, shows⟩ := exists_form known
    exact truthful_of_shows shows low high hex embeds

/-- An id with the mark of the thing does no harm, one with the mark of the time does. -/
theorem truthful_iff_embeds_of_marks :
    Builtin.publishTemplates[4].Truthful "{thingId}" 1 "0a" ∧
      ¬ Builtin.publishTemplates[4].Truthful "{now}" 1 "0a" := by
  have known : Builtin.publishTemplates[4] ∈ Catalog.builtin.publish := List.getElem_mem _
  have names := (namesOnce_of_cut skeleton_presence).namesThing
  have hex : ∀ c ∈ "0a".toList, (hexDigit? c).isSome := List.all_eq_true.1 (by decide)
  constructor
  · exact (truthful_iff_embeds known (by decide) (by decide) hex).2 fun _ => by decide
  · intro truthful
    have embeds := (truthful_iff_embeds known (by decide) (by decide) hex).1 truthful names
    exact absurd embeds (by decide)

/-- A quote in the id ends the text too early. -/
theorem presence_of_quote : Builtin.publishTemplates[4] ∈ Catalog.builtin.publish ∧
    parse? (Builtin.publishTemplates[4].payload "a\"b" 1 "0a") = none := by
  refine ⟨List.getElem_mem _, Option.isNone_iff_eq_none.1 ?_⟩
  rw [parse?, parse, (namesOnce_of_cut skeleton_presence).payload_toList]
  decide +kernel

end PublishTemplate

end DeviceConsole
