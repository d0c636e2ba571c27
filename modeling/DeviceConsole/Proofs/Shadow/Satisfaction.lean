import DeviceConsole.Proofs.Shadow.Paths
import DeviceConsole.Proofs.Shadow.WellFormed

/-!
# What a delta asks for

A delta asks for what is wanted and not yet reported, and for nothing besides.  This file defines

* `DocumentValue.Satisfied wanted actual`: the reported value leaves nothing to ask for;
* `DocumentValue.remainder wanted actual`: what is left to ask for if it does not;

and proves

* `DocumentValue.diffValue_eq_none_iff` and `DocumentValue.diffValue_eq_some_iff`, that the two say
  what the comparison does;
* `DocumentValue.not_satisfied_dropAt`, that no value in a delta can be spared;
* `ShadowState.delta_exact`, both for whole shadows.
-/

namespace DeviceConsole

namespace DocumentValue

variable {entries missing nested existing : List (String × DocumentValue)}
  {wanted value : DocumentValue} {actual : Option DocumentValue} {name : String}
  {path : List String} {leaf : Json}

/-! ## The relation -/

/-- When a value that may be reported leaves nothing to ask for. -/
inductive Satisfied : DocumentValue → Option DocumentValue → Prop where
  | document {nested existing : List (String × DocumentValue)} :
      (∀ entry ∈ nested, Satisfied entry.2 (KeyList.get? entry.1 existing)) →
      Satisfied (.document nested) (some (.document existing))
  /-- What shall not be there is not there. -/
  | null : Satisfied (.scalar .null) none
  | scalar {want present : Json} :
      sameScalar want present = true → Satisfied (.scalar want) (some (.scalar present))

/-- What is asked for where the reported value does not satisfy the wanted one: of two documents the
pending changes, else all that is wanted. -/
def remainder (wanted : DocumentValue) (actual : Option DocumentValue) : DocumentValue :=
  match wanted, actual with
  | .document nested, some (.document existing) =>
    (ShadowState.delta ⟨⟨nested⟩, ⟨existing⟩⟩).delta.toValue
  | wanted, _ => wanted

theorem satisfied_document_iff :
    Satisfied (.document nested) (some (.document existing)) ↔
      ∀ entry ∈ nested, entry.2.Satisfied (KeyList.get? entry.1 existing) := by
  constructor
  · intro h
    cases h with
    | document each => exact each
  · exact .document

theorem satisfied_none_iff : wanted.Satisfied none ↔ wanted = .scalar .null := by
  constructor
  · intro h
    cases h
    rfl
  · rintro rfl
    exact .null

theorem satisfied_scalar_iff {want present : Json} :
    Satisfied (.scalar want) (some (.scalar present)) ↔ sameScalar want present = true := by
  constructor
  · intro h
    cases h with
    | scalar same => exact same
  · exact .scalar

theorem not_satisfied_scalar {present : Json} :
    ¬ Satisfied (.document nested) (some (.scalar present)) := by
  intro h
  cases h

theorem not_satisfied_document {want : Json} :
    ¬ Satisfied (.scalar want) (some (.document existing)) := by
  intro h
  cases h

/-! ## The comparison decides it -/

theorem diffValue_none (proper : wanted ≠ .scalar .null) :
    diffValue wanted none = some wanted := by
  cases wanted with
  | document nested => rfl
  | scalar value =>
      cases value with
      | null => exact absurd rfl proper
      | bool | num | str | arr | obj => rfl

/-- Nothing is asked for exactly of a value that satisfies. -/
theorem diffValue_eq_none_iff (wanted : DocumentValue) (actual : Option DocumentValue) :
    diffValue wanted actual = none ↔ wanted.Satisfied actual := by
  induction wanted using induction generalizing actual with
  | document nested ih =>
      rcases actual with _ | existing | present
      · simp [diffValue, satisfied_none_iff]
      · -- The delta of two documents is empty if no wanted entry asks for anything.
        have each : (diffEntries existing nested).isEmpty = true ↔
            ∀ entry ∈ nested, entry.2.Satisfied (KeyList.get? entry.1 existing) := by
          rw [List.isEmpty_iff, diffEntries_eq_nil_iff]
          exact forall₂_congr fun entry member => ih entry member _
        rw [diffValue_document, satisfied_document_iff, ← each]
        split <;> simp_all
      · simp [diffValue, not_satisfied_scalar]
  | scalar want =>
      rcases actual with _ | existing | present
      · cases want with
        | null => exact ⟨fun _ => .null, fun _ => rfl⟩
        | bool | num | str | arr | obj => simp [diffValue, satisfied_none_iff]
      · simp [diffValue_scalar_document, not_satisfied_document]
      · rw [satisfied_scalar_iff, diffValue_scalar]
        split <;> simp_all

/-- What is asked for is the remainder. -/
theorem eq_remainder_of_diffValue (asked : diffValue wanted actual = some value) :
    value = wanted.remainder actual := by
  match wanted, actual with
  | .document nested, some (.document existing) =>
      rw [diffValue_document] at asked
      split at asked
      · cases asked
      · cases asked
        rfl
  | .document nested, none => cases asked; rfl
  | .document nested, some (.scalar _) => cases asked; rfl
  | .scalar want, actual =>
      rcases diffValue_cases asked with rfl | ⟨_, _, same, -, -⟩
      · rfl
      · cases same

/-- A value is asked for exactly if it is the remainder of one that is not satisfied. -/
theorem diffValue_eq_some_iff :
    diffValue wanted actual = some value ↔
      ¬ wanted.Satisfied actual ∧ value = wanted.remainder actual := by
  rw [← diffValue_eq_none_iff]
  constructor
  · intro asked
    exact ⟨by simp [asked], eq_remainder_of_diffValue asked⟩
  · rintro ⟨some, rfl⟩
    rcases Option.ne_none_iff_exists'.1 some with ⟨value, asked⟩
    rw [asked, eq_remainder_of_diffValue asked]

/-! ## Paths in a delta -/

/-- Nothing is asked for at a path at which nothing is wanted. -/
theorem isSome_at?_of_diffValue (asked : diffValue wanted actual = some value)
    (formed : wanted.WellFormed) (found : (value.at? path).isSome) :
    (wanted.at? path).isSome := by
  induction path generalizing wanted actual value with
  | nil => rfl
  | cons name path ih =>
      rcases diffValue_cases asked with rfl | ⟨nested, existing, rfl, rfl, rfl⟩
      · exact found
      · have ordered := (formed_iff.1 formed).1
        rcases Option.isSome_iff_exists.1 found with ⟨last, found⟩
        rcases at?_cons_eq_some.1 found with ⟨inner, here, further⟩
        rw [get?_diffEntries existing ordered, Option.bind_eq_some_iff] at here
        rcases here with ⟨want, listed, asked⟩
        have within := closed_wellFormed.found formed listed
        rw [at?, listed, Option.bind_some]
        exact ih asked within (by simp [further])

/-! ## Nothing can be spared -/

/-- An entry in what a document asks for is asked for by the entry of that name in it. -/
theorem diffValue_of_get? (asked : diffValue wanted actual = some (.document missing))
    (formed : wanted.WellFormed) (found : KeyList.get? name missing = some value)
    (proper : value ≠ .scalar .null) :
    ∃ nested want, wanted = .document nested ∧ KeyList.get? name nested = some want ∧
      diffValue want (KeyList.get? name (entriesOf actual)) = some value := by
  have whole := eq_remainder_of_diffValue asked
  match wanted, actual with
  | .scalar _, _ => cases whole
  | .document nested, some (.document existing) =>
      cases whole
      have within : KeyList.get? name (diffEntries existing nested) = some value := found
      rw [get?_diffEntries existing (formed_iff.1 formed).1, Option.bind_eq_some_iff] at within
      rcases within with ⟨want, listed, asked⟩
      exact ⟨nested, want, rfl, listed, asked⟩
  -- Where no document is reported, all of the wanted one is asked for.
  | .document nested, none =>
      cases whole
      exact ⟨missing, value, rfl, found, diffValue_none proper⟩
  | .document nested, some (.scalar _) =>
      cases whole
      exact ⟨missing, value, rfl, found, diffValue_none proper⟩

/-- If a value other than null is left out of what is asked for, the patch with the rest does not
satisfy. -/
theorem not_satisfied_dropAt (asked : diffValue wanted actual = some (.document missing))
    (formed : wanted.WellFormed) (found : (document missing).at? path = some (.scalar leaf))
    (proper : leaf ≠ .null) :
    ¬ wanted.Satisfied (patchedValue actual (.document (dropAt path missing))) := by
  have ordered : KeyList.Ordered missing :=
    (formed_iff.1 (wellFormed_missing wanted formed actual _ asked)).1
  intro satisfied
  induction path generalizing wanted actual missing with
  | nil => cases found
  | cons name path ih =>
      rcases at?_cons_eq_some.1 found with ⟨inner, here, further⟩
      have other : inner ≠ .scalar .null := by
        rintro rfl
        cases path with
        | nil =>
            cases further
            exact proper rfl
        | cons => cases further
      rcases diffValue_of_get? asked formed here other with ⟨nested, want, rfl, listed, asked⟩
      have within := closed_wellFormed.found formed listed
      rw [patchedValue_document, satisfied_document_iff] at satisfied
      have after := satisfied _ (KeyList.mem_of_get? listed)
      have kept := ordered_dropAt ordered (name :: path)
      rw [get?_patchEntries _ kept] at after
      cases path with
      | nil =>
          -- Without its entry the value stays as it was, and that did not satisfy.
          rw [dropAt, KeyList.get?_erase, if_pos rfl] at after
          exact (diffValue_eq_some_iff.1 asked).1 after
      | cons next path =>
          -- What is left of the entry is the patch of a document with less than it asks for.
          rcases eq_document_of_at? further with ⟨entries, rfl⟩
          rw [dropAt_cons_cons here, KeyList.get?_insert, if_pos rfl] at after
          exact ih asked within further
            (formed_iff.1 (wellFormed_missing want within _ _ asked)).1 after

end DocumentValue

/-! ## Shadows -/

namespace ShadowState

open DocumentValue

/-- There is no delta exactly if the reported document satisfies the desired one. -/
theorem hasDelta_eq_false_iff (s : ShadowState) :
    s.delta.hasDelta = false ↔ s.desired.toValue.Satisfied (some s.reported.toValue) := by
  rw [Document.toValue, Document.toValue, ← diffValue_eq_none_iff, diffValue_document]
  cases missing : diffEntries s.reported.entries s.desired.entries with
  | nil => simp [delta, missing, Document.isEmpty]
  | cons => simp [delta, missing, Document.isEmpty]

/-- A delta with something in it is what the reported document is asked for. -/
theorem diffValue_of_at? {s : ShadowState} {name : String} {path : List String}
    {value : DocumentValue} (found : s.delta.delta.at? (name :: path) = some value) :
    diffValue s.desired.toValue (some s.reported.toValue) = some s.delta.delta.toValue := by
  rw [Document.toValue, Document.toValue, diffValue_document]
  split
  · next empty =>
      have nothing : s.delta.delta.entries = [] := List.isEmpty_iff.1 empty
      rw [Document.at?, Document.toValue, nothing] at found
      cases found
  · rfl

theorem hasDelta_of_at? {s : ShadowState} {name : String} {path : List String}
    {value : DocumentValue} (found : s.delta.delta.at? (name :: path) = some value) :
    s.delta.hasDelta = true := by
  rw [← Bool.not_eq_false, hasDelta_eq_false_iff, ← diffValue_eq_none_iff, diffValue_of_at? found]
  exact Option.some_ne_none _

/-- A delta asks under each name for what is wanted and not satisfied: of two documents for the
delta of one against the other, else for all that is wanted.  It has no path that the desired
document does not have, and without any of its values other than null it would not do. -/
theorem delta_exact (s : ShadowState) (formed : s.desired.WellFormed) :
    (s.delta.hasDelta = false ↔
      ∀ name wanted, s.desired.get? name = some wanted →
        wanted.Satisfied (s.reported.get? name)) ∧
    (∀ name missing, s.delta.delta.get? name = some missing ↔
      ∃ wanted, s.desired.get? name = some wanted ∧
        ¬ wanted.Satisfied (s.reported.get? name) ∧
        missing = wanted.remainder (s.reported.get? name)) ∧
    (∀ path, (s.delta.delta.at? path).isSome → (s.desired.at? path).isSome) ∧
    ∀ path leaf, s.delta.delta.at? path = some (.scalar leaf) → leaf ≠ .null →
      (delta ⟨s.desired, s.reported.patch (s.delta.delta.dropAt path)⟩).hasDelta = true := by
  have ordered : KeyList.Ordered s.desired.entries := (formed_iff.1 formed).1
  refine ⟨?_, ?_, ?_, ?_⟩
  · rw [hasDelta_eq_false_iff, Document.toValue, Document.toValue, satisfied_document_iff]
    constructor
    · intro each name wanted found
      exact each (name, wanted) (KeyList.mem_of_get? found)
    · intro each entry member
      exact each entry.1 entry.2 (KeyList.get?_of_mem ordered member)
  · intro name missing
    have asked : s.delta.delta.get? name = _ := get?_diffEntries s.reported.entries ordered name
    simp only [asked, Option.bind_eq_some_iff, diffValue_eq_some_iff]
    rfl
  · intro path found
    cases path with
    | nil => rfl
    | cons name path =>
        rcases Option.isSome_iff_exists.1 found with ⟨value, there⟩
        exact isSome_at?_of_diffValue (diffValue_of_at? there) formed found
  · intro path leaf found proper
    cases path with
    | nil => cases found
    | cons name path =>
        rw [← Bool.not_eq_false, hasDelta_eq_false_iff]
        exact not_satisfied_dropAt (diffValue_of_at? found) formed found proper

/-- Of a document that is there only what differs is asked for, and of an integer reported as a
double nothing; an empty document is asked for in place of a text. -/
theorem delta_exact_nested :
    let nested : List (String × DocumentValue) :=
      [("x", .scalar .null), ("y", .scalar (.bool true))]
    let desired : Document :=
      ⟨[("a", .document nested), ("b", .document []), ("c", .scalar (.ofInt 1))]⟩
    let reported : Document :=
      ⟨[("a", .document [("y", .scalar (.bool false)), ("z", .scalar .null)]),
      ("b", .scalar (.str "")), ("c", .scalar (.num (.float (Binary64.ofInt 1))))]⟩
    let s : ShadowState := ⟨desired, reported⟩
    desired.WellFormed ∧ s.delta.hasDelta = true ∧
      s.delta.delta.get? "a" = some (.document [("y", .scalar (.bool true))]) ∧
      s.delta.delta.get? "b" = some (.document []) ∧ s.delta.delta.get? "c" = none ∧
      (delta ⟨desired, reported.patch (s.delta.delta.dropAt ["a", "y"])⟩).hasDelta = true := by
  intro nested desired reported s
  have inner : DocumentValue.WellFormed (.document nested) := ⟨by decide, trivial, trivial, trivial⟩
  have formed : desired.WellFormed := ⟨by decide, inner, ⟨.nil, trivial⟩, trivial, trivial⟩
  rcases delta_exact s formed with ⟨empty, asked, -, spared⟩
  have first : ¬ Satisfied (.document nested) (reported.get? "a") := by
    intro satisfied
    cases satisfied with
    | document each => exact nomatch each ("y", .scalar (.bool true)) (by simp [nested])
  have third : Satisfied (.scalar (.ofInt 1)) (reported.get? "c") :=
    .scalar (Binary64.sameValue_self (Binary64.ofInt 1))
  have whole : s.delta.delta.get? "a" = some (.document [("y", .scalar (.bool true))]) :=
    (asked "a" _).2 ⟨.document nested, rfl, first, rfl⟩
  refine ⟨formed, ?_, whole, (asked "b" _).2 ⟨.document [], rfl, nofun, rfl⟩, ?_, ?_⟩
  · rw [← Bool.not_eq_false, empty]
    exact fun each => first (each "a" _ rfl)
  · rw [Option.eq_none_iff_forall_ne_some]
    intro missing found
    rcases (asked "c" missing).1 found with ⟨wanted, listed, unsatisfied, -⟩
    cases listed
    exact unsatisfied third
  · refine spared ["a", "y"] (.bool true) ?_ nofun
    rw [Document.at?, Document.toValue, at?, show KeyList.get? "a" _ = _ from whole]
    rfl

end ShadowState

end DeviceConsole
