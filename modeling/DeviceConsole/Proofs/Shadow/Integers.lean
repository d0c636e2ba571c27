import DeviceConsole.Proofs.Number.Rounding
import DeviceConsole.Proofs.Shadow.Satisfaction

/-!
# Integers in a shadow

Numbers are compared as doubles, so of two integers a delta sees what 53 binary digits show.  This
file proves

* `DocumentValue.at?_diffEntries`, what a delta has at a path that leads to scalars on both sides;
* `ShadowState.integer_change_iff`, when a delta tells two integers apart, however deep they are;
* `ShadowState.integer_change_missed`, that it does not tell all of them.
-/

namespace DeviceConsole

namespace DocumentValue

/-! ## Scalars along a path -/

/-- Where a path leads to scalars on both sides, the delta has the wanted one or nothing. -/
theorem at?_diffEntries {path : List String} {want present : Json}
    {wanted reported : List (String × DocumentValue)} (formed : Formed wanted)
    (wants : (document wanted).at? path = some (.scalar want))
    (there : (document reported).at? path = some (.scalar present)) :
    (document (diffEntries reported wanted)).at? path =
      if sameScalar want present then none else some (.scalar want) := by
  induction path generalizing wanted reported with
  | nil => cases wants
  | cons name path ih =>
      have ordered := (formed_iff.1 formed).1
      rcases at?_cons_eq_some.1 wants with ⟨value, listed, wants⟩
      rcases at?_cons_eq_some.1 there with ⟨actual, found, there⟩
      rw [at?, get?_diffEntries reported ordered, listed, found, Option.bind_some]
      cases path with
      | nil =>
          -- The scalars meet under the last name.
          cases wants
          cases there
          rw [diffValue_scalar]
          split <;> rfl
      | cons next path =>
          obtain ⟨nested, rfl⟩ := eq_document_of_at? wants
          obtain ⟨existing, rfl⟩ := eq_document_of_at? there
          rw [bind_at?_diffValue]
          exact ih (closed_wellFormed.found formed listed) wants there

theorem sameScalar_ofInt_iff {i j : Int} :
    sameScalar (.ofInt i) (.ofInt j) = true ↔ Binary64.nearestInt i = Binary64.nearestInt j :=
  Binary64.sameValue_ofInt_iff

end DocumentValue

/-! ## Shadows -/

namespace ShadowState

open DocumentValue

/-- What a delta owes to an integer that is wanted in place of another one, or of itself. -/
def Tells (s : ShadowState) (path : List String) (i j : Int) : Prop :=
  (i ≠ j → s.delta.delta.at? path = some (.scalar (.ofInt i)) ∧ s.delta.hasDelta = true) ∧
    (i = j → s.delta.delta.at? path = none)

variable {s : ShadowState} {path : List String} {i j : Int}

theorem at?_delta_ofInt (formed : s.desired.WellFormed)
    (wanted : s.desired.at? path = some (.scalar (.ofInt i)))
    (present : s.reported.at? path = some (.scalar (.ofInt j))) :
    s.delta.delta.at? path =
      if Binary64.nearestInt i = Binary64.nearestInt j then none
      else some (.scalar (.ofInt i)) := by
  have found := at?_diffEntries formed wanted present
  simp only [sameScalar_ofInt_iff] at found
  exact found

/-- Two integers are told apart exactly if they do not become the same 53 binary digits. -/
theorem tells_iff (formed : s.desired.WellFormed)
    (wanted : s.desired.at? path = some (.scalar (.ofInt i)))
    (present : s.reported.at? path = some (.scalar (.ofInt j))) :
    s.Tells path i j ↔ i = j ∨ Binary64.nearestInt i ≠ Binary64.nearestInt j := by
  have found := at?_delta_ofInt formed wanted present
  constructor
  · intro tells
    by_cases same : i = j
    · exact .inl same
    · refine .inr fun alike => ?_
      have there := (tells.1 same).1
      rw [found, if_pos alike] at there
      cases there
  · intro differs
    constructor
    · intro other
      have there : s.delta.delta.at? path = some (.scalar (.ofInt i)) := by
        rw [found, if_neg (differs.resolve_left other)]
      cases path with
      | nil => cases wanted
      | cons name path => exact ⟨there, hasDelta_of_at? there⟩
    · rintro rfl
      rw [found, if_pos rfl]

/-- Where an integer is wanted and an integer is reported, the delta tells them apart exactly if
they are not rounded to the same 53 binary digits.  So it tells apart all integers up to the first
one that is rounded, and all those of 64 binary digits that differ by more than 2048. -/
theorem integer_change_iff (formed : s.desired.WellFormed)
    (wanted : s.desired.at? path = some (.scalar (.ofInt i)))
    (present : s.reported.at? path = some (.scalar (.ofInt j))) :
    (s.Tells path i j ↔ i = j ∨ Binary64.nearestInt i ≠ Binary64.nearestInt j) ∧
    (i.natAbs ≤ 2 ^ 53 → j.natAbs ≤ 2 ^ 53 → s.Tells path i j) ∧
    (i.natAbs < 2 ^ 64 → j.natAbs < 2 ^ 64 → 2048 < (i - j).natAbs → s.Tells path i j) := by
  have decides := tells_iff formed wanted present
  refine ⟨decides, ?_, ?_⟩
  · intro first second
    rw [decides, Binary64.nearestInt_of_le first, Binary64.nearestInt_of_le second]
    exact Decidable.em _
  · intro first second far
    rw [decides]
    exact .inr (Binary64.nearestInt_ne_of_lt first second far)

/-- Deep inside a shadow the largest integer of 64 binary digits is told from a distant one. -/
theorem integer_change_iff_nested :
    let desired : Document := ⟨[("a", .document [("n", .scalar (.ofInt 18446744073709551615))])]⟩
    let reported : Document :=
      ⟨[("a", .document [("m", .scalar .null), ("n", .scalar (.ofInt 18446744073709547520))])]⟩
    desired.WellFormed ∧
      desired.at? ["a", "n"] = some (.scalar (.ofInt 18446744073709551615)) ∧
      reported.at? ["a", "n"] = some (.scalar (.ofInt 18446744073709547520)) ∧
      Tells ⟨desired, reported⟩ ["a", "n"] 18446744073709551615 18446744073709547520 := by
  intro desired reported
  have formed : desired.WellFormed := ⟨by decide, ⟨by decide, trivial, trivial⟩, trivial⟩
  let s : ShadowState := ⟨desired, reported⟩
  have wanted : s.desired.at? ["a", "n"] = some (.scalar (.ofInt 18446744073709551615)) := rfl
  have present : s.reported.at? ["a", "n"] = some (.scalar (.ofInt 18446744073709547520)) := rfl
  have told := integer_change_iff formed wanted present
  exact ⟨formed, wanted, present, told.2.2 (by decide) (by decide) (by decide)⟩

/-- The first integer that a double does not hold is not told from the one before it. -/
theorem integer_change_missed :
    let desired : Document := ⟨[("n", .scalar (.ofInt 9007199254740993))]⟩
    let reported : Document := ⟨[("n", .scalar (.ofInt 9007199254740992))]⟩
    let s : ShadowState := ⟨desired, reported⟩
    desired.WellFormed ∧ desired.at? ["n"] = some (.scalar (.ofInt 9007199254740993)) ∧
      reported.at? ["n"] = some (.scalar (.ofInt 9007199254740992)) ∧
      s.delta.hasDelta = false ∧ ¬ s.Tells ["n"] 9007199254740993 9007199254740992 := by
  intro desired reported s
  have quiet : s.delta.hasDelta = false := by decide +kernel
  refine ⟨⟨by decide, trivial, trivial⟩, rfl, rfl, quiet, fun tells => ?_⟩
  have raised := (tells.1 (by decide)).2
  rw [quiet] at raised
  cases raised

end ShadowState

end DeviceConsole
