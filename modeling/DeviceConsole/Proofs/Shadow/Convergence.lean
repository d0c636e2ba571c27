import DeviceConsole.Proofs.Shadow.Lookup

/-!
# Deltas converge

A thing that takes over the delta of its shadow has nothing left to do.  This file proves

* `Json.sameValue_self` and `DocumentValue.sameScalar_self`, that comparisons are reflexive;
* `DocumentValue.satisfied_self`, that a value which is patched in asks for nothing more;
* `DocumentValue.satisfied_missing`, the same of what a wanted value asks for;
* that the delta after its own delta is empty.
-/

namespace DeviceConsole

/-! ## Comparisons are reflexive -/

theorem Number.sameKind_self (n : Number) : n.sameKind n = true := by
  cases n with
  | int i => exact decide_eq_true rfl
  | float x => exact Binary64.sameValue_self x

namespace Json

mutual

theorem sameValue_self : (v : Json) → v.sameValue v = true
  | .null => rfl
  | .bool b => by simp [sameValue]
  | .num n => Number.sameKind_self n
  | .str text => by simp [sameValue]
  | .arr items => sameItems_self items
  | .obj members => sameMembers_self members

theorem sameItems_self : (items : List Json) → sameItems items items = true
  | [] => rfl
  | item :: rest => by
      rw [sameItems, sameValue_self item, sameItems_self rest]
      rfl

theorem sameMembers_self : (members : List (String × Json)) → sameMembers members members = true
  | [] => rfl
  | (name, value) :: rest => by
      rw [sameMembers, sameValue_self value, sameMembers_self rest]
      simp

end

end Json

namespace DocumentValue

theorem sameScalar_self (value : Json) : sameScalar value value = true := by
  cases value with
  | num n => exact Binary64.sameValue_self n.toBinary64
  | null | bool | str | arr | obj => exact Json.sameValue_self _

/-! ## What is patched in asks for nothing more -/

/-- After a patch a document asks for nothing, if none of its values does. -/
theorem satisfied_entries {wanted : List (String × DocumentValue)}
    (ordered : KeyList.Ordered wanted) (existing : List (String × DocumentValue))
    (values : ∀ entry ∈ wanted, ∀ old, diffValue entry.2 (patchedValue old entry.2) = none) :
    diffEntries (patchEntries existing wanted) wanted = [] := by
  rw [diffEntries_eq_nil_iff]
  intro entry member
  rw [get?_patchEntries existing ordered, KeyList.get?_of_mem ordered member]
  exact values entry member _

/-- A value that is patched in asks for nothing more, whatever was there before. -/
theorem satisfied_self (wanted : DocumentValue) (formed : wanted.WellFormed)
    (old : Option DocumentValue) : diffValue wanted (patchedValue old wanted) = none := by
  induction wanted using induction generalizing old with
  | document entries ih =>
      rcases formed with ⟨ordered, values⟩
      have each := entriesWellFormed_iff.1 values
      have done := fun existing => satisfied_entries ordered existing fun entry member =>
        ih entry member (each entry member)
      simp only [patchedValue, diffValue, done]
  | scalar value =>
      cases value with
      | null => rfl
      | bool | num | str | arr | obj => simp [patchedValue, diffValue, sameScalar_self]

/-! ## What is asked for is enough -/

/-- After the patch by its delta a document asks for nothing, if each of its values is satisfied
by what it asks for. -/
theorem satisfied_delta {wanted : List (String × DocumentValue)}
    (ordered : KeyList.Ordered wanted) (reported : List (String × DocumentValue))
    (values : ∀ entry ∈ wanted, ∀ actual missing, diffValue entry.2 actual = some missing →
      diffValue entry.2 (patchedValue actual missing) = none) :
    diffEntries (patchEntries reported (diffEntries reported wanted)) wanted = [] := by
  rw [diffEntries_eq_nil_iff]
  intro entry member
  rw [get?_patchEntries reported (ordered_diffEntries reported ordered),
    get?_diffEntries reported ordered, KeyList.get?_of_mem ordered member, Option.bind_some]
  cases asked : diffValue entry.2 (KeyList.get? entry.1 reported) with
  | none => exact asked
  | some missing => exact values entry member _ missing asked

/-- What a wanted value asks for satisfies it once it is patched in. -/
theorem satisfied_missing (wanted : DocumentValue) (formed : wanted.WellFormed)
    (actual : Option DocumentValue) (missing : DocumentValue)
    (asked : diffValue wanted actual = some missing) :
    diffValue wanted (patchedValue actual missing) = none := by
  induction wanted using induction generalizing actual missing with
  | document entries ih =>
      -- The document is patched in as a whole, or its delta into the document that is there.
      rcases diffValue_cases asked with rfl | ⟨nested, existing, same, rfl, rfl⟩
      · exact satisfied_self _ formed actual
      · cases same
        rcases formed with ⟨ordered, values⟩
        have each := entriesWellFormed_iff.1 values
        have done := satisfied_delta ordered existing fun entry member =>
          ih entry member (each entry member)
        simp only [patchedValue, diffValue, done]
  | scalar value =>
      rcases diffValue_cases asked with rfl | ⟨nested, existing, same, -, -⟩
      · exact satisfied_self _ formed actual
      · cases same

end DocumentValue

/-! ## Shadows -/

namespace ShadowState

/-- Once the reported document took over the delta, the delta is empty. -/
theorem delta_patch_delta (desired reported : Document) (formed : desired.WellFormed) :
    delta ⟨desired, reported.patch (delta ⟨desired, reported⟩).delta⟩ = ⟨false, .empty⟩ := by
  rcases formed with ⟨ordered, values⟩
  have each := DocumentValue.entriesWellFormed_iff.1 values
  have done := DocumentValue.satisfied_delta ordered reported.entries fun entry member =>
    DocumentValue.satisfied_missing entry.2 (each entry member)
  simp only [delta, Document.patch, done]
  rfl

/-- A document with a null inside it replaces a text, and a null removes a document. -/
theorem delta_patch_delta_nested :
    let desired : Document :=
      ⟨[("a", .document [("x", .scalar .null), ("y", .scalar (.ofNat 1))]), ("b", .scalar .null)]⟩
    let reported : Document := ⟨[("a", .scalar (.str "")), ("b", .document [])]⟩
    desired.WellFormed ∧ (delta ⟨desired, reported⟩).hasDelta = true ∧
      delta ⟨desired, reported.patch (delta ⟨desired, reported⟩).delta⟩ = ⟨false, .empty⟩ := by
  intro desired reported
  have inner : DocumentValue.WellFormed
      (.document [("x", .scalar .null), ("y", .scalar (.ofNat 1))]) :=
    ⟨by decide, trivial, trivial, trivial⟩
  have formed : desired.WellFormed := ⟨by decide, inner, trivial, trivial⟩
  exact ⟨formed, rfl, delta_patch_delta desired reported formed⟩

end ShadowState

end DeviceConsole
