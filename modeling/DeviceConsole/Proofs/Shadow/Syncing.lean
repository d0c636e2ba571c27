import DeviceConsole.Proofs.Shadow.Convergence
import DeviceConsole.Proofs.Shadow.Paths
import DeviceConsole.Proofs.Shadow.WellFormed

/-!
# Syncing through the delta

A thing that takes over the delta comes out where it would with the whole desired document.  This
file defines

* `DocumentValue.withoutNulls`, a value without the names that hold null, in every document of it;
* `DocumentValue.Alike`: the same names at every level, with the same scalars under them;

and proves

* `DocumentValue.alike_settled`, for a single value and what it is asked for;
* `ShadowState.patch_delta_alike`, for whole shadows, and that names which are not wanted keep their
  values.
-/

namespace DeviceConsole

namespace DocumentValue

variable {entries nested existing : List (String × DocumentValue)} {name : String}
  {path : List String} {value : DocumentValue} {actual : Option DocumentValue}

/-! ## Values without nulls -/

mutual

/-- The value without names that hold null, in every document of it. -/
def withoutNulls : DocumentValue → DocumentValue
  | .document entries => .document (entriesWithoutNulls entries)
  | .scalar value => .scalar value

/-- The entries that do not hold null, each without nulls. -/
def entriesWithoutNulls : List (String × DocumentValue) → List (String × DocumentValue)
  | [] => []
  | (name, value) :: rest =>
    if value.isNull then entriesWithoutNulls rest
    else (name, withoutNulls value) :: entriesWithoutNulls rest

end

/-- What is left of a value under a name once nulls are gone. -/
def bare (held : Option DocumentValue) : Option DocumentValue :=
  (held.filter fun value => !value.isNull).map withoutNulls

theorem get?_entriesWithoutNulls (ordered : KeyList.Ordered entries) (name : String) :
    KeyList.get? name (entriesWithoutNulls entries) = bare (KeyList.get? name entries) := by
  induction entries with
  | nil => rfl
  | cons first rest ih =>
      obtain ⟨key, held⟩ := first
      have later := ih ordered.tail
      by_cases same : key = name
      · -- A null that goes uncovers no later entry of its name.
        subst same
        have absent : KeyList.get? key rest = none := ordered.get?_tail
        rw [absent] at later
        rw [entriesWithoutNulls]
        by_cases null : held.isNull = true
        · simpa [null, KeyList.get?, bare, Option.filter] using later
        · simp [null, KeyList.get?, bare, Option.filter]
      · rw [entriesWithoutNulls]
        split
        · simpa [KeyList.get?, same] using later
        · simpa [KeyList.get?, same] using later

/-! ## Values that are alike -/

/-- Two values have the same names at every level, and the same scalars under them. -/
inductive Alike : DocumentValue → DocumentValue → Prop where
  | document {entries others : List (String × DocumentValue)} :
      (∀ name, Option.Rel Alike (KeyList.get? name entries) (KeyList.get? name others)) →
      Alike (.document entries) (.document others)
  | scalar {value other : Json} :
      sameScalar value other = true → Alike (.scalar value) (.scalar other)

theorem Alike.rel_refl (each : ∀ entry ∈ entries, entry.2.Alike entry.2) (name : String) :
    Option.Rel Alike (KeyList.get? name entries) (KeyList.get? name entries) := by
  cases found : KeyList.get? name entries with
  | none => exact .none
  | some value => exact .some (each _ (KeyList.mem_of_get? found))

theorem Alike.refl (value : DocumentValue) : value.Alike value := by
  induction value using induction with
  | document entries ih => exact .document (Alike.rel_refl ih)
  | scalar value => exact .scalar (sameScalar_self value)

theorem rel_bare_refl (held : Option DocumentValue) :
    Option.Rel Alike (bare held) (bare held) := by
  cases bare held with
  | none => exact .none
  | some value => exact .some (.refl value)

/-- Null is the same scalar as null alone. -/
theorem eq_null_of_sameScalar {present : Json} (same : sameScalar .null present = true) :
    present = .null := by
  cases present with
  | null => rfl
  | bool | num | str | arr | obj => cases same

theorem eq_null_of_sameScalar_null {want : Json} (same : sameScalar want .null = true) :
    want = .null := by
  cases want with
  | null => rfl
  | bool | num | str | arr | obj => cases same

/-! ## What is settled -/

/-- A scalar that is reported already may stay in place of the wanted one. -/
theorem rel_bare_of_sameScalar {want present : Json} (same : sameScalar want present = true) :
    Option.Rel Alike (bare (patchedValue (some (.scalar present)) (.scalar want)))
      (bare (some (.scalar present))) := by
  cases want with
  | null =>
      obtain rfl := eq_null_of_sameScalar same
      exact .none
  | bool | num | str | arr | obj =>
      cases present with
      | null => exact nomatch eq_null_of_sameScalar_null same
      | bool | num | str | arr | obj => exact .some (.scalar same)

/-- What is asked for makes of a value what the wanted value makes of it. -/
theorem alike_settled (wanted : DocumentValue) (formed : wanted.WellFormed)
    (actual : Option DocumentValue) (held : Formed (entriesOf actual)) :
    Option.Rel Alike (bare (patchedValue actual wanted)) (bare (settled actual wanted)) := by
  induction wanted using induction generalizing actual with
  | document nested ih =>
      match actual with
      | none | some (.scalar _) =>
          -- The document is asked for as a whole, so both patches are the same.
          rw [settled_eq_patchedValue rfl]
          exact rel_bare_refl _
      | some (.document existing) =>
          have ordered := (formed_iff.1 formed).1
          have whole : Formed existing := held
          have one := (formed_iff.1 (whole.patchEntries nested)).1
          have other := (formed_iff.1 (whole.patchEntries (diffEntries existing nested))).1
          rw [settled_document]
          -- Both patches leave alone what is not wanted, and settle each wanted name by itself.
          refine .some (.document fun name => ?_)
          rw [get?_entriesWithoutNulls one, get?_entriesWithoutNulls other,
            get?_patchEntries existing ordered, get?_patchEntries_diffEntries existing ordered]
          cases found : KeyList.get? name nested with
          | none => exact rel_bare_refl _
          | some want =>
              have within := closed_wellFormed.found formed found
              exact ih _ (KeyList.mem_of_get? found) within _ (closed_wellFormed.entriesOf whole name)
  | scalar want =>
      match actual with
      | none =>
          cases want with
          | null => exact .none
          | bool | num | str | arr | obj =>
              rw [settled_eq_patchedValue rfl]
              exact rel_bare_refl _
      | some (.document _) =>
          rw [settled_eq_patchedValue (diffValue_scalar_document _ _)]
          exact rel_bare_refl _
      | some (.scalar present) =>
          by_cases same : sameScalar want present = true
          · -- Nothing is asked for, and the reported scalar stays in its own form.
            have quiet :
                settled (some (.scalar present)) (.scalar want) = some (.scalar present) := by
              rw [settled, diffValue_scalar, if_pos same]
            rw [quiet]
            exact rel_bare_of_sameScalar same
          · rw [settled_eq_patchedValue (by rw [diffValue_scalar, if_neg same])]
            exact rel_bare_refl _

/-- A name that is not wanted where documents meet keeps its value. -/
theorem at?_patchEntries_of_not_wanted {wanted reported : List (String × DocumentValue)}
    (formed : Formed wanted) (wants : (document wanted).at? path = some (.document nested))
    (there : (document reported).at? path = some (.document existing))
    (other : KeyList.get? name nested = none) :
    (document (patchEntries reported (diffEntries reported wanted))).at? (path ++ [name]) =
      (document reported).at? (path ++ [name]) := by
  have ordered := (formed_iff.1 formed).1
  induction path generalizing wanted reported with
  | nil =>
      cases wants
      cases there
      rw [List.nil_append, at?, at?, get?_patchEntries_diffEntries _ ordered, other]
  | cons first path ih =>
      rcases at?_cons_eq_some.1 wants with ⟨want, listed, wants⟩
      rcases at?_cons_eq_some.1 there with ⟨actual, found, there⟩
      obtain ⟨inner, rfl⟩ := eq_document_of_at?_document wants
      obtain ⟨held, rfl⟩ := eq_document_of_at?_document there
      have within : Formed inner := closed_wellFormed.found formed listed
      -- Both are documents, so the delta is merged where the path goes on.
      rw [List.cons_append, at?, at?, get?_patchEntries_diffEntries reported ordered, listed, found]
      simp only [settled_document, Option.bind_some]
      exact ih within wants there (formed_iff.1 within).1

end DocumentValue

/-! ## Shadows -/

namespace Document

def withoutNulls (d : Document) : Document := ⟨DocumentValue.entriesWithoutNulls d.entries⟩

def Alike (d e : Document) : Prop := d.toValue.Alike e.toValue

end Document

namespace ShadowState

open DocumentValue

/-- Up to nulls the delta makes of the reported document what the desired document makes of it.
Where the two have documents under one path, a name that is not desired keeps what is reported. -/
theorem patch_delta_alike (s : ShadowState) (desired : s.desired.WellFormed)
    (reported : s.reported.WellFormed) :
    (s.reported.patch s.desired).withoutNulls.Alike
      (s.reported.patch s.delta.delta).withoutNulls ∧
    ∀ path nested existing name, s.desired.at? path = some (.document nested) →
      s.reported.at? path = some (.document existing) → KeyList.get? name nested = none →
      (s.reported.patch s.delta.delta).at? (path ++ [name]) =
        s.reported.at? (path ++ [name]) := by
  constructor
  · have whole := alike_settled s.desired.toValue desired (some s.reported.toValue) reported
    rw [Document.toValue, Document.toValue, settled_document] at whole
    cases whole with
    | some alike => exact alike
  · intro path nested existing name wants there other
    exact at?_patchEntries_of_not_wanted desired wants there other

/-- An integer reported as a double stays a double, a null that is reported and wanted stays, and a
name beside the wanted ones keeps its value. -/
theorem patch_delta_alike_nested :
    let desired : Document :=
      ⟨[("a", .document [("x", .scalar .null), ("y", .scalar (.bool true))]),
      ("c", .scalar (.ofInt 1)), ("d", .scalar .null)]⟩
    let reported : Document := ⟨[("a", .document [("y", .scalar .null), ("z", .scalar (.str "k"))]),
      ("c", .scalar (.num (.float (Binary64.ofInt 1)))), ("d", .scalar .null)]⟩
    let s : ShadowState := ⟨desired, reported⟩
    desired.WellFormed ∧ reported.WellFormed ∧
      (reported.patch desired).withoutNulls.Alike (reported.patch s.delta.delta).withoutNulls ∧
      (reported.patch s.delta.delta).at? ["a", "z"] = some (.scalar (.str "k")) := by
  intro desired reported s
  have formed : desired.WellFormed :=
    ⟨by decide, ⟨by decide, trivial, trivial, trivial⟩, trivial, trivial, trivial⟩
  have whole : reported.WellFormed :=
    ⟨by decide, ⟨by decide, trivial, trivial, trivial⟩, trivial, trivial, trivial⟩
  rcases patch_delta_alike s formed whole with ⟨alike, kept⟩
  exact ⟨formed, whole, alike, kept ["a"] _ _ "z" rfl rfl rfl⟩

end ShadowState

end DeviceConsole
