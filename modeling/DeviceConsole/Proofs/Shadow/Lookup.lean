import DeviceConsole.Proofs.KeyList
import DeviceConsole.Shadow.Delta

/-!
# Lookups in patches and deltas

What a patch or a delta does is told by the value it leaves under each name.  This file proves

* `DocumentValue.induction`, induction over documents within documents;
* `DocumentValue.get?_patchEntries`, what a patch leaves under a name;
* `DocumentValue.get?_diffEntries`, what a delta asks for under a name.
-/

namespace DeviceConsole

namespace DocumentValue

/-! ## Induction -/

mutual

/-- What holds of a document if it holds of the values in it, and of all other values, holds of
every value. -/
theorem induction {motive : DocumentValue → Prop}
    (document : ∀ entries, (∀ entry ∈ entries, motive entry.2) → motive (.document entries))
    (scalar : ∀ value, motive (.scalar value)) : (v : DocumentValue) → motive v
  | .document entries => document entries (inductionEntries document scalar entries)
  | .scalar value => scalar value

theorem inductionEntries {motive : DocumentValue → Prop}
    (document : ∀ entries, (∀ entry ∈ entries, motive entry.2) → motive (.document entries))
    (scalar : ∀ value, motive (.scalar value)) :
    (entries : List (String × DocumentValue)) → ∀ entry ∈ entries, motive entry.2
  | [], _, member => nomatch member
  | (_, value) :: rest, entry, member => by
      rcases List.mem_cons.1 member with rfl | later
      · exact induction document scalar value
      · exact inductionEntries document scalar rest entry later

end

theorem entriesWellFormed_iff {entries : List (String × DocumentValue)} :
    EntriesWellFormed entries ↔ ∀ entry ∈ entries, entry.2.WellFormed := by
  induction entries with
  | nil => simp [EntriesWellFormed]
  | cons entry rest ih =>
      rcases entry with ⟨name, value⟩
      simp [EntriesWellFormed, ih]

/-! ## Patches -/

/-- What a patch makes of the value that was there before, if there was one. -/
def patchedValue (old : Option DocumentValue) : DocumentValue → Option DocumentValue
  | .document nested =>
    let inner := match old with
      | some (.document existing) => existing
      | _ => []
    some (.document (patchEntries inner nested))
  | .scalar .null => none
  | .scalar value => some (.scalar value)

/-- The entries that a document is merged into: those of the document that is there, or none. -/
def entriesOf : Option DocumentValue → List (String × DocumentValue)
  | some (.document existing) => existing
  | _ => []

theorem patchedValue_document (old : Option DocumentValue)
    (nested : List (String × DocumentValue)) :
    patchedValue old (.document nested) = some (.document (patchEntries (entriesOf old) nested)) := by
  match old with
  | none | some (.document _) | some (.scalar _) => rfl

theorem patchEntry_document (entries : List (String × DocumentValue)) (name : String)
    (nested : List (String × DocumentValue)) :
    patchEntry entries name (.document nested) =
      KeyList.insert name (.document (patchEntries (entriesOf (KeyList.get? name entries)) nested))
        entries := rfl

theorem get?_patchEntry (entries : List (String × DocumentValue)) (name other : String)
    (value : DocumentValue) :
    KeyList.get? other (patchEntry entries name value) =
      if name = other then patchedValue (KeyList.get? name entries) value
      else KeyList.get? other entries := by
  cases value with
  | document nested => exact KeyList.get?_insert name other _ entries
  | scalar value =>
      cases value with
      | null => simp only [patchEntry, KeyList.get?_erase, patchedValue]
      | bool | num | str | arr | obj =>
          simp only [patchEntry, KeyList.get?_insert, patchedValue]

/-- A patch in key order changes the values under its names, and no others. -/
theorem get?_patchEntries (entries : List (String × DocumentValue))
    {patch : List (String × DocumentValue)} (ordered : KeyList.Ordered patch) (name : String) :
    KeyList.get? name (patchEntries entries patch) =
      match KeyList.get? name patch with
      | some value => patchedValue (KeyList.get? name entries) value
      | none => KeyList.get? name entries := by
  induction patch generalizing entries with
  | nil => rfl
  | cons entry rest ih =>
      rcases entry with ⟨first, value⟩
      rw [patchEntries, ih _ ordered.tail, get?_patchEntry, KeyList.get?]
      by_cases same : first = name
      · subst same
        have absent : KeyList.get? first rest = none := ordered.get?_tail
        simp [absent]
      · simp [same]

/-! ## Deltas -/

/-- A value asks for all of itself, or, being a document, for the delta of another one. -/
theorem diffValue_cases {wanted missing : DocumentValue} {actual : Option DocumentValue}
    (asked : diffValue wanted actual = some missing) :
    missing = wanted ∨
    ∃ nested existing, wanted = .document nested ∧ actual = some (.document existing) ∧
      missing = .document (diffEntries existing nested) := by
  unfold diffValue at asked
  split at asked
  · next nested existing =>
      -- Two documents: only what differs inside is asked for.
      split at asked
      · cases asked
      · cases asked
        exact Or.inr ⟨nested, existing, rfl, rfl, rfl⟩
  · cases asked
  · split at asked
    · cases asked
    · cases asked
      exact Or.inl rfl
  · cases asked
    exact Or.inl rfl

/-- A delta asks for nothing exactly if no wanted value does. -/
theorem diffEntries_eq_nil_iff {reported wanted : List (String × DocumentValue)} :
    diffEntries reported wanted = [] ↔
      ∀ entry ∈ wanted, diffValue entry.2 (KeyList.get? entry.1 reported) = none := by
  induction wanted with
  | nil => simp [diffEntries]
  | cons entry rest ih =>
      rcases entry with ⟨name, value⟩
      rw [diffEntries]
      cases asked : diffValue value (KeyList.get? name reported) with
      | none => simp [asked, ih]
      | some missing => simp [asked]

theorem mem_diffEntries {reported wanted : List (String × DocumentValue)}
    {entry : String × DocumentValue} (member : entry ∈ diffEntries reported wanted) :
    ∃ value, (entry.1, value) ∈ wanted ∧
      diffValue value (KeyList.get? entry.1 reported) = some entry.2 := by
  induction wanted with
  | nil => cases member
  | cons first rest ih =>
      rcases first with ⟨name, value⟩
      rw [diffEntries] at member
      split at member
      · next missing asked =>
          rcases List.mem_cons.1 member with rfl | later
          · exact ⟨value, List.mem_cons_self, asked⟩
          · rcases ih later with ⟨other, found, same⟩
            exact ⟨other, List.mem_cons_of_mem _ found, same⟩
      · rcases ih member with ⟨other, found, same⟩
        exact ⟨other, List.mem_cons_of_mem _ found, same⟩

/-- A delta is in key order, as what is wanted is. -/
theorem ordered_diffEntries (reported : List (String × DocumentValue))
    {wanted : List (String × DocumentValue)} (ordered : KeyList.Ordered wanted) :
    KeyList.Ordered (diffEntries reported wanted) := by
  induction wanted with
  | nil => exact List.Pairwise.nil
  | cons first rest ih =>
      rcases first with ⟨name, value⟩
      rw [diffEntries]
      split
      · refine List.pairwise_cons.2 ⟨?_, ih ordered.tail⟩
        intro entry member
        rcases mem_diffEntries member with ⟨other, found, -⟩
        exact (List.pairwise_cons.1 ordered).1 (entry.1, other) found
      · exact ih ordered.tail

/-- A delta asks under each name for what the wanted value asks of the reported one. -/
theorem get?_diffEntries (reported : List (String × DocumentValue))
    {wanted : List (String × DocumentValue)} (ordered : KeyList.Ordered wanted) (name : String) :
    KeyList.get? name (diffEntries reported wanted) =
      (KeyList.get? name wanted).bind fun value =>
        diffValue value (KeyList.get? name reported) := by
  induction wanted with
  | nil => rfl
  | cons first rest ih =>
      rcases first with ⟨key, value⟩
      rw [diffEntries, KeyList.get?]
      by_cases same : key = name
      · -- An entry that asks for nothing hides no other one with its name.
        subst same
        have absent : KeyList.get? key rest = none := ordered.get?_tail
        cases asked : diffValue value (KeyList.get? key reported) with
        | none => simp [asked, ih ordered.tail, absent]
        | some missing => simp [asked, KeyList.get?]
      · cases asked : diffValue value (KeyList.get? key reported) with
        | none => simp [same, ih ordered.tail]
        | some missing => simp [KeyList.get?, same, ih ordered.tail]

end DocumentValue

end DeviceConsole
