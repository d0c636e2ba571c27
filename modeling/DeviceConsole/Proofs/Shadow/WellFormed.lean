import DeviceConsole.Proofs.Shadow.Closed

/-!
# Documents are well formed

Names increase at every level of a document that was read, and stay so under every operation.  This
file proves

* `Document.wellFormed_ofJson?`, about documents that were read;
* `Document.wellFormed_insert` and `Document.wellFormed_remove`;
* `Document.wellFormed_patch` and `ShadowState.wellFormed_delta`.
-/

namespace DeviceConsole

namespace DocumentValue

/-- Names increase in a list of entries, and in every document below it. -/
def Formed (entries : List (String × DocumentValue)) : Prop := WellFormed (.document entries)

theorem formed_iff {entries : List (String × DocumentValue)} :
    Formed entries ↔ KeyList.Ordered entries ∧ ∀ entry ∈ entries, entry.2.WellFormed := by
  rw [Formed, WellFormed, entriesWellFormed_iff]

/-! ## Operations -/

variable {entries patch reported : List (String × DocumentValue)} {name : String}
  {value : DocumentValue}

theorem closed_wellFormed : Closed WellFormed where
  empty := formed_iff.2 ⟨List.Pairwise.nil, nofun⟩
  found whole there := (formed_iff.1 whole).2 _ (KeyList.mem_of_get? there)
  insert whole fresh := by
    rcases formed_iff.1 whole with ⟨ordered, values⟩
    refine formed_iff.2 ⟨KeyList.ordered_insert ordered, ?_⟩
    intro entry member
    rcases KeyList.mem_insert member with rfl | member
    · exact fresh
    · exact values entry member
  erase whole := by
    rcases formed_iff.1 whole with ⟨ordered, values⟩
    refine formed_iff.2 ⟨KeyList.ordered_erase ordered, ?_⟩
    intro entry member
    exact values entry (List.mem_filter.1 member).1

theorem wellFormed_ofJson (json : Json) : (ofJson json).WellFormed :=
  closed_wellFormed.ofJson (fun _ _ _ => trivial) json

/-- Whatever is merged into a well-formed document, in whatever order, leaves it well formed. -/
theorem Formed.patchEntries (h : Formed entries) (patch : List (String × DocumentValue)) :
    Formed (patchEntries entries patch) :=
  closed_wellFormed.patchEntries h (scalars_of_forall (fun _ => trivial) _)

/-! ## Deltas -/

theorem Formed.diffEntries_of_forall (h : Formed entries)
    (keeps : ∀ entry ∈ entries, ∀ actual missing, diffValue entry.2 actual = some missing →
      missing.WellFormed) : Formed (diffEntries reported entries) := by
  refine formed_iff.2 ⟨ordered_diffEntries reported (formed_iff.1 h).1, ?_⟩
  intro entry member
  rcases mem_diffEntries member with ⟨value, found, asked⟩
  exact keeps _ found _ _ asked

/-- What a well-formed value asks for is well formed. -/
theorem wellFormed_missing (wanted : DocumentValue) (h : wanted.WellFormed)
    (actual : Option DocumentValue) (missing : DocumentValue)
    (asked : diffValue wanted actual = some missing) : missing.WellFormed := by
  induction wanted using induction generalizing actual missing with
  | document entries ih =>
      rcases diffValue_cases asked with rfl | ⟨nested, existing, same, -, rfl⟩
      · exact h
      · cases same
        exact Formed.diffEntries_of_forall h fun entry member =>
          ih entry member ((formed_iff.1 h).2 entry member)
  | scalar value =>
      rcases diffValue_cases asked with rfl | ⟨nested, existing, same, -, -⟩
      · exact h
      · cases same

end DocumentValue

/-! ## Documents -/

namespace Document

/-- Every document that can be read is well formed. -/
theorem wellFormed_ofJson? {json : Json} {d : Document} (h : ofJson? json = some d) :
    d.WellFormed := by
  cases json with
  | obj members =>
      cases h
      exact DocumentValue.wellFormed_ofJson (.obj members)
  | null | bool | num | str | arr => cases h

theorem wellFormed_insert {d : Document} (h : d.WellFormed) (name : String)
    {value : DocumentValue} (hv : value.WellFormed) : (d.insert name value).WellFormed :=
  DocumentValue.closed_wellFormed.insert h hv

theorem wellFormed_remove {d : Document} (h : d.WellFormed) (name : String) :
    (d.remove name).WellFormed :=
  DocumentValue.closed_wellFormed.erase h

theorem wellFormed_patch {d : Document} (h : d.WellFormed) (p : Document) :
    (d.patch p).WellFormed :=
  DocumentValue.Formed.patchEntries h p.entries

end Document

theorem ShadowState.wellFormed_delta {s : ShadowState} (h : s.desired.WellFormed) :
    s.delta.delta.WellFormed :=
  DocumentValue.Formed.diffEntries_of_forall h fun entry member =>
    DocumentValue.wellFormed_missing entry.2 ((DocumentValue.formed_iff.1 h).2 entry member)

end DeviceConsole
